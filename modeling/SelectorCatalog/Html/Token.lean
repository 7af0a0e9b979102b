/-!
# Tokens of a document

The lexical units of a document. The names of tags and attributes are in lower case, and the values
of attributes have their character references replaced.
-/

namespace SelectorCatalog.Html

/-- A tag: its name and its attributes, in the order written and without repeated names. -/
structure Tag where
  name : String
  attributes : List (String × String) := []
  selfClosing : Bool := false
deriving DecidableEq, Repr

/-- The value of the attribute with a name. -/
def Tag.attribute? (tag : Tag) (name : String) : Option String :=
  tag.attributes.lookup name

/-- Whether a tag has an attribute with this name. -/
def Tag.has (tag : Tag) (name : String) : Bool :=
  (tag.attribute? name).isSome

/-- A lexical unit. -/
inductive Token where
  | opening (tag : Tag)
  | closing (tag : Tag)
  | char (c : Char)
  | comment
deriving DecidableEq, Repr

/-- How the text after a tag is read. -/
inductive Content where
  /-- Tags, comments and character references. -/
  | markup
  /-- Text with character references, up to the closing tag of that name. -/
  | escapable (name : String)
  /-- Text as it stands, up to the closing tag of that name. -/
  | raw (name : String)
  /-- A script, up to a closing tag outside its own comments. -/
  | script
  /-- Text as it stands, up to the end of the document. -/
  | plain
deriving DecidableEq, Repr

/-- The characters that part the attributes of a tag and count as blank between elements. -/
def isSpace (c : Char) : Bool :=
  c == '\t' || c == '\n' || c == '\r' || c == '\x0c' || c == ' '

end SelectorCatalog.Html
