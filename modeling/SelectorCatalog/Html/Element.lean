import SelectorCatalog.Html.Token

/-!
# Elements

An element that is open while a document is read, and the classes of elements that the rules of HTML
speak of.
-/

namespace SelectorCatalog.Html

/-- The vocabularies that elements belong to. -/
inductive Space where
  | html
  | svg
  | math
deriving DecidableEq, Repr

/-- The number of a node in its tree. -/
abbrev NodeId := Nat

/-- An open element: its node, and what its tag said. -/
structure Element where
  node : NodeId
  space : Space
  name : String
  attributes : List (String × String)
deriving DecidableEq, Repr

namespace Element

/-- Whether an element is the HTML element of that name. -/
def isHtml (e : Element) (name : String) : Bool :=
  e.space == .html && e.name == name

/-- Whether an element is an HTML element with one of the names. -/
def isAny (e : Element) (names : List String) : Bool :=
  e.space == .html && names.contains e.name

/-- Whether an element is one of MathML's that hold text. -/
def holdsText (e : Element) : Bool :=
  e.space == .math && ["mi", "mo", "mn", "ms", "mtext"].contains e.name

/-- Whether an element is one of SVG's that hold HTML. -/
def holdsHtml (e : Element) : Bool :=
  e.space == .svg && ["foreignObject", "desc", "title"].contains e.name

/-! ## Classes -/

/-- Names of headings. -/
def headings : List String := ["h1", "h2", "h3", "h4", "h5", "h6"]

/-- Names of the elements that end the search for the start of an element that a closing tag names.
-/
def specials : List String :=
  ["address", "applet", "area", "article", "aside", "base", "basefont", "bgsound", "blockquote",
    "body", "br", "button", "caption", "center", "col", "colgroup", "dd", "details", "dir", "div",
    "dl", "dt", "embed", "fieldset", "figcaption", "figure", "footer", "form", "frame", "frameset",
    "h1", "h2", "h3", "h4", "h5", "h6", "head", "header", "hgroup", "hr", "html", "iframe", "img",
    "input", "isindex", "li", "link", "listing", "main", "marquee", "menu", "meta", "nav",
    "noembed", "noframes", "noscript", "object", "ol", "p", "param", "plaintext", "pre", "script",
    "section", "select", "source", "style", "summary", "table", "tbody", "td", "template",
    "textarea", "tfoot", "th", "thead", "title", "tr", "track", "ul", "wbr", "xmp"]

/-- Whether an element is special. -/
def isSpecial (e : Element) : Bool :=
  e.isAny specials

/-- Names of the elements that may be closed without a closing tag. -/
def impliedEnds : List String :=
  ["dd", "dt", "li", "option", "optgroup", "p", "rb", "rp", "rt", "rtc"]

/-- Names of the elements that the end of a template closes. -/
def thoroughEnds : List String :=
  impliedEnds ++ ["caption", "colgroup", "tbody", "td", "tfoot", "th", "thead", "tr"]

/-- Whether an element bounds the usual scope. -/
def boundsScope (e : Element) : Bool :=
  e.isAny ["applet", "caption", "html", "table", "td", "th", "marquee", "object", "template"]
    || e.holdsText || e.holdsHtml

/-- Whether an element bounds the scope of list items. -/
def boundsListScope (e : Element) : Bool :=
  e.boundsScope || e.isAny ["ol", "ul"]

/-- Whether an element bounds the scope of paragraphs. -/
def boundsButtonScope (e : Element) : Bool :=
  e.boundsScope || e.isHtml "button"

/-- Whether an element bounds the scope of table parts. -/
def boundsTableScope (e : Element) : Bool :=
  e.isAny ["html", "table", "template"]

/-- Whether an element bounds the scope of a list of choices. -/
def boundsSelectScope (e : Element) : Bool :=
  !e.isAny ["optgroup", "option"]

end Element

/-- Whether the innermost elements, up to the first that `bound` holds of, have one that `target`
holds of. -/
def inScope (bound target : Element → Bool) : List Element → Bool
  | [] => false
  | e :: outer => target e || (!bound e && inScope bound target outer)

/-- Drops the innermost elements up to and with the first that `target` holds of. -/
def closeThrough (target : Element → Bool) : List Element → List Element
  | [] => []
  | e :: outer => if target e then outer else closeThrough target outer

end SelectorCatalog.Html
