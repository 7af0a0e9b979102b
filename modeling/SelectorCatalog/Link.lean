import SelectorCatalog.Path.Normal
import SelectorCatalog.Text.Lower

/-!
# Links to stylesheets

The target of a link counts as a local stylesheet when, its query and fragment left out, it names a
`.css` file inside the project. A local target resolves to a path: from the project root when it
starts with a slash, else from the directory of the document that holds the link.
-/

namespace SelectorCatalog.Link

/-- Beginnings, in lower case, of targets outside the project. -/
def externalSchemes : List (List Char) :=
  ["http://".toList, "https://".toList, "//".toList]

/-- Whether a target points outside the project; the case of its letters does not matter. -/
def isExternal (href : List Char) : Bool :=
  let lowered := (Text.trimStart href).map Char.toLower
  externalSchemes.any fun scheme => scheme.isPrefixOf lowered

/-- The part of a target before its query and fragment. -/
def withoutQuery (href : List Char) : List Char :=
  href.takeWhile fun c => c != '?' && c != '#'

/-- The file that a target names: blanks around it, query and fragment are left out. -/
def file (href : List Char) : List Char :=
  withoutQuery (Text.trim href)

/-- The ending, in lower case, of a stylesheet's name. -/
def stylesheetSuffix : List Char := ".css".toList

/-- Whether a target names a stylesheet inside the project. -/
def isLocalStylesheet (href : List Char) : Bool :=
  let name := file href
  !name.isEmpty && !isExternal name && stylesheetSuffix.isSuffixOf (name.map Char.toLower)

/-- The text of a directory with every backslash turned into a slash. -/
def slashed (dir : Option Path) : List Char :=
  (dir.map fun p => p.text.toList.map fun c => if c == '\\' then '/' else c).getD []

/-- The directory that a target starts from. -/
def base (name : List Char) (document : Path) (root : Option Path) : List Char :=
  -- a target from the root takes no part of the document's place
  if name.head? == some '/' then slashed root else slashed document.parent?

/-- The path that a target names, seen from `document` in a project below `root`. -/
def resolve (href : List Char) (document : Path) (root : Option Path) : Path :=
  let name := file href
  -- without a directory the slash stays, and makes the path absolute
  ⟨String.ofList (Path.normalizeChars (base name document root ++ '/' :: name))⟩

end SelectorCatalog.Link
