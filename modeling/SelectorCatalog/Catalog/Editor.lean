import SelectorCatalog.Catalog.Run

/-!
# Editors

An editor that becomes active asks for the entry of the document that it shows.
-/

namespace SelectorCatalog

/-- An active editor: the file that it shows, and the language that it takes it for. -/
structure Editor where
  path : Path
  language : String
deriving DecidableEq, Repr

namespace Editor

/-- Whether the editor shows a document; the case of ASCII letters does not matter. -/
def showsDocument (e : Editor) : Bool :=
  e.language.toLower == "html"

/-- What an editor asks of the catalogue when it becomes active. -/
def call? (e : Editor) : Option Catalog.Call :=
  if e.showsDocument then some (.create .html e.path true) else none

end Editor

end SelectorCatalog
