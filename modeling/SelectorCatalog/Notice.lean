import SelectorCatalog.Error

/-!
# Notices

What the catalogue reports while it works: each occasion with its data, its level, and one line of
text that ends with the data as `name=value`.
-/

namespace SelectorCatalog

/-- How urgent a notice is. -/
inductive Level where
  | info
  | warn
deriving DecidableEq, Repr

/-- The name of a level. -/
def Level.text : Level → String
  | info => "info"
  | warn => "warn"

/-- An occasion for a notice. -/
inductive Notice where
  /-- The configured project root is a relative path. -/
  | relativeRoot (root : Path)
  /-- The parser refused a style element of a document. -/
  | blockRefused (document : Path) (error : Error)
  /-- A stylesheet could not be read when its entry was opened. -/
  | openFailed (path : Path) (error : Error)
  | fetchFailed (path : Path) (error : Error)
  /-- The path of a wanted entry names no file. -/
  | notCreated (path : Path) (error : Error)
  /-- The path of a wanted entry is registered as the other kind. -/
  | otherKind (wanted : EntryKind) (error : Error)
  | stylesheetAdded (path : Path)
  | stylesheetGone (path : Path)
  | stylesheetUpdated (path : Path)
  | checkFailed (path : Path) (error : Error)
  | listFailed (dir : Path) (error : Error)
  /-- A project scan found `found` stylesheets, of which `cached` have entries. -/
  | projectCached (root : Path) (found cached : Nat)
deriving DecidableEq, Repr

namespace Notice

/-- The level of a notice. -/
def level : Notice → Level
  | stylesheetAdded _ | stylesheetGone _ | stylesheetUpdated _ | projectCached .. => .info
  | _ => .warn

/-- The message of a notice. -/
def message : Notice → String
  | relativeRoot _ =>
    "project_root is relative; root-relative links will resolve against it as given"
  | blockRefused .. => "inline style block failed to parse"
  | openFailed .. => "initial stylesheet fetch failed"
  | fetchFailed .. => "fetch failed"
  | notCreated .. => "could not create cache"
  | otherKind .. => "cache kind mismatch"
  | stylesheetAdded _ => "new stylesheet detected"
  | stylesheetGone _ => "stylesheet removed"
  | stylesheetUpdated _ => "detected update"
  | checkFailed .. => "update check failed"
  | listFailed .. => "could not list directory"
  | projectCached .. => "project stylesheets cached"

/-- The data of a notice, by name. -/
def fields : Notice → List (String × String)
  | relativeRoot root => [("project_root", root.text)]
  | blockRefused path error | openFailed path error | fetchFailed path error | notCreated path error
  | checkFailed path error => [("path", path.text), ("error", error.message)]
  | otherKind wanted error => [("requested", wanted.text), ("error", error.message)]
  | stylesheetAdded path | stylesheetGone path | stylesheetUpdated path => [("path", path.text)]
  | listFailed dir error => [("dir", dir.text), ("error", error.message)]
  | projectCached root found cached =>
    [("root", root.text), ("found", toString found), ("cached", toString cached)]

/-- The line of a notice. -/
def line (n : Notice) : String :=
  n.level.text ++ ": " ++ n.message ++
    String.join (n.fields.map fun (name, value) => " " ++ name ++ "=" ++ value)

end Notice

end SelectorCatalog
