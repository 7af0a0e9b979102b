import SelectorCatalog.Path

/-!
# Errors

What can go wrong between asking for a file and having its names: each cause with its data, and one
text for each, led by a fixed code.
-/

namespace SelectorCatalog

/-- The kind of file that an entry indexes. -/
inductive EntryKind where
  | html
  | css
deriving DecidableEq, Repr

/-- The name of a kind. -/
def EntryKind.text : EntryKind → String
  | html => "html"
  | css => "css"

/-- A failed file operation: whether the file was absent, and what the system said. -/
structure FileFault where
  absent : Bool
  reason : String
deriving DecidableEq, Repr

/-- The causes of failure. -/
inductive Error where
  /-- The file does not exist, or is not a regular file. -/
  | notFound (path : Path)
  | readFailed (path : Path) (reason : String)
  /-- The path could not be turned into a file. -/
  | resolveFailed (path : Path) (reason : String)
  /-- The parser refused the stylesheet. -/
  | parseFailed (reason : String)
  | tooLarge (path : Path) (size limit : Nat)
  /-- The path is registered as the other kind. -/
  | kindMismatch (path : Path) (registered : EntryKind)
  | disposed
deriving DecidableEq, Repr

namespace Error

/-- The text of an error. -/
def message : Error → String
  | notFound path => "NOT_FOUND: " ++ path.text
  | readFailed path reason => "READ_FAILED: " ++ path.text ++ ": " ++ reason
  | resolveFailed path reason => "RESOLVE_FAILED: " ++ path.text ++ ": " ++ reason
  | parseFailed reason => "PARSE_FAILED: " ++ reason
  | tooLarge path size limit =>
    "TOO_LARGE: " ++ path.text ++ " (" ++ toString size ++ " bytes exceeds " ++ toString limit ++
      ")"
  | kindMismatch path registered =>
    "KIND_MISMATCH: " ++ path.text ++ " is registered as " ++ registered.text
  | disposed => "DISPOSED"

/-- The error of a read that failed: absence is told apart from every other fault. -/
def ofFault (path : Path) (fault : FileFault) : Error :=
  if fault.absent then notFound path else readFailed path fault.reason

/-- Whether the file no longer exists. -/
def isNotFound : Error → Bool
  | notFound _ => true
  | _ => false

end Error

end SelectorCatalog
