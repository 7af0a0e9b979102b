import SelectorCatalog.Error
import SelectorCatalog.Rule

/-!
# The host

What the catalogue asks of the system around it, and what it is answered: where a path leads, the
size and age of a file, its text, the contents of a directory, and the rules of a stylesheet. Every
request may be answered at any later time, and every one but the last two may fail.
-/

namespace SelectorCatalog

/-- A point in time, in seconds. -/
abbrev Time := Int

/-- The size and age of a file. -/
structure FileStat where
  modified : Time
  size : Nat
deriving DecidableEq, Repr

/-- One member of a directory. -/
structure DirEntry where
  path : Path
  name : String
  isFile : Bool
  isDirectory : Bool
deriving DecidableEq, Repr

/-- What a host is asked for. -/
inductive Request where
  /-- The file that a path leads to. -/
  | resolve (path : Path)
  | stat (path : Path)
  | read (path : Path)
  | list (dir : Path)
  /-- The rules of one of several texts. -/
  | parse (block : Nat) (text : String)
  /-- An index of the rules read, which takes time but cannot fail. -/
  | build
deriving DecidableEq, Repr

/-- What a host answers. -/
inductive Answer where
  | resolved (result : Except Error Path)
  | stat (result : Except Error FileStat)
  | text (result : Except Error String)
  | listing (result : Except Error (List DirEntry))
  | parsed (block : Nat) (result : Except Error (List Rule))
  | built

end SelectorCatalog
