import SelectorCatalog.Host.Disk
import SelectorCatalog.Host.Memory

/-!
# Stores

Where files are kept: in memory or on a disk. Both answer the same questions; links, directories of
their own and files that hold no text are found on a disk only.
-/

namespace SelectorCatalog.Host

/-- A place for files. -/
inductive Store where
  | memory (files : Memory)
  | disk (disk : Disk)
deriving DecidableEq, Repr

namespace Store

/-- The size and age of a file. -/
def stat : Store → Path → Except Error FileStat
  | memory files, path => files.stat path
  | disk d, path => d.stat path

/-- The text of a file. -/
def read : Store → Path → Except Error String
  | memory files, path => files.read path
  | disk d, path => d.read path

/-- The file that a path leads to. -/
def resolve : Store → Path → Except Error Path
  | memory files, path => files.resolve path
  | disk d, path => d.resolve path

/-- The contents of a directory. -/
def list : Store → Path → Except Error (List DirEntry)
  | memory files, dir => files.list dir
  | disk d, dir => d.list dir

/-- The disk that a store reads directly; files in memory leave it empty. -/
def directly : Store → Disk
  | memory _ => {}
  | disk d => d

/-- A store after a change of its disk, and whether the change could be made. -/
def onDisk (s : Store) (change : Disk → Option Disk) : Store × Bool :=
  match s with
  | memory files => (memory files, false)
  | disk d =>
    match change d with
    | some d => (disk d, true)
    | none => (disk d, false)

/-- Writes a text; also, whether it could be written. -/
def write (s : Store) (path : Path) (text : String) (modified : Time) : Store × Bool :=
  match s with
  | memory files => (memory (files.write ⟨path, text, modified⟩), true)
  | disk _ => s.onDisk fun d => d.write? path text.toUTF8.toList modified

/-- Removes what is at a path; also, whether there was something. -/
def remove (s : Store) (path : Path) : Store × Bool :=
  match s with
  | memory files => (memory (files.remove path), (files.find? path).isSome)
  | disk _ => s.onDisk fun d => d.remove? path

end Store

end SelectorCatalog.Host
