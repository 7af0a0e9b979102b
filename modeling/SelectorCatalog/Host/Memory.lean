import SelectorCatalog.Host
import SelectorCatalog.Path.Normal

/-!
# Files in memory

Texts by path. A directory is there as long as a file is below it, and paths that name the same
place are one key.
-/

namespace SelectorCatalog.Host

/-- A text with its age. -/
structure MemoryFile where
  path : Path
  text : String
  modified : Time
deriving DecidableEq, Repr

/-- Files in memory, one for each place. -/
structure Memory where
  files : List MemoryFile := []
deriving DecidableEq, Repr

namespace Memory

/-- The file at a path. -/
def find? (m : Memory) (path : Path) : Option MemoryFile :=
  m.files.find? (·.path.same path)

/-- Puts a file at its path, in the place of the one there. -/
def write (m : Memory) (file : MemoryFile) : Memory :=
  if (m.find? file.path).isSome then
    ⟨m.files.map fun f => if f.path.same file.path then file else f⟩
  else ⟨m.files ++ [file]⟩

/-- Removes the file at a path. -/
def remove (m : Memory) (path : Path) : Memory :=
  ⟨m.files.filter fun f => !f.path.same path⟩

/-- The size and age of a file. -/
def stat (m : Memory) (path : Path) : Except Error FileStat :=
  match m.find? path with
  | some file => .ok ⟨file.modified, file.text.utf8ByteSize⟩
  | none => .error (.notFound path)

/-- The text of a file. -/
def read (m : Memory) (path : Path) : Except Error String :=
  match m.find? path with
  | some file => .ok file.text
  | none => .error (.notFound path)

/-- Where a path leads: to its normal form, if there is a file. -/
def resolve (m : Memory) (path : Path) : Except Error Path :=
  let normal := path.normalize
  if (m.find? normal).isSome then .ok normal else .error (.notFound path)

/-- The member of a directory that a path below it belongs to. -/
def member (dir : Path) (first : Path.Part) (isFile : Bool) : DirEntry :=
  ⟨dir.join first.render, first.render, isFile, !isFile⟩

/-- Adds a member, unless it is a directory that is there already. -/
def addMember (members : List DirEntry) (m : DirEntry) : List DirEntry :=
  if m.isDirectory && members.any fun n => n.isDirectory && n.name == m.name then members
  else members ++ [m]

/-- The members of a directory, in the order of the paths below it. -/
def members (m : Memory) (dir : Path) : List DirEntry :=
  let sorted := m.files.mergeSort fun f g => !Path.partsBefore g.path.parts f.path.parts
  sorted.foldl (fun members f =>
    match dir.partsBelow? f.path with
    | some (first :: rest) => addMember members (member dir first rest.isEmpty)
    | _ => members) []

/-- The contents of a directory. -/
def list (m : Memory) (dir : Path) : Except Error (List DirEntry) :=
  match m.members dir with
  | [] => .error (.notFound dir)
  | members => .ok members

end Memory

end SelectorCatalog.Host
