import SelectorCatalog.Host
import SelectorCatalog.Text.Split

/-!
# The disk

Files, directories and symbolic links, known by the names that lead to them from the root. A path is
followed part by part: what is not a directory has nothing below it, and a link is followed at most
forty times.
-/

namespace SelectorCatalog.Host

/-- What has a name on the disk. -/
inductive Item where
  | file (bytes : List UInt8) (modified : Time)
  | directory
  | link (target : String)
deriving DecidableEq, Repr

/-- The names that lead from the root to an item. -/
abbrev Place := List String

/-- The items of a disk by their places; the root is always there. -/
structure Disk where
  items : List (Place × Item) := []
deriving DecidableEq, Repr

/-- Why the system refuses. -/
inductive DiskFault where
  | noEntry
  | notDirectory
  | isDirectory
  | tooManyLinks
  | nameTooLong
  | nulByte
  | notText
deriving DecidableEq, Repr

/-- What the system says. -/
def DiskFault.reason : DiskFault → String
  | noEntry => "No such file or directory (os error 2)"
  | notDirectory => "Not a directory (os error 20)"
  | isDirectory => "Is a directory (os error 21)"
  | tooManyLinks => "Too many levels of symbolic links (os error 40)"
  | nameTooLong => "File name too long (os error 36)"
  | nulByte => "file name contained an unexpected NUL byte"
  | notText => "stream did not contain valid UTF-8"

/-- A fault as a failed file operation: only a missing entry counts as absence. -/
def DiskFault.fault (f : DiskFault) : FileFault :=
  ⟨f == .noEntry, f.reason⟩

namespace Disk

/-- The item at a place. -/
def item? (d : Disk) (place : Place) : Option Item :=
  if place.isEmpty then some .directory else d.items.lookup place

/-- Whether a directory is at a place. -/
def isDirectory (d : Disk) (place : Place) : Bool :=
  d.item? place == some .directory

/-- Puts an item at a place. -/
def put (d : Disk) (place : Place) (item : Item) : Disk :=
  ⟨d.items.filter (·.1 != place) ++ [(place, item)]⟩

/-- Removes a place and all below it. -/
def cut (d : Disk) (place : Place) : Disk :=
  ⟨d.items.filter fun i => !place.isPrefixOf i.1⟩

/-- The parts of a text between slashes. -/
def segments (text : String) : List String :=
  (Text.split (· == '/') text.toList).map String.ofList

/-- The size of the longest name. -/
def longestName : Nat := 255

/-- The size of the longest path. -/
def longestPath : Nat := 4095

/-- The number of links that are followed on one path. -/
def mostLinks : Nat := 40

/-- Follows the parts of a path from a place. An empty part and `.` stay where they are, which has
to be a directory all the same. -/
def follow (d : Disk) (links : Nat) (at_ : Place) (parts : List String) : Except DiskFault Place :=
  match parts with
  | [] => .ok at_
  | part :: rest =>
    if !d.isDirectory at_ then .error .notDirectory
    else if part == "" || part == "." then follow d links at_ rest
    else if part == ".." then follow d links at_.dropLast rest
    else if longestName < part.utf8ByteSize then .error .nameTooLong
    else
      match d.item? (at_ ++ [part]) with
      | none => .error .noEntry
      | some (.link target) =>
        match links with
        | 0 => .error .tooManyLinks
        | links + 1 =>
          -- the target starts at the root or beside the link; what was left of the path follows it
          follow d links (if target.toList.head? == some '/' then [] else at_)
            (segments target ++ rest)
      | some _ => follow d links (at_ ++ [part]) rest
termination_by (links, parts.length)

/-- Whether a path can be followed at all. -/
def checkText (text : String) : Except DiskFault Unit :=
  if text.toList.any (·.toNat == 0) then .error .nulByte
  else if text.isEmpty then .error .noEntry
  else if longestPath < text.utf8ByteSize then .error .nameTooLong
  else .ok ()

/-- The place that a path leads to. -/
def locate (d : Disk) (path : Path) : Except DiskFault Place := do
  checkText path.text
  d.follow mostLinks [] (segments path.text)

/-- The path of a place. -/
def pathOf (place : Place) : Path :=
  ⟨"/" ++ String.intercalate "/" place⟩

/-- The text of bytes. -/
def decode (bytes : List UInt8) : Except DiskFault String :=
  match String.fromUTF8? ⟨bytes.toArray⟩ with
  | some text => .ok text
  | none => .error .notText

/-- The text that a path leads to. -/
def textAt (d : Disk) (path : Path) : Except DiskFault String := do
  let place ← d.locate path
  match d.item? place with
  | some (.file bytes _) => decode bytes
  | some .directory => .error .isDirectory
  | _ => .error .noEntry

/-- The text of a file. -/
def read (d : Disk) (path : Path) : Except Error String :=
  (d.textAt path).mapError fun f => Error.ofFault path f.fault

/-- The size and age of a file; anything else counts as absent. -/
def stat (d : Disk) (path : Path) : Except Error FileStat :=
  match d.locate path with
  | .error f => .error (Error.ofFault path f.fault)
  | .ok place =>
    match d.item? place with
    | some (.file bytes modified) => .ok ⟨modified, bytes.length⟩
    | _ => .error (.notFound path)

/-- The file that a path leads to, all links followed. -/
def resolve (d : Disk) (path : Path) : Except Error Path :=
  match d.locate path with
  -- a file in the way of the path is a fault of resolving and no absence
  | .error f => .error (if f == .noEntry then .notFound path else .resolveFailed path f.reason)
  | .ok place =>
    match d.item? place with
    | some (.file ..) => .ok (pathOf place)
    | _ => .error (.notFound path)

/-- A member of a directory; links are not followed. -/
def member (dir : Path) (name : String) (item : Item) : DirEntry :=
  let isFile := match item with
    | .file .. => true
    | _ => false
  ⟨dir.join name, name, isFile, item == .directory⟩

/-- The members of the directory at a place. -/
def membersAt (d : Disk) (dir : Path) (place : Place) : List DirEntry :=
  let members := d.items.filterMap fun (p, item) =>
    match p.getLast? with
    | some name => if p.dropLast == place then some (member dir name item) else none
    | none => none
  members.mergeSort fun a b => decide (a.name ≤ b.name)

/-- The contents of a directory. -/
def list (d : Disk) (dir : Path) : Except Error (List DirEntry) :=
  match d.locate dir with
  | .error f => .error (Error.ofFault dir f.fault)
  | .ok place =>
    -- a file has no members, and asking for them is a fault
    if d.isDirectory place then .ok (d.membersAt dir place)
    else .error (Error.ofFault dir DiskFault.notDirectory.fault)

/-! ## Changes -/

/-- Follows parts and creates the directories that are missing; `none` where something else is in
the way. -/
def makeParts (d : Disk) (at_ : Place) : List String → Option (Disk × Place)
  | [] => some (d, at_)
  | part :: rest =>
    if part == "" || part == "." then makeParts d at_ rest
    else if part == ".." then makeParts d at_.dropLast rest
    else
      let next := at_ ++ [part]
      match d.item? next with
      | none => makeParts (d.put next .directory) next rest
      | some .directory => makeParts d next rest
      | some (.file ..) => none
      -- a link may stand in for a directory
      | some (.link _) =>
        match d.follow mostLinks at_ [part] with
        | .ok place => if d.isDirectory place then makeParts d place rest else none
        | .error _ => none

/-- The directory of a path and the last name in it. -/
def splitLast (path : Path) : List String × String :=
  let parts := (segments path.text).filter fun part => part != "" && part != "."
  (parts.dropLast, parts.getLast?.getD "")

/-- Writes a file, creating the directories that it needs; `none` where something else is in the
way. -/
def write? (d : Disk) (path : Path) (bytes : List UInt8) (modified : Time) : Option Disk :=
  match d.locate path with
  -- an existing file is replaced where its links lead
  | .ok place => if d.isDirectory place then none else some (d.put place (.file bytes modified))
  | .error _ =>
    let (parent, name) := splitLast path
    match d.makeParts [] parent with
    | some (d, place) =>
      if d.isDirectory (place ++ [name]) then none
      else some (d.put (place ++ [name]) (.file bytes modified))
    | none => none

/-- Creates a directory and those above it; `none` where something else is in the way. -/
def makeDirectory? (d : Disk) (path : Path) : Option Disk :=
  (d.makeParts [] (segments path.text)).map (·.1)

/-- The place of the last name of a path, no link at that name followed. -/
def placeOf? (d : Disk) (path : Path) : Option Place :=
  let (parent, name) := splitLast path
  match d.follow mostLinks [] parent with
  | .ok place => if d.isDirectory place && name != "" then some (place ++ [name]) else none
  | .error _ => none

/-- Creates a link; `none` where something is there already. -/
def makeLink? (d : Disk) (path : Path) (target : String) : Option Disk := do
  let place ← d.placeOf? path
  if (d.item? place).isSome then none else some (d.put place (.link target))

/-- Removes a file, a link or a whole directory; `none` where there is nothing. -/
def remove? (d : Disk) (path : Path) : Option Disk := do
  let place ← d.placeOf? path
  if (d.item? place).isSome then some (d.cut place) else none

end Disk

end SelectorCatalog.Host
