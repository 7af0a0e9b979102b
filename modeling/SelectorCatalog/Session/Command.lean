import SelectorCatalog.Catalog.Editor
import SelectorCatalog.Host.Bench

/-!
# Commands and replies

What the user of a session can ask for, one command at a time, and what is answered. Entries are
known to the user by numbers, in the order in which they were first answered.
-/

namespace SelectorCatalog.Session

/-- A command to the bench. -/
inductive BenchCommand where
  | write (path : Path) (text : String) (modified : Time)
  | writeBytes (path : Path) (bytes : List UInt8) (modified : Time)
  | remove (path : Path)
  | makeDirectory (path : Path)
  | makeLink (path : Path) (target : String)
  | hold (path : Path)
  | unhold (path : Path)
  | release (path : Path) (nth : Nat)
  | fail (duty : Host.Duty) (path : Path) (error : Option Error)
  | read (path : Path)
  | stat (path : Path)
  | resolve (path : Path)
  | list (dir : Path)

/-- A command on one entry. -/
inductive EntryCommand where
  | fetch
  | check
  | clear
  | dispose
  | searchClass (query tag : String) (ignore : List String)
  | searchId (query : String)
  | info

/-- A command on entries that stand alone. -/
inductive StandaloneCommand where
  | new (kind : EntryKind) (path : Path)
  | openStylesheet (path : Path)
  | setRoot (root : Option Path)

/-- A command to the catalogue. -/
inductive CatalogCommand where
  | create (kind : EntryKind) (path : Path) (byPath : Bool)
  | activate (editor : Option Editor)
  | lookup (kind : EntryKind) (path : Path)
  | contains (path : Path)
  | isEmpty
  | root
  | saved (path : Path)
  | remove (path : Path)
  | reset
  | openProject (root : Path)
  | checkAll
  | change (change : Catalog.Change)
  | searchClass (document : Path) (query : String) (tag : Option String) (ignore : List String)
  | searchId (document : Path) (query : String)
  | startChecker
  | drop

/-- A command. -/
inductive Command where
  | bench (command : BenchCommand)
  | standalone (command : StandaloneCommand)
  | entry (number : Nat) (command : EntryCommand)
  | catalog (command : CatalogCommand)
  /-- Time passes. -/
  | pass (ms : Nat)
  /-- Stops the checker started last. -/
  | stopChecker
  /-- Whether the checker started last has ended. -/
  | checkerFinished

/-- Why a command is not carried out. -/
inductive Refusal where
  /-- No entry has that number. -/
  | noEntry
  /-- Only stylesheets are checked. -/
  | notStylesheet
  /-- The catalogue was dropped. -/
  | noCatalog
deriving DecidableEq, Repr

/-- What is told of an entry. -/
structure Info where
  path : Path
  kind : EntryKind
  disposed : Bool
  timestamp : Option Time
  indexed : Bool
  size : Nat
  dependencies : List Path

/-- All that is told of an entry. -/
def Info.of (e : Entry) : Info where
  path := e.path
  kind := e.kind
  disposed := e.isDisposed
  timestamp := e.timestamp
  indexed := e.indexedAt.isSome
  size := e.index.size
  dependencies := e.dependencies

/-- What a command is answered. -/
inductive Reply where
  | nothing
  | flag (b : Bool)
  | count (n : Nat)
  | text (s : String)
  | path (path : Option Path)
  | names (names : List String)
  | classes (found : Catalog.ClassCandidates)
  /-- The number of an entry, if there is one. -/
  | entry (number : Option Nat)
  | info (info : Info)
  | stat (stat : FileStat)
  | members (members : List DirEntry)
  | fetched
  | failed (error : Error)
  | refused (refusal : Refusal)
  /-- The call goes on under this number. -/
  | pending (number : Nat)

/-- What happened during a command. -/
structure Report where
  reply : Reply
  /-- The size of the catalogue and the paths of its stylesheets, while the user holds it. -/
  stock : Option (Nat × List Path)
  /-- The pending calls that came to an end, by number. -/
  finished : List (Nat × Reply)
  /-- The paths that were read. -/
  reads : List Path
  /-- What the entries with a number told, with their paths. -/
  events : List (Nat × Path × EntryEvent)
  notices : List Notice

end SelectorCatalog.Session
