import SelectorCatalog.Host
import SelectorCatalog.Index

/-!
# Entries

An entry holds the names of one file: those of a stylesheet, or those of the style elements of a
document together with the stylesheets that it links. A fetch reads the file again; of overlapping
fetches the one that started last wins. Disposal is final: an entry that is disposed of holds
nothing and takes nothing in.
-/

namespace SelectorCatalog

/-- What an entry tells those who listen to it. -/
inductive EntryEvent where
  /-- A document was fetched and links these stylesheets. -/
  | fetchComplete (dependencies : List Path)
  | disposed
deriving DecidableEq, Repr

/-- Whether an entry belongs to the registry or stands alone. -/
inductive Scope where
  | registry
  | standalone
deriving DecidableEq, Repr

/-- The names of one file. -/
structure Entry where
  kind : EntryKind
  path : Path
  scope : Scope
  index : SelectorIndex := .empty
  /-- The stylesheets that a document links, in the order of its links. -/
  dependencies : List Path := []
  /-- The age of the file that the index was built from. -/
  timestamp : Option Time := none
  /-- When the fetch that built the index started. -/
  indexedAt : Option Time := none
  /-- The number of fetches started; each fetch is known by its number. -/
  fetches : Nat := 0
  /-- The number of the fetch that built the index. -/
  installed : Nat := 0
  /-- All that the entry has told, oldest first. -/
  sent : List EntryEvent := []

namespace Entry

/-- Whether the entry is disposed of. -/
def isDisposed (e : Entry) : Bool :=
  e.index.isDisposed

/-- Tells something to all listeners. -/
def send (e : Entry) (event : EntryEvent) : Entry :=
  { e with sent := e.sent ++ [event] }

/-- Empties the index and forgets the links, without disposing of the entry. -/
def clear (e : Entry) : Entry :=
  { e with index := e.index.clear, dependencies := [] }

/-- Disposes of the entry. Only the first time is it told. -/
def dispose (e : Entry) : Entry :=
  -- whoever listens is told even if nothing was indexed yet
  if e.isDisposed then e else { e with index := e.index.dispose, dependencies := [] }.send .disposed

/-- Counts a fetch that starts; a document forgets what it holds until the fetch is done. -/
def beginFetch (e : Entry) : Entry :=
  let e := { e with fetches := e.fetches + 1 }
  match e.kind with
  | .html => e.clear
  | .css => e

/-- What a fetch found. -/
structure Finding where
  index : SelectorIndex
  dependencies : List Path
  modified : Time
  started : Time

/-- Takes over what the fetch of a number found. A disposed entry refuses, and an entry that holds
what a later fetch found stays as it is. -/
def install (e : Entry) (generation : Nat) (found : Finding) : Except Error Entry :=
  if e.isDisposed then .error .disposed
  -- an earlier fetch that is late is successful, and changes nothing
  else if generation < e.installed then .ok e
  else
    let e := { e with
      index := found.index
      installed := generation
      timestamp := some found.modified
      indexedAt := some found.started }
    match e.kind with
    | .html =>
      .ok ({ e with dependencies := found.dependencies }.send (.fetchComplete found.dependencies))
    | .css => .ok e

/-- Whether a file of that age has changed since the index was built. -/
def isStale (e : Entry) (modified : Time) : Bool :=
  -- an entry that was never indexed is stale
  e.indexedAt.all fun indexed => indexed < modified

@[simp] theorem isDisposed_dispose (e : Entry) : e.dispose.isDisposed = true := by
  unfold dispose
  split
  · assumption
  · rfl

/-- Disposing twice is the same as disposing once. -/
@[simp] theorem dispose_dispose (e : Entry) : e.dispose.dispose = e.dispose := by
  rw [dispose, if_pos (isDisposed_dispose e)]

end Entry

end SelectorCatalog
