import SelectorCatalog.Catalog.Job
import SelectorCatalog.Config
import SelectorCatalog.Entry.Receiver

/-!
# The catalogue

The registry of entries, one slot to a path, with the work under way on it. A slot belongs to one
kind of entry for its whole life. It is claimed before its entry is constructed and counts as
registered until it is removed, even while the construction goes on.
-/

namespace SelectorCatalog

/-- A place in the registry: the path and kind it was claimed for, and its entry once that is
constructed. -/
structure Slot where
  key : Path
  kind : EntryKind
  entry : Option EntryId := none
deriving DecidableEq, Repr

/-- The follower of a slot's entry: it has received the first `seen` events, and is busy with the
last of them or done for good. -/
structure Listener where
  slot : SlotId
  entry : EntryId
  seen : Nat := 0
  busy : Option JobId := none
  closed : Bool := false
deriving DecidableEq, Repr

/-- The follower of an entry that is about to be constructed. -/
def Listener.new (slot : SlotId) (entry : EntryId) : Listener :=
  { slot := slot, entry := entry }

/-- A periodic check of all stylesheets. -/
inductive Checker where
  /-- Waits until `deadline`, in milliseconds. -/
  | waiting (deadline : Nat)
  /-- A check is under way; the next is due at `deadline`. -/
  | busy (deadline : Nat) (job : JobId)
  | finished
deriving DecidableEq, Repr

/-- The state of a catalogue. -/
structure Catalog where
  config : Config
  /-- The root of the project, from which links that start with a slash are resolved. -/
  root : Option Path
  /-- The root for entries that stand alone. -/
  standaloneRoot : Option Path
  /-- Whether the catalogue is still held by its user. -/
  held : Bool
  entries : List Entry
  /-- All slots ever claimed. -/
  slots : List Slot
  /-- The registered slots, in the order in which they were claimed. -/
  registered : List SlotId
  jobs : List Job
  listeners : List Listener
  checkers : List Checker
  /-- The time of day. -/
  clock : Time
  /-- The milliseconds that timers have seen. -/
  uptime : Nat
  /-- What was reported, oldest first. -/
  notices : List Notice

namespace Catalog

/-- An empty catalogue. -/
def new (config : Config) (clock : Time) : Catalog where
  config := config
  root := config.projectRoot
  standaloneRoot := config.projectRoot
  held := true
  entries := []
  slots := []
  registered := []
  jobs := []
  listeners := []
  checkers := []
  clock := clock
  uptime := 0
  notices := []

/-- Whether the catalogue is in use: held by its user, or by work under way on it. -/
def isAlive (c : Catalog) : Bool :=
  c.held || c.jobs.any fun t => t.ofCatalog && !t.isDone

/-- Reports something. -/
def notify (c : Catalog) (notices : List Notice) : Catalog :=
  { c with notices := c.notices ++ notices }

/-! ## Entries -/

/-- Changes an entry. -/
def changeEntry (c : Catalog) (id : EntryId) (f : Entry → Entry) : Catalog :=
  { c with entries := c.entries.modify id f }

/-- Puts an entry in the place of a number. -/
def setEntry (c : Catalog) (id : EntryId) (e : Entry) : Catalog :=
  { c with entries := c.entries.set id e }

/-- Adds an entry. -/
def addEntry (c : Catalog) (e : Entry) : Catalog × EntryId :=
  ({ c with entries := c.entries ++ [e] }, c.entries.length)

/-- Disposes of an entry. -/
def disposeEntry (c : Catalog) (id : EntryId) : Catalog :=
  c.changeEntry id Entry.dispose

/-- The root that an entry's links are resolved from. -/
def rootOf (c : Catalog) : Scope → Option Path
  | .registry => c.root
  | .standalone => c.standaloneRoot

/-! ## Slots -/

/-- The slot registered for a path, with its number. -/
def find? (c : Catalog) (path : Path) : Option (SlotId × Slot) :=
  c.registered.findSome? fun id =>
    -- a removed slot stays in `slots`, so only the registered ones are looked at
    (c.slots[id]?).bind fun slot => if slot.key.same path then some (id, slot) else none

/-- The entry constructed for a path, whatever its kind. -/
def entryAt? (c : Catalog) (path : Path) : Option EntryId :=
  (c.find? path).bind fun (_, slot) => slot.entry

/-- The entry of a kind constructed for a path. -/
def entryOf? (c : Catalog) (kind : EntryKind) (path : Path) : Option EntryId :=
  (c.find? path).bind fun (_, slot) => if slot.kind == kind then slot.entry else none

/-- Whether an entry is constructed for a path. -/
def contains (c : Catalog) (path : Path) : Bool :=
  (c.entryAt? path).isSome

/-- The registered slots whose entries are constructed. -/
def readySlots (c : Catalog) : List Slot :=
  (c.registered.filterMap fun id => c.slots[id]?).filter (·.entry.isSome)

/-- The number of constructed entries. -/
def size (c : Catalog) : Nat :=
  c.readySlots.length

/-- Whether no entry is constructed. -/
def isEmpty (c : Catalog) : Bool :=
  c.size == 0

/-- The constructed entries of stylesheets, in the order in which their slots were claimed. -/
def stylesheets (c : Catalog) : List EntryId :=
  c.readySlots.filterMap fun slot => if slot.kind == .css then slot.entry else none

/-- The paths of the constructed entries of stylesheets. -/
def stylesheetPaths (c : Catalog) : List Path :=
  c.stylesheets.filterMap fun id => (c.entries[id]?).map (·.path)

/-- Whether a slot is registered. -/
def isRegistered (c : Catalog) (slot : SlotId) : Bool :=
  c.registered.contains slot

/-- Removes a slot from the registry. -/
def unregister (c : Catalog) (slot : SlotId) : Catalog :=
  { c with registered := c.registered.filter (· != slot) }

/-- The outcome of claiming a path for a kind of entry. -/
inductive Claim where
  /-- The path was free; its slot is now claimed. -/
  | fresh (slot : SlotId)
  /-- The path has a slot of that kind. -/
  | shared (id : SlotId) (slot : Slot)
  /-- The path has a slot of the other kind. -/
  | refused (registered : EntryKind)

/-- Finds or claims the slot of a path. -/
def claim (c : Catalog) (kind : EntryKind) (path : Path) : Catalog × Claim :=
  match c.find? path with
  | some (id, slot) => (c, if slot.kind == kind then .shared id slot else .refused slot.kind)
  -- the slot is there before its entry, so others can wait for that one construction
  | none =>
    let id := c.slots.length
    ({ c with slots := c.slots ++ [⟨path, kind, none⟩], registered := c.registered ++ [id] },
      .fresh id)

/-- Stores the constructed entry of a slot. -/
def fill (c : Catalog) (slot : SlotId) (entry : EntryId) : Catalog :=
  { c with slots := c.slots.modify slot fun s => { s with entry := some entry } }

/-- Disposes of the entry of a slot, if it is constructed. -/
def disposeSlot (c : Catalog) (slot : SlotId) : Catalog :=
  match (c.slots[slot]?).bind (·.entry) with
  | some id => c.disposeEntry id
  | none => c

/-- Removes what is registered for a path and disposes of it; also, whether there was something. -/
def remove (c : Catalog) (path : Path) : Catalog × Bool :=
  match c.find? path with
  -- unregistered first: nobody can find an entry that is disposed of here
  | some (id, _) => ((c.unregister id).disposeSlot id, true)
  | none => (c, false)

/-- Removes and disposes of everything. -/
def reset (c : Catalog) : Catalog :=
  -- the registry is empty before any entry is told
  c.registered.foldl disposeSlot { c with registered := [] }

/-! ## Jobs -/

/-- Adds a job. -/
def addJob (c : Catalog) (t : Job) : Catalog × JobId :=
  ({ c with jobs := c.jobs ++ [t] }, c.jobs.length)

/-- Changes the stage of a job. -/
def setStage (c : Catalog) (id : JobId) (stage : Job.Stage) : Catalog :=
  { c with jobs := c.jobs.modify id fun t => { t with stage := stage } }

/-- How far a job is. -/
def stage? (c : Catalog) (id : JobId) : Option Job.Stage :=
  (c.jobs[id]?).map (·.stage)

/-- What a job came to. -/
def outcome? (c : Catalog) (id : JobId) : Option Job.Outcome :=
  (c.jobs[id]?).bind Job.outcome?

end Catalog

end SelectorCatalog
