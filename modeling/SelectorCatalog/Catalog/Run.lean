import SelectorCatalog.Catalog.Step

/-!
# Runs

All that can happen to a catalogue, one event at a time: its user calls it, the host answers, a
construction that a job waits for is finished, a listener receives an event, a timer fires. `Run`
relates two states by a list of events in any order that the states allow.
-/

namespace SelectorCatalog.Catalog

/-- A call that may have to wait. -/
inductive Call where
  /-- Asks for an entry, by path or by a file known already. -/
  | create (kind : EntryKind) (path : Path) (byPath : Bool)
  /-- The document at a path was saved. -/
  | saved (path : Path)
  /-- All stylesheets are checked for changes. -/
  | checkAll
  | change (change : Change)
  | openProject (root : Path)
  /-- An entry is fetched. -/
  | fetch (entry : EntryId)
  /-- A stylesheet's entry is checked for changes. -/
  | check (entry : EntryId)
  /-- A stylesheet is opened apart from the registry. -/
  | openStandalone (path : Path)

/-- Whether a call keeps the catalogue in use; those on an entry alone do not. -/
def Call.ofCatalog : Call → Bool
  | fetch _ | check _ | openStandalone _ => false
  | _ => true

/-- Adds an entry that stands alone. -/
def addStandalone (c : Catalog) (kind : EntryKind) (path : Path) : Catalog × EntryId :=
  c.addEntry { kind := kind, path := path, scope := .standalone }

/-- Starts a call as a job. -/
def start (c : Catalog) (call : Call) : Catalog × JobId :=
  let (c, id) := c.addJob { stage := .starting, ofCatalog := call.ofCatalog }
  let c := match call with
    | .create kind path byPath => c.startCreate id kind path byPath
    | .saved path =>
      -- only an entry that is there already is fetched: a save constructs nothing
      match c.entryAt? path with
      | some entry => c.startFetch id entry (.saved path)
      | none => c.complete id (.flag false)
    | .checkAll => c.startChecks id
    | .change change => c.startChange id change
    | .openProject root => c.startProject id root
    | .fetch entry => c.startFetch id entry .direct
    | .check entry => c.startCheck id entry
    | .openStandalone path =>
      let (c, entry) := c.addStandalone .css path
      c.startFetch id entry .opened
  (c, id)

/-- Something that happens to a catalogue. -/
inductive Event where
  | call (call : Call)
  | answer (job : JobId) (answer : Answer)
  | wake (job : JobId)
  | listen (listener : Nat)
  | tick (checker : Nat)
  | remove (path : Path)
  | reset
  | disposeEntry (entry : EntryId)
  | clearEntry (entry : EntryId)
  | addStandalone (kind : EntryKind) (path : Path)
  | startChecker
  | stopChecker (checker : Nat)
  /-- The user lets go of the catalogue. -/
  | drop
  /-- Timers see time pass. -/
  | pass (ms : Nat)
  /-- The time of day moves on. -/
  | clock (time : Time)

/-- The state after an event; `none` when the event cannot happen now. -/
def step? (c : Catalog) : Event → Option Catalog
  | .call call => some (c.start call).1
  | .answer job answer => if c.expects job answer then some (c.resume job answer) else none
  | .wake job => c.wake? job
  | .listen listener => c.listen? listener
  | .tick checker => c.tick? checker
  | .remove path => some (c.remove path).1
  | .reset => some c.reset
  | .disposeEntry entry => some (c.disposeEntry entry)
  | .clearEntry entry => some (c.changeEntry entry Entry.clear)
  | .addStandalone kind path => some (c.addStandalone kind path).1
  | .startChecker => some c.startChecker
  | .stopChecker checker => some (c.stopChecker checker)
  | .drop => some { c with held := false }
  | .pass ms => some { c with uptime := c.uptime + ms }
  -- the time of day does not run backwards
  | .clock time => if c.clock ≤ time then some { c with clock := time } else none

/-- A run: a list of events, each possible in the state that the ones before it lead to. -/
inductive Run : Catalog → List Event → Catalog → Prop where
  | nil (c : Catalog) : Run c [] c
  | cons {c d e : Catalog} {event : Event} {events : List Event} :
    c.step? event = some d → Run d events e → Run c (event :: events) e

/-- The state after a list of events, if each is possible in its turn. -/
def replay? (c : Catalog) (events : List Event) : Option Catalog :=
  events.foldlM step? c

/-- Runs are what can be replayed. -/
theorem run_iff_replay? {c d : Catalog} {events : List Event} :
    Run c events d ↔ c.replay? events = some d := by
  constructor
  · intro run
    induction run with
    | nil => rfl
    | cons step _ ih => rw [replay?, List.foldlM_cons, step]; exact ih
  · intro h
    induction events generalizing c with
    | nil =>
        cases h
        exact .nil _
    | cons event rest ih =>
        obtain ⟨e, step, h⟩ := Option.bind_eq_some_iff.mp h
        exact .cons step (ih h)

/-- What every event keeps holds after every run. -/
theorem Run.invariant {p : Catalog → Prop} (keep : ∀ c event d, p c → c.step? event = some d → p d)
    {c d : Catalog} {events : List Event} (run : Run c events d) (h : p c) : p d := by
  induction run with
  | nil => exact h
  | cons step _ ih => exact ih (keep _ _ _ h step)

/-- Runs can be put together. -/
theorem Run.append {c d e : Catalog} {events later : List Event} (run : Run c events d)
    (next : Run d later e) :
    Run c (events ++ later) e := by
  induction run with
  | nil => exact next
  | cons step _ ih => exact .cons step (ih next)

/-- What is left of a run after its first part: a state has one outcome for each event. -/
theorem Run.rest {b c d : Catalog} {early late : List Event} (run : Run c (early ++ late) d)
    (first : Run c early b) : Run b late d := by
  induction first with
  | nil => exact run
  | cons step _ ih =>
      cases run with
      | cons step' run =>
          obtain rfl := Option.some.inj (step.symm.trans step')
          exact ih run

/-- Whether nothing is under way: all jobs are done, and all listeners have received everything. -/
def isQuiet (c : Catalog) : Bool :=
  c.jobs.all Job.isDone && (List.range c.listeners.length).all fun i => (c.listen? i).isNone

end SelectorCatalog.Catalog
