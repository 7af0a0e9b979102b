import Mathlib.Logic.Relation
import SelectorCatalog.Catalog.Run
import SelectorCatalog.Proofs.Entry.Turn

/-!
# What a step can do

Every event of a run is made of a few kinds of elementary change, whatever function of the catalogue
brings it about: a `Move`. A job goes on from its stage (`Job.Leads`), an entry takes a turn
(`Entry.Turn`), a slot is claimed together with its entry and its listener, a construction is
concluded, slots are evicted, a listener hears an event. What all moves keep, all runs keep.

A move is made with leave: `may` says which jobs go on, and which of them begin to ask for a path,
to scan or to construct an entry on the way.
-/

namespace SelectorCatalog

namespace Job

/-- Whether a job has neither a fetch nor a slot in hand and is not done. -/
def Stage.isOpen : Stage → Bool
  | .starting | .resolving .. | .checking _ | .scanning .. | .joining .. => true
  | .fetching .. | .awaiting .. | .done _ => false

/-- What a job begins or goes on with when it enters a stage. -/
inductive Act where
  | proceed
  /-- Waits for where a path leads. -/
  | ask
  | scan
  /-- Claims a slot for a kind of entry. -/
  | claim (kind : EntryKind)
deriving DecidableEq

/-- Whether a fetch is for the construction of an entry. -/
def Purpose.isConstruct : Purpose → Bool
  | .construct _ => true
  | _ => false

/-- What a job with a fetch for that purpose comes to. -/
def Purpose.outcome (entry : EntryId) (result : Except Error Unit) : Purpose → Outcome
  | .construct _ => .unit
  | .refresh _ | .opened => .entry (some entry)
  | .saved _ => .flag true
  | .update => .checked (result.map fun _ => true)
  | .direct => .fetched result

/-- What a job does when it enters a stage. -/
def Stage.act : Stage → Act
  | .resolving .. => .ask
  | .scanning .. => .scan
  | _ => .proceed

/-- Whether a stage belongs to the construction of an entry. -/
def Stage.isConstruct : Stage → Bool
  | .fetching _ purpose => purpose.isConstruct
  | _ => false

/-- How a job may go on, claims and conclusions of constructions apart. A job that waits for a slot
goes on with the entry that the slot holds. -/
inductive Leads (slots : List Slot) : Stage → Stage → Prop where
  | ofOpen {s t : Stage} : s.isOpen = true → t.isConstruct = false → Leads slots s t
  | advance (f : Fetch) (purpose : Purpose) (stage : Fetch.Stage) :
      Leads slots (.fetching f purpose) (.fetching { f with stage := stage } purpose)
  | finish (f : Fetch) (purpose : Purpose) (result : Except Error Unit) :
      purpose.isConstruct = false →
      Leads slots (.fetching f purpose) (.done (purpose.outcome f.entry result))
  | refresh {slot : SlotId} {path : Path} {byPath : Bool} {f : Fetch} :
      (slots[slot]?).bind (·.entry) = some f.entry →
      Leads slots (.awaiting slot path byPath) (.fetching f (.refresh path))
  | share {slot : SlotId} {path : Path} {byPath : Bool} {entry : EntryId} :
      (slots[slot]?).bind (·.entry) = some entry →
      Leads slots (.awaiting slot path byPath) (.done (.entry (some entry)))
  | miss {slot : SlotId} {path : Path} {byPath : Bool} :
      Leads slots (.awaiting slot path byPath) (.done (.entry none))

end Job

namespace Catalog

open Job (Outcome Purpose Plan Stage Leads Act)

/-- The state in which a job has claimed a free path: its slot, its entry with the first fetch under
way, and the listener that follows the entry. -/
def opened (c : Catalog) (id : JobId) (kind : EntryKind) (path : Path) : Catalog :=
  { c with
    entries :=
      c.entries ++ [({ kind := kind, path := path, scope := .registry } : Entry).beginFetch]
    slots := c.slots ++ [⟨path, kind, none⟩]
    registered := c.registered ++ [c.slots.length]
    jobs := c.jobs.modify id fun t =>
      { t with
        stage := .fetching ⟨c.entries.length, 1, c.clock, .stat⟩ (.construct c.slots.length) }
    listeners := c.listeners ++ [Listener.new c.slots.length c.entries.length] }

/-- The state in which a construction is over: the slot is filled, and the entry is disposed of
unless the slot is registered still. -/
def concluded (c : Catalog) (id : JobId) (slot : SlotId) (entry : EntryId) : Catalog :=
  if c.isRegistered slot then (c.fill slot entry).setStage id (.done (.entry (some entry)))
  else ((c.fill slot entry).disposeEntry entry).setStage id (.done (.entry none))

/-- One elementary change. -/
inductive Move (may : JobId → Act → Prop) : Catalog → Catalog → Prop where
  /-- Time passes, notices are given, timers and roots change, the user lets go. -/
  | ambient (c d : Catalog) :
      d.entries = c.entries → d.slots = c.slots → d.registered = c.registered →
      d.jobs = c.jobs → d.listeners = c.listeners → (d.held = true → c.held = true) →
        c.uptime ≤ d.uptime → Move may c d
  | enlist (c : Catalog) (ts : List Job) : (∀ t ∈ ts, t.stage = .starting) →
      Move may c { c with jobs := c.jobs ++ ts }
  | stage {c : Catalog} {id : JobId} {s t : Stage} :
      may id t.act → c.stage? id = some s → Leads c.slots s t →
      Move may c (c.setStage id t)
  /-- A job is over with the last of its parts. -/
  | join {c : Catalog} {id : JobId} {parts : List JobId} {plan : Plan} (outcome : Outcome) :
      c.stage? id = some (.joining parts plan) → (∀ part ∈ parts, (c.outcome? part).isSome) →
      Move may c (c.setStage id (.done outcome))
  | entries (c : Catalog) {es : List Entry} : Entry.Turns c.entries es →
      Move may c { c with entries := es }
  | standalone (c : Catalog) (kind : EntryKind) (path : Path) :
      Move may c (c.addEntry { kind := kind, path := path, scope := .standalone }).1
  | claim {c : Catalog} {id : JobId} {s : Stage} (kind : EntryKind) {path : Path} :
      may id (.claim kind) → c.stage? id = some s → s.isOpen = true → c.find? path = none →
        Move may c (c.opened id kind path)
  | conclude {c : Catalog} {id : JobId} {f : Fetch} {slot : SlotId} : may id .proceed →
      c.stage? id = some (.fetching f (.construct slot)) → Move may c (c.concluded id slot f.entry)
  /-- Slots are evicted, and what they hold is disposed of. -/
  | evict (c : Catalog) (keep : SlotId → Bool) {es : List Entry} : Entry.Disposals c.entries es →
      (∀ slot ∈ c.registered, keep slot = false →
        ∀ entry, (c.slots[slot]?).bind (·.entry) = some entry →
        ∀ e : Entry, es[entry]? = some e → e.isDisposed = true) →
      Move may c { c with registered := c.registered.filter keep, entries := es }
  /-- A listener hears of links, or finds the catalogue out of use. -/
  | hear {c : Catalog} {i : Nat} {l : Listener} {e : Entry} {dependencies : List Path} {seen : Nat}
      (busy : Option JobId) :
      c.listeners[i]? = some l → l.closed = false → c.entries[l.entry]? = some e →
      e.receive? l.seen = some (.fetchComplete dependencies, seen) →
      Move may c (c.setListener i { l with seen := seen, busy := busy })
  | leave {c : Catalog} {i : Nat} {l : Listener} {e : Entry} {event : EntryEvent} {seen : Nat} :
      c.listeners[i]? = some l → l.closed = false → c.entries[l.entry]? = some e →
      e.receive? l.seen = some (event, seen) → c.held = false →
      Move may c (c.setListener i { l with seen := seen, closed := true })
  /-- A listener hears of the disposal of its entry. -/
  | retire {c : Catalog} {i : Nat} {l : Listener} {e : Entry} {seen : Nat} :
      c.listeners[i]? = some l → l.closed = false → c.entries[l.entry]? = some e →
      e.receive? l.seen = some (.disposed, seen) →
      Move may c ((c.setListener i { l with seen := seen, closed := true }).unregister l.slot)

/-- Elementary changes one after the other. -/
def Moves (may : JobId → Act → Prop) : Catalog → Catalog → Prop :=
  Relation.ReflTransGen (Move may)

variable {may : JobId → Act → Prop} {c d : Catalog} {id : JobId}

theorem Moves.refl (c : Catalog) : Moves may c c :=
  Relation.ReflTransGen.refl

theorem Moves.trans {e : Catalog} (h : Moves may c d) (h' : Moves may d e) :
    Moves may c e :=
  Relation.ReflTransGen.trans h h'

theorem Move.moves (h : Move may c d) : Moves may c d :=
  Relation.ReflTransGen.single h

/-- What every move keeps, moves one after the other keep. -/
theorem Moves.keep {p : Catalog → Prop} (step : ∀ c d, p c → Move may c d → p d)
    (h : Moves may c d) (hc : p c) : p d := by
  induction h with
  | refl => exact hc
  | tail _ move ih => exact step _ _ ih move

/-! ## Stages -/

@[simp] theorem stage?_setStage (c : Catalog) (id j : JobId) (s : Stage) :
    (c.setStage id s).stage? j = if id = j then (c.stage? j).map fun _ => s else c.stage? j := by
  simp only [stage?, setStage, List.getElem?_modify]
  split <;> cases c.jobs[j]? <;> rfl

/-- A job is in the stage that it was brought to. -/
theorem stage?_setStage_self {s : Stage} (hs : c.stage? id = some s) (t : Stage) :
    (c.setStage id t).stage? id = some t := by
  rw [stage?_setStage, if_pos rfl, hs]
  rfl

@[simp] theorem stage?_setEntry (c : Catalog) (entry : EntryId) (e : Entry) :
    (c.setEntry entry e).stage? = c.stage? := rfl

/-- The stages are those of the jobs. -/
theorem stage?_congr (h : d.jobs = c.jobs) : d.stage? = c.stage? := by
  funext j
  rw [stage?, stage?, h]

/-- Further jobs leave the stage of a job as it is. -/
theorem stage?_append {s : Stage} (ts : List Job) (h : c.stage? id = some s) :
    ({ c with jobs := c.jobs ++ ts } : Catalog).stage? id = some s := by
  obtain ⟨t, ht, rfl⟩ := Option.map_eq_some_iff.mp h
  rw [stage?, List.getElem?_append_left (List.getElem?_eq_some_iff.mp ht).1, ht]
  rfl

/-- The job that opens a slot fetches for it, and the others stay where they are. -/
theorem stage?_opened (c : Catalog) (id : JobId) (kind : EntryKind) (path : Path) (j : JobId) :
    (c.opened id kind path).stage? j = if id = j then (c.stage? j).map fun _ =>
      .fetching ⟨c.entries.length, 1, c.clock, .stat⟩ (.construct c.slots.length) else c.stage? j :=
  stage?_setStage c id j _

/-- The job that concludes is done with the entry, or without it if its slot is gone. -/
theorem stage?_concluded (c : Catalog) (id : JobId) (slot : SlotId) (entry : EntryId) (j : JobId) :
    (c.concluded id slot entry).stage? j = if id = j then (c.stage? j).map fun _ =>
      .done (.entry (if c.isRegistered slot then some entry else none)) else c.stage? j := by
  rw [concluded]
  split <;> exact stage?_setStage _ id j _

@[simp] theorem concluded_slots (c : Catalog) (id : JobId) (slot : SlotId) (entry : EntryId) :
    (c.concluded id slot entry).slots = (c.fill slot entry).slots := by
  rw [concluded]
  split <;> rfl

@[simp] theorem concluded_registered (c : Catalog) (id : JobId) (slot : SlotId) (entry : EntryId) :
    (c.concluded id slot entry).registered = c.registered := by
  rw [concluded]
  split <;> rfl

@[simp] theorem concluded_listeners (c : Catalog) (id : JobId) (slot : SlotId) (entry : EntryId) :
    (c.concluded id slot entry).listeners = c.listeners := by
  rw [concluded]
  split <;> rfl

@[simp] theorem concluded_held (c : Catalog) (id : JobId) (slot : SlotId) (entry : EntryId) :
    (c.concluded id slot entry).held = c.held := by
  rw [concluded]
  split <;> rfl

/-- The entry is disposed of if its slot is gone. -/
theorem concluded_entries (c : Catalog) (id : JobId) (slot : SlotId) (entry : EntryId) :
    (c.concluded id slot entry).entries =
      if c.isRegistered slot then c.entries else c.entries.modify entry Entry.dispose := by
  rw [concluded]
  split <;> rfl

/-- A job that has no leave keeps its stage, unless it waits for its parts. -/
theorem Move.stage?_eq (h : Move may c d) {j : JobId} (no : ∀ a, ¬may j a) {s : Stage}
    (hs : c.stage? j = some s) (parts : ∀ ids plan, s ≠ .joining ids plan) :
    d.stage? j = some s := by
  cases h with
  | ambient _ _ _ _ jobs => rw [stage?_congr jobs, hs]
  | enlist ts => exact stage?_append ts hs
  | @stage id _ t leave =>
      rw [stage?_setStage, if_neg, hs]
      rintro rfl
      exact no _ leave
  | @join id ids plan _ joining =>
      rw [stage?_setStage, if_neg, hs]
      rintro rfl
      exact parts ids plan (Option.some.inj (hs.symm.trans joining))
  | @claim id _ _ _ leave =>
      rw [stage?_opened, if_neg, hs]
      rintro rfl
      exact no _ leave
  | @conclude id f slot leave =>
      rw [stage?_concluded, if_neg, hs]
      rintro rfl
      exact no _ leave
  | entries | standalone | evict | hear | leave | retire => exact hs

/-- A job that is let nowhere stays where it is unless it joins. -/
theorem Moves.stage?_eq (h : Moves may c d) {j : JobId} (no : ∀ a, ¬may j a) {s : Stage}
    (hs : c.stage? j = some s) (parts : ∀ ids plan, s ≠ .joining ids plan) : d.stage? j = some s :=
  h.keep (fun _ _ hs move => move.stage?_eq no hs parts) hs

/-- Leave for more lets the same be done. -/
theorem Move.mono {may' : JobId → Act → Prop} (h : Move may c d) (le : ∀ j a, may j a → may' j a) :
    Move may' c d := by
  cases h with
  | ambient _ h₁ h₂ h₃ h₄ h₅ h₆ h₇ => exact .ambient _ _ h₁ h₂ h₃ h₄ h₅ h₆ h₇
  | enlist ts starting => exact .enlist _ ts starting
  | stage leave at_ leads => exact .stage (le _ _ leave) at_ leads
  | join outcome joining ended => exact .join outcome joining ended
  | entries turns => exact .entries _ turns
  | standalone kind path => exact .standalone _ kind path
  | claim kind leave at_ isOpen free => exact .claim kind (le _ _ leave) at_ isOpen free
  | conclude leave at_ => exact .conclude (le _ _ leave) at_
  | evict keep disposals gone => exact .evict _ keep disposals gone
  | hear busy at_ isOpen of receive => exact .hear busy at_ isOpen of receive
  | leave at_ isOpen of receive held => exact .leave at_ isOpen of receive held
  | retire at_ isOpen of receive => exact .retire at_ isOpen of receive

/-- Moves that are let through stay so when more is. -/
theorem Moves.mono {may' : JobId → Act → Prop} (h : Moves may c d)
    (le : ∀ j a, may j a → may' j a) :
    Moves may' c d :=
  Relation.ReflTransGen.mono (fun _ _ move => Move.mono move le) c d h

/-! ## Entries -/

/-- Disposal of what a slot holds. -/
theorem disposeSlot_spec (c : Catalog) (slot : SlotId) :
    ∃ es, c.disposeSlot slot = { c with entries := es } ∧ Entry.Disposals c.entries es ∧
      ∀ entry, (c.slots[slot]?).bind (·.entry) = some entry → ∀ e : Entry, es[entry]? = some e →
        e.isDisposed = true := by
  rw [disposeSlot]
  cases h : (c.slots[slot]?).bind (·.entry) with
  | none => exact ⟨c.entries, rfl, .refl _, by simp⟩
  | some entry =>
      refine ⟨c.entries.modify entry Entry.dispose, rfl, .modify _ _, ?_⟩
      intro entry' h' e he
      cases h'
      rw [List.getElem?_modify_eq] at he
      obtain ⟨x, -, rfl⟩ := Option.map_eq_some_iff.mp he
      exact Entry.isDisposed_dispose x

/-- Disposal of what several slots hold. -/
theorem foldl_disposeSlot_spec (slots : List SlotId) (c : Catalog) :
    ∃ es, slots.foldl disposeSlot c = { c with entries := es } ∧ Entry.Disposals c.entries es ∧
      ∀ slot ∈ slots, ∀ entry, (c.slots[slot]?).bind (·.entry) = some entry →
        ∀ e : Entry, es[entry]? = some e → e.isDisposed = true := by
  induction slots generalizing c with
  | nil => exact ⟨c.entries, rfl, .refl _, by simp⟩
  | cons slot rest ih =>
      obtain ⟨ds, hds, hd, gone⟩ := disposeSlot_spec c slot
      obtain ⟨es, hes, he, gone'⟩ := ih (c.disposeSlot slot)
      rw [hds] at hes he gone'
      refine ⟨es, by rw [List.foldl_cons, hds, hes], hd.trans he, ?_⟩
      intro slot' hs entry h e hx
      rcases List.mem_cons.mp hs with rfl | hs
      · -- disposed of already, and once more at most
        obtain ⟨hi, -⟩ := List.getElem?_eq_some_iff.mp hx
        obtain ⟨x, hxd⟩ : ∃ x, ds[entry]? = some x := ⟨_, List.getElem?_eq_getElem (he.1 ▸ hi)⟩
        have := gone entry h x hxd
        rcases he.2 entry x hxd with h' | h' <;> rw [hx] at h' <;> cases h'
        · exact this
        · exact Entry.isDisposed_dispose x
      · exact gone' slot' hs entry h e hx

/-! ## The registry -/

/-- What is found at a path is registered there. -/
theorem find?_some {c : Catalog} {path : Path} {slot : SlotId} {s : Slot}
    (h : c.find? path = some (slot, s)) :
    slot ∈ c.registered ∧ c.slots[slot]? = some s ∧ s.key.same path = true := by
  obtain ⟨i, hi, hs⟩ := List.exists_of_findSome?_eq_some h
  obtain ⟨t, ht, h'⟩ := Option.bind_eq_some_iff.mp hs
  split at h'
  · next same =>
      cases h'
      exact ⟨hi, ht, same⟩
  · cases h'

/-- To give notice is no move of its own. -/
theorem moves_notify (c : Catalog) (ns : List Notice) : Moves may c (c.notify ns) :=
  (Move.ambient c (c.notify ns) rfl rfl rfl rfl rfl (fun h => h) (Nat.le_refl _)).moves

/-- An entry takes a turn. -/
theorem moves_changeEntry (c : Catalog) (entry : EntryId) {f : Entry → Entry}
    (t : ∀ e : Entry, e.Turn (f e)) : Moves may c (c.changeEntry entry f) :=
  (Move.entries c (.modify _ _ t)).moves

/-- A removal evicts what was found. -/
theorem moves_remove (c : Catalog) (path : Path) : Moves may c (c.remove path).1 := by
  rw [remove]
  cases h : c.find? path with
  | none => exact .refl c
  | some found =>
      obtain ⟨es, he, hd, gone⟩ := disposeSlot_spec (c.unregister found.1) found.1
      show Moves may c ((c.unregister found.1).disposeSlot found.1)
      rw [he]
      refine (Move.evict c (· != found.1) hd ?_).moves
      intro slot _ hs
      obtain rfl : slot = found.1 := by simpa using hs
      exact gone

/-- A reset empties the registry and disposes of what it held. -/
theorem reset_spec (c : Catalog) :
    ∃ es, c.reset = { c with registered := [], entries := es } ∧ Entry.Disposals c.entries es ∧
      ∀ slot ∈ c.registered, ∀ entry, (c.slots[slot]?).bind (·.entry) = some entry →
        ∀ e : Entry, es[entry]? = some e → e.isDisposed = true :=
  foldl_disposeSlot_spec c.registered { c with registered := [] }

@[simp] theorem stage?_reset (c : Catalog) : c.reset.stage? = c.stage? := by
  obtain ⟨es, eq, -⟩ := reset_spec c
  rw [eq]
  rfl

/-- A reset evicts everything. -/
theorem moves_reset (c : Catalog) : Moves may c c.reset := by
  obtain ⟨es, he, hd, gone⟩ := reset_spec c
  have move :
      Move may c { c with registered := c.registered.filter fun _ => false, entries := es } :=
    .evict c _ hd fun slot hs _ => gone slot hs
  have none : c.registered.filter (fun _ => false) = [] := by simp
  rw [none] at move
  rw [he]
  exact move.moves

end Catalog

end SelectorCatalog
