import SelectorCatalog.Proofs.Catalog.Asks

/-!
# Where things come from

What a catalogue holds after a move, it either held before or got by this move. A job that waits for
where a path leads or for a listing has waited before, or has leave to begin (`Move.act`). An entry
was there before, or is new and has told nothing (`Move.entry`). A listener that goes on went on
before, and has heard no less by now (`Move.listener`). A registered slot was registered before, or
is the next one (`Move.registered`).
-/

namespace SelectorCatalog

/-- The links that an event of an entry tells of. -/
def EntryEvent.links : EntryEvent → List Path
  | .fetchComplete links => links
  | .disposed => []

namespace Catalog

open Job (Stage Act)

/-- Whether a job waits for where a path leads. -/
def IsAsking (c : Catalog) (job : JobId) : Prop :=
  ∃ kind path, c.stage? job = some (.resolving kind path)

/-- Whether a job waits for the listing of a directory. -/
def IsScanning (c : Catalog) (job : JobId) : Prop :=
  ∃ root pending found, c.stage? job = some (.scanning root pending found)

/-- Whether no listener has links before it that it would attach. -/
def LinksHeard (c : Catalog) : Prop :=
  ∀ ⦃n : Nat⦄ ⦃l : Listener⦄ ⦃e : Entry⦄ ⦃links : List Path⦄, c.listeners[n]? = some l →
    l.closed = false → c.entries[l.entry]? = some e → .fetchComplete links ∈ e.unheard l.seen →
    links = []

instance (c : Catalog) : Decidable c.LinksHeard :=
  decidable_of_iff (∀ l ∈ c.listeners, l.closed = false → ∀ e ∈ c.entries[l.entry]?,
      ∀ event ∈ e.unheard l.seen, event.links = []) (by
    constructor
    · intro h n l e links hl isOpen he mem
      exact h l (List.mem_of_getElem? hl) isOpen e he _ mem
    · intro h l mem isOpen e he event told
      obtain ⟨n, hl⟩ := List.getElem?_of_mem mem
      cases event with
      | fetchComplete links => exact h hl isOpen he told
      | disposed => rfl)

variable {may : JobId → Act → Prop} {c d : Catalog} {j : JobId}

/-! ## Jobs that ask or scan -/

/-- A job asks when it is in a stage that does. -/
theorem isAsking_iff : c.IsAsking j ↔ ∃ s, c.stage? j = some s ∧ s.act = .ask := by
  constructor
  · rintro ⟨kind, path, hs⟩
    exact ⟨_, hs, rfl⟩
  · rintro ⟨s, hs, act⟩
    cases s with
    | resolving kind path => exact ⟨kind, path, hs⟩
    | _ => cases act

/-- A job scans when it is in a stage that does. -/
theorem isScanning_iff : c.IsScanning j ↔ ∃ s, c.stage? j = some s ∧ s.act = .scan := by
  constructor
  · rintro ⟨root, pending, found, hs⟩
    exact ⟨_, hs, rfl⟩
  · rintro ⟨s, hs, act⟩
    cases s with
    | scanning root pending found => exact ⟨root, pending, found, hs⟩
    | _ => cases act

/-- A job asks or scans only if it did so before or has leave. -/
theorem Move.act (h : Move may c d) {t : Stage} (ht : d.stage? j = some t)
    (acts : t.act ≠ .proceed) :
    (∃ s, c.stage? j = some s ∧ s.act = t.act) ∨ may j t.act := by
  -- the case of all moves that bring one job to another stage
  have changed : ∀ {id : JobId} {s' : Stage},
      (if id = j then (c.stage? j).map fun _ => s' else c.stage? j) = some t →
      (s'.act = .proceed ∨ may id s'.act) →
        (∃ s, c.stage? j = some s ∧ s.act = t.act) ∨ may j t.act := by
    intro id s' h leave
    split at h
    · next eq =>
        subst eq
        obtain ⟨-, -, rfl⟩ := Option.map_eq_some_iff.mp h
        exact .inr (leave.resolve_left acts)
    · exact .inl ⟨t, h, rfl⟩
  cases h with
  | ambient _ _ _ _ jobs =>
      rw [stage?_congr jobs] at ht
      exact .inl ⟨t, ht, rfl⟩
  | enlist ts starting =>
      -- new jobs have yet to start, which is to proceed
      rw [stage?, List.getElem?_append] at ht
      split at ht
      · exact .inl ⟨t, ht, rfl⟩
      · obtain ⟨x, hx, rfl⟩ := Option.map_eq_some_iff.mp ht
        rw [starting x (List.mem_of_getElem? hx)] at acts
        exact absurd rfl acts
  | stage leave =>
      rw [stage?_setStage] at ht
      exact changed ht (.inr leave)
  | join =>
      rw [stage?_setStage] at ht
      exact changed ht (.inl rfl)
  | claim =>
      rw [stage?_opened] at ht
      exact changed ht (.inl rfl)
  | conclude =>
      rw [stage?_concluded] at ht
      exact changed ht (.inl rfl)
  | entries | standalone | evict | hear | leave | retire => exact .inl ⟨t, ht, rfl⟩

/-- A job that asks or scans did so before, or was let. -/
theorem Moves.act (h : Moves may c d) {t : Stage} (ht : d.stage? j = some t)
    (acts : t.act ≠ .proceed) : (∃ s, c.stage? j = some s ∧ s.act = t.act) ∨ may j t.act := by
  refine h.keep (p := fun d => ∀ t : Stage, d.stage? j = some t → t.act ≠ .proceed →
    (∃ s, c.stage? j = some s ∧ s.act = t.act) ∨ may j t.act) ?_
      (fun t ht _ => .inl ⟨t, ht, rfl⟩) t ht acts
  intro d e ih move t ht acts
  rcases move.act ht acts with ⟨s, hs, same⟩ | leave
  · have := ih s hs (same ▸ acts)
    rwa [same] at this
  · exact .inr leave

/-! ## Entries, listeners and slots -/

/-- An entry comes from one before, or is new. -/
theorem Move.entry (h : Move may c d) {id : EntryId} {e' : Entry} (he : d.entries[id]? = some e') :
    (∃ e : Entry, c.entries[id]? = some e ∧ e.Turn e') ∨
      (c.entries.length ≤ id ∧ e'.sent = [] ∧
        (e'.scope = .standalone ∨ ∃ j, may j (.claim e'.kind))) := by
  have turned : ∀ {es : List Entry}, Entry.Turns c.entries es → es[id]? = some e' →
      ∃ e : Entry, c.entries[id]? = some e ∧ e.Turn e' := fun turns he => turns.origin he
  cases h with
  | ambient _ entries => exact .inl ⟨e', by rw [← entries, he], .same⟩
  | entries turns => exact .inl (turned turns he)
  | evict _ disposals => exact .inl (turned disposals.turns he)
  | standalone kind path =>
      rcases getElem?_concat he with he | ⟨rfl, rfl⟩
      · exact .inl ⟨e', he, .same⟩
      · exact .inr ⟨Nat.le_refl _, rfl, .inl rfl⟩
  | @claim id _ kind path leave =>
      rcases getElem?_concat he with he | ⟨rfl, rfl⟩
      · exact .inl ⟨e', he, .same⟩
      · let e : Entry := { kind := kind, path := path, scope := .registry }
        have file := (Entry.Turn.fetch (e := e) rfl).file
        exact .inr ⟨Nat.le_refl _, Entry.sent_beginFetch _, .inr ⟨id, by rw [file.1]; exact leave⟩⟩
  | @conclude _ f slot =>
      rw [concluded_entries] at he
      split at he
      · exact .inl ⟨e', he, .same⟩
      · exact .inl (turned (Entry.Disposals.modify c.entries f.entry).turns he)
  | enlist | stage | join | hear | leave | retire => exact .inl ⟨e', he, .same⟩

/-- An open listener was open before and has gone on, or is new. -/
theorem Move.listener (h : Move may c d) {n : Nat} {l' : Listener} (hl : d.listeners[n]? = some l')
    (isOpen : l'.closed = false) :
    (∃ l, c.listeners[n]? = some l ∧ l.closed = false ∧ l'.entry = l.entry ∧ l.seen ≤ l'.seen) ∨
      l'.entry = c.entries.length := by
  -- the case of all moves that let one listener go on
  have moved : ∀ {i : Nat} {l x : Listener}, (c.listeners.set i x)[n]? = some l' →
      c.listeners[i]? = some l →
      l.closed = false → x.entry = l.entry → (x.closed = false → l.seen ≤ x.seen) →
      ∃ l, c.listeners[n]? = some l ∧ l.closed = false ∧ l'.entry = l.entry ∧ l.seen ≤ l'.seen := by
    intro i l x hn hi wasOpen entry seen
    rw [List.getElem?_set] at hn
    split at hn
    · next eq =>
        subst eq
        rw [if_pos (List.getElem?_eq_some_iff.mp hi).1] at hn
        cases hn
        exact ⟨l, hi, wasOpen, entry, seen isOpen⟩
    · exact ⟨l', hn, isOpen, rfl, Nat.le_refl _⟩
  cases h with
  | ambient _ _ _ _ _ listeners =>
      exact .inl ⟨l', by rw [← listeners, hl], isOpen, rfl, Nat.le_refl _⟩
  | claim =>
      rcases getElem?_concat hl with hl | ⟨-, rfl⟩
      · exact .inl ⟨l', hl, isOpen, rfl, Nat.le_refl _⟩
      · exact .inr rfl
  | hear _ at_ wasOpen _ heard =>
      exact .inl (moved hl at_ wasOpen rfl fun _ => Nat.le_of_lt (Entry.receive?_seen_lt heard))
  | leave at_ wasOpen => exact .inl (moved hl at_ wasOpen rfl fun h => by cases h)
  | retire at_ wasOpen => exact .inl (moved hl at_ wasOpen rfl fun h => by cases h)
  | conclude =>
      rw [concluded_listeners] at hl
      exact .inl ⟨l', hl, isOpen, rfl, Nat.le_refl _⟩
  | enlist | stage | join | entries | standalone | evict =>
      exact .inl ⟨l', hl, isOpen, rfl, Nat.le_refl _⟩

/-- Only new slots get registered. -/
theorem Move.registered (h : Move may c d) {i : SlotId} (mem : i ∈ d.registered) :
    i ∈ c.registered ∨ i = c.slots.length := by
  cases h with
  | ambient _ _ _ registered => exact .inl (registered ▸ mem)
  | claim =>
      rcases List.mem_append.mp mem with mem | mem
      · exact .inl mem
      · exact .inr (List.mem_singleton.mp mem)
  | conclude =>
      rw [concluded_registered] at mem
      exact .inl mem
  | evict => exact .inl (List.mem_filter.mp mem).1
  | retire => exact .inl (List.mem_filter.mp mem).1
  | enlist | stage | join | entries | standalone | hear | leave => exact .inl mem

/-- Slots are never taken away. -/
theorem slots_length_step? {event : Event} (step : c.step? event = some d) :
    c.slots.length ≤ d.slots.length := by
  by_cases stop : ∃ n, event = .stopChecker n
  · obtain ⟨n, rfl⟩ := stop
    cases step
    obtain ⟨js, cs, eq, -⟩ := stopChecker_frame c n
    exact Nat.le_of_eq (by rw [eq])
  · exact (step?_moves step fun n eq => stop ⟨n, eq⟩).slots_length_le

/-- So there are as many at least after a run. -/
theorem slots_length_of_run {events : List Event} (run : Run c events d) :
    c.slots.length ≤ d.slots.length := by
  induction run with
  | nil => exact Nat.le_refl _
  | cons step _ ih => exact Nat.le_trans (slots_length_step? step) ih

/-- A slot that was there before an event and is registered after it was registered before. -/
theorem mem_registered_step? {event : Event} (step : c.step? event = some d) {i : SlotId}
    (mem : i ∈ d.registered) (lt : i < c.slots.length) : i ∈ c.registered := by
  by_cases stop : ∃ n, event = .stopChecker n
  · obtain ⟨n, rfl⟩ := stop
    cases step
    obtain ⟨js, cs, eq, -⟩ := stopChecker_frame c n
    rwa [eq] at mem
  · refine ((step?_moves step fun n eq => stop ⟨n, eq⟩).keep
      (p := fun d => c.slots.length ≤ d.slots.length ∧ (i ∈ d.registered → i ∈ c.registered))
      ?_ ⟨Nat.le_refl _, id⟩).2 mem
    rintro x y ⟨le, kept⟩ move
    refine ⟨Nat.le_trans le move.slots_length_le, fun mem => ?_⟩
    rcases move.registered mem with before | rfl
    · exact kept before
    · exact absurd lt (Nat.not_lt_of_le le)

/-- An old slot that is registered after a run was so before. -/
theorem mem_registered_of_run {events : List Event} (run : Run c events d) {i : SlotId}
    (mem : i ∈ d.registered) (lt : i < c.slots.length) : i ∈ c.registered := by
  induction run with
  | nil => exact mem
  | cons step _ ih =>
      exact mem_registered_step? step (ih mem (Nat.lt_of_lt_of_le lt (slots_length_step? step))) lt

/-- A listener follows an entry of the registry. -/
theorem Sound.registry_of_listener (sound : Sound c) {n : Nat} {l : Listener} {e : Entry}
    (hl : c.listeners[n]? = some l) (he : c.entries[l.entry]? = some e) : e.scope = .registry := by
  have own : c.owners[n]? = some l.entry := by
    rw [owners, List.getElem?_map, hl]
    rfl
  have lt : n < c.slots.length := sound.owned.length_eq ▸ (List.getElem?_eq_some_iff.mp own).1
  obtain ⟨x, hx, scope, -⟩ := sound.owned.made own (List.getElem?_eq_getElem lt)
  obtain rfl := Option.some.inj (he.symm.trans hx)
  exact scope

/-- What a listener hears next can be heard by an open listener. -/
theorem listen?_unheard {n : Nat} (h : c.listen? n = some d) {event : EntryEvent}
    (heard : c.heard? n = some event) :
    ∃ l e, c.listeners[n]? = some l ∧ l.closed = false ∧ c.entries[l.entry]? = some e ∧
      event ∈ e.unheard l.seen := by
  obtain ⟨l, e, event', seen, hl, isOpen, he, hr, -⟩ := listen?_some h
  obtain rfl : event' = event := by simpa [heard?, hl, he, hr] using heard
  exact ⟨l, e, hl, isOpen, he, Entry.receive?_mem_unheard hr⟩

end Catalog

end SelectorCatalog
