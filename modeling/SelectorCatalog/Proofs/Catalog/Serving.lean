import SelectorCatalog.Proofs.Catalog.Asks

/-!
# Slots and those who get them

A slot keeps the path and the kind that it was claimed for, and the entry that it holds
(`SlotsLast`). A job that gets a slot when it asks stays with it: it constructs the entry, waits for
it or has it refreshed, and comes to what the slot holds or to nothing (`Serves`).

* `Moves.slotsLast`: what a step leaves of slots, whatever else it does.
* `Move.serves`: how a job that got a slot may go on, whatever becomes of the slot.
* `Ask.serves_next`, `Ask.refused_next`: what an ask comes to.
* `Ask.builder`: the job that claims a slot is the only one that ever constructs its entry.
-/

namespace SelectorCatalog

/-- What becomes of a slot: it may be filled once. -/
structure Slot.Later (s t : Slot) : Prop where
  key : t.key = s.key
  kind : t.kind = s.kind
  entry : ∀ {id : EntryId}, s.entry = some id → t.entry = some id

theorem Slot.Later.refl (s : Slot) : s.Later s :=
  ⟨rfl, rfl, fun h => h⟩

theorem Slot.Later.trans {s t u : Slot} (h : s.Later t) (h' : t.Later u) : s.Later u :=
  ⟨h'.key.trans h.key, h'.kind.trans h.kind, fun filled => h'.entry (h.entry filled)⟩

namespace Catalog

open Job (Outcome Purpose Plan Stage Leads Act)

/-- What a slot holds. -/
def held? (c : Catalog) (slot : SlotId) : Option EntryId :=
  (c.slots[slot]?).bind (·.entry)

/-- What slots keep: their paths, kinds and entries, and who constructs these. -/
structure SlotsLast (c d : Catalog) : Prop where
  slot : ∀ {i : SlotId} {s : Slot}, c.slots[i]? = some s → ∃ t, d.slots[i]? = some t ∧ s.Later t
  /-- The entries made for slots stay theirs. -/
  owners : c.owners <+: d.owners
  /-- What is under construction was so before, or its slot is new. -/
  site : ∀ {k : JobId} {x : Site}, d.site? k = some x →
    c.site? k = some x ∨ c.slots.length ≤ x.slot

/-- How far a job that got a slot is with it. -/
inductive Serves (c : Catalog) (slot : SlotId) : Stage → Prop where
  | construct (f : Fetch) : Serves c slot (.fetching f (.construct slot))
  | await (path : Path) (byPath : Bool) : Serves c slot (.awaiting slot path byPath)
  | refresh {f : Fetch} (path : Path) :
      c.held? slot = some f.entry → Serves c slot (.fetching f (.refresh path))
  | got {id : EntryId} : c.held? slot = some id → Serves c slot (.done (.entry (some id)))
  | missed : Serves c slot (.done (.entry none))

variable {may : JobId → Act → Prop} {c d e : Catalog} {id : JobId} {i : SlotId} {as : List Ask}

/-! ## What slots keep -/

namespace SlotsLast

theorem refl (c : Catalog) : SlotsLast c c where
  slot {_ s} hs := ⟨s, hs, .refl s⟩
  owners := List.prefix_refl _
  site := .inl

/-- Slots are never taken away. -/
theorem length_le (h : SlotsLast c d) : c.slots.length ≤ d.slots.length := by
  refine Nat.le_of_not_lt fun lt => ?_
  obtain ⟨t, ht, -⟩ := h.slot (List.getElem?_eq_getElem lt)
  exact Nat.lt_irrefl _ (List.getElem?_eq_some_iff.mp ht).1

theorem trans (h : SlotsLast c d) (h' : SlotsLast d e) : SlotsLast c e where
  slot hs := by
    obtain ⟨t, ht, later⟩ := h.slot hs
    obtain ⟨u, hu, later'⟩ := h'.slot ht
    exact ⟨u, hu, later.trans later'⟩
  owners := h.owners.trans h'.owners
  site hx := by
    rcases h'.site hx with hx | new
    · exact h.site hx
    · exact .inr (Nat.le_trans h.length_le new)

/-- Nobody but its builder is ever at the construction of a slot. -/
theorem builder (h : SlotsLast c d) (lt : i < c.slots.length)
    (alone : ∀ k x, c.site? k = some x → x.slot = i → k = id) {k : JobId} {x : Site}
    (hx : d.site? k = some x) (at_ : x.slot = i) : k = id := by
  rcases h.site hx with hx | new
  · exact alone k x hx at_
  · exact absurd lt (Nat.not_lt_of_le (at_ ▸ new))

end SlotsLast

/-- A slot keeps its path, its kind and the entry that it holds. -/
theorem Move.slot (h : Move may c d) (sound : Sound c) {s : Slot} (hs : c.slots[i]? = some s) :
    ∃ t, d.slots[i]? = some t ∧ s.Later t := by
  cases h with
  | ambient _ _ slots =>
      rw [slots]
      exact ⟨s, hs, .refl s⟩
  | claim => exact ⟨s, getElem?_append_some _ hs, .refl s⟩
  | @conclude id f slot _ at_ =>
      -- the slot that is filled is vacant
      obtain ⟨⟨t, ht, vacant⟩, -, -⟩ :=
        sound.built.place (x := ⟨slot, f.entry, f.generation⟩) (by rw [site?, at_]; rfl)
      have fill : ((c.fill slot f.entry).slots)[i]? =
          some (if slot = i then { s with entry := some f.entry } else s) := by
        rw [fill, List.getElem?_modify, hs]
        rfl
      have later : s.Later (if slot = i then { s with entry := some f.entry } else s) := by
        split
        · next hi =>
            subst hi
            obtain rfl := Option.some.inj (ht.symm.trans hs)
            exact ⟨rfl, rfl, fun h => by cases vacant.symm.trans h⟩
        · exact .refl s
      refine ⟨_, ?_, later⟩
      rw [concluded_slots]
      exact fill
  | enlist | stage | join | entries | standalone | evict | hear | leave | retire =>
      exact ⟨s, hs, .refl s⟩

/-- The entries made for slots stay theirs. -/
theorem Move.owners (h : Move may c d) : c.owners <+: d.owners := by
  cases h with
  | ambient _ _ _ _ _ listeners =>
      exact ⟨[], by rw [List.append_nil, Catalog.owners, Catalog.owners, listeners]⟩
  | claim =>
      rw [Catalog.owners, Catalog.owners, opened, List.map_append]
      exact List.prefix_append _ _
  | conclude => exact ⟨[], (List.append_nil _).trans (owners_concluded ..).symm⟩
  | hear _ hl => exact ⟨[], (List.append_nil _).trans (owners_setListener hl (by rfl)).symm⟩
  | leave hl => exact ⟨[], (List.append_nil _).trans (owners_setListener hl (by rfl)).symm⟩
  | retire hl => exact ⟨[], (List.append_nil _).trans (owners_setListener hl (by rfl)).symm⟩
  | enlist | stage | join | entries | standalone | evict => exact List.prefix_refl _

/-- What is under construction was so before, or is new. -/
theorem Move.site? (h : Move may c d) {k : JobId} {x : Site} (hx : d.site? k = some x) :
    c.site? k = some x ∨ x.slot = c.slots.length := by
  cases h with
  | ambient _ _ _ _ jobs => exact .inl (by rw [← site?_congr jobs, hx])
  | enlist ts starting => exact .inl (by rw [← site?_enlist starting, hx])
  | stage _ hs leads => exact .inl (by rw [← site?_setStage hs (site?_of_leads leads), hx])
  | join outcome hs => exact .inl (by rw [← site?_setStage (t := .done outcome) hs rfl, hx])
  | claim kind _ hs =>
      rw [site?_opened hs] at hx
      split at hx
      · cases hx
        exact .inr rfl
      · exact .inl hx
  | conclude _ hs =>
      rw [site?_concluded hs] at hx
      split at hx
      · cases hx
      · exact .inl hx
  | entries | standalone | evict | hear | leave | retire => exact .inl hx

/-- Slots last through every move. -/
theorem Move.slotsLast (h : Move may c d) (sound : Sound c) : SlotsLast c d where
  slot hs := h.slot sound hs
  owners := h.owners
  site hx := (h.site? hx).imp_right fun new => Nat.le_of_eq new.symm

/-- Slots keep their places under moves. -/
theorem Moves.slotsLast (h : Moves may c d) (sound : Sound c) : SlotsLast c d := by
  refine (h.keep (p := fun d => Sound d ∧ SlotsLast c d) ?_ ⟨sound, .refl c⟩).2
  rintro d e ⟨sound, lasts⟩ move
  exact ⟨move.sound sound, lasts.trans (move.slotsLast sound)⟩

/-- What a slot holds it keeps holding. -/
theorem Move.held? (h : Move may c d) (sound : Sound c) {entry : EntryId}
    (holds : c.held? i = some entry) : d.held? i = some entry := by
  obtain ⟨s, hs, filled⟩ := Option.bind_eq_some_iff.mp holds
  obtain ⟨t, ht, later⟩ := h.slot sound hs
  rw [Catalog.held?, ht]
  exact later.entry filled

/-- A job that is done stays done. -/
theorem Move.done (h : Move may c d) {outcome : Outcome} (hs : c.stage? id = some (.done outcome)) :
    d.stage? id = some (.done outcome) := by
  cases h with
  | ambient _ _ _ _ jobs => rw [stage?_congr jobs, hs]
  | enlist ts => exact stage?_append ts hs
  | @stage j s t _ at_ leads =>
      rw [stage?_setStage]
      -- a job that is over cannot be the one whose stage was set
      split
      · next eq =>
          subst eq
          obtain rfl := Option.some.inj (hs.symm.trans at_)
          cases leads with
          | ofOpen isOpen => cases isOpen
      · exact hs
  -- nor can it be one that joins, asks or constructs
  | @join j parts plan _ at_ =>
      rw [stage?_setStage, if_neg, hs]
      rintro rfl
      cases hs.symm.trans at_
  | @claim j s _ _ _ at_ isOpen =>
      rw [stage?_opened, if_neg, hs]
      rintro rfl
      obtain rfl := Option.some.inj (hs.symm.trans at_)
      cases isOpen
  | @conclude j f slot _ at_ =>
      rw [stage?_concluded, if_neg, hs]
      rintro rfl
      cases hs.symm.trans at_
  | entries | standalone | evict | hear | leave | retire => exact hs

/-- A job that is done stays done under moves. -/
theorem Moves.done (h : Moves may c d) {outcome : Outcome}
    (hs : c.stage? id = some (.done outcome)) :
    d.stage? id = some (.done outcome) :=
  h.keep (fun _ _ hs move => move.done hs) hs

/-! ## Jobs that got a slot -/

/-- A stage serves a slot as before when the slot keeps what it holds. -/
theorem Serves.later {s : Stage} (h : Serves c i s)
    (keeps : ∀ entry, c.held? i = some entry → d.held? i = some entry) : Serves d i s := by
  cases h with
  | construct f => exact .construct f
  | await path byPath => exact .await path byPath
  | refresh path holds => exact .refresh path (keeps _ holds)
  | got holds => exact .got (keeps _ holds)
  | missed => exact .missed

/-- How a job with a slot goes on. -/
theorem Serves.leads {s t : Stage} (h : Serves c i s) (leads : Leads c.slots s t) :
    Serves c i t := by
  cases h with
  | construct f =>
      cases leads with
      | ofOpen isOpen => cases isOpen
      | advance _ _ stage => exact .construct _
      | finish _ _ _ no => cases no
  | await path byPath =>
      cases leads with
      | ofOpen isOpen => cases isOpen
      | refresh holds => exact .refresh path holds
      | share holds => exact .got holds
      | miss => exact .missed
  | refresh path holds =>
      cases leads with
      | ofOpen isOpen => cases isOpen
      | advance _ _ stage => exact .refresh path holds
      | finish => exact .got holds
  | got | missed =>
      cases leads with
      | ofOpen isOpen => cases isOpen

/-- The end of a construction fills its slot. -/
theorem held?_concluded (sound : Sound c) {f : Fetch}
    (hs : c.stage? id = some (.fetching f (.construct i))) :
    (c.concluded id i f.entry).held? i = some f.entry := by
  have at_ : c.site? id = some ⟨i, f.entry, f.generation⟩ := by
    rw [Catalog.site?, hs]
    rfl
  obtain ⟨⟨t, ht, -⟩, -, -⟩ := sound.built.place at_
  rw [held?, concluded_slots, fill, List.getElem?_modify_eq, ht]
  rfl

/-- A job with a slot stays with it, whatever move is made. -/
theorem Move.serves (h : Move may c d) (sound : Sound c) {s : Stage} (hs : c.stage? id = some s)
    (serves : Serves c i s) : ∃ t, d.stage? id = some t ∧ Serves d i t := by
  have keeps : ∀ entry, c.held? i = some entry → d.held? i = some entry := fun _ => h.held? sound
  cases h with
  | ambient _ _ _ _ jobs => exact ⟨s, by rw [stage?_congr jobs, hs], serves.later keeps⟩
  | enlist ts => exact ⟨s, stage?_append ts hs, serves.later keeps⟩
  | @stage j s' t _ at_ leads =>
      rw [stage?_setStage]
      by_cases eq : j = id
      · subst eq
        obtain rfl := Option.some.inj (hs.symm.trans at_)
        exact ⟨t, by rw [if_pos rfl, hs]; rfl, (serves.leads leads).later keeps⟩
      · exact ⟨s, by rw [if_neg eq, hs], serves.later keeps⟩
  | @join j parts plan outcome at_ =>
      -- a job that waits for its parts has no slot
      rw [stage?_setStage]
      refine ⟨s, ?_, serves.later keeps⟩
      rw [if_neg, hs]
      rintro rfl
      obtain rfl := Option.some.inj (hs.symm.trans at_)
      cases serves
  | @claim j s' kind path _ at_ isOpen =>
      -- nor has a job that is still to claim one
      rw [stage?_opened]
      refine ⟨s, ?_, serves.later keeps⟩
      rw [if_neg, hs]
      rintro rfl
      obtain rfl := Option.some.inj (hs.symm.trans at_)
      cases serves <;> cases isOpen
  | @conclude j f slot _ at_ =>
      rw [stage?_concluded]
      by_cases eq : j = id
      · -- the one that made the entry
        subst eq
        obtain rfl := Option.some.inj (hs.symm.trans at_)
        cases serves
        refine ⟨_, by rw [if_pos rfl, hs]; rfl, ?_⟩
        by_cases mem : c.isRegistered i = true
        · rw [if_pos mem]
          exact .got (held?_concluded sound at_)
        · rw [if_neg mem]
          exact .missed
      · exact ⟨s, by rw [if_neg eq, hs], serves.later keeps⟩
  | entries | standalone | evict | hear | leave | retire => exact ⟨s, hs, serves.later keeps⟩

/-- A job that serves a slot serves it after further moves. -/
theorem Moves.serves (h : Moves may c d) (sound : Sound c) {s : Stage} (hs : c.stage? id = some s)
    (serves : Serves c i s) : ∃ t, d.stage? id = some t ∧ Serves d i t := by
  refine (h.keep (p := fun d => Sound d ∧ ∃ t, d.stage? id = some t ∧ Serves d i t) ?_
    ⟨sound, s, hs, serves⟩).2
  rintro d e ⟨sound, t, ht, serves⟩ move
  exact ⟨move.sound sound, move.serves sound ht serves⟩

/-- What a job with a slot comes to is what the slot holds. -/
theorem Serves.held?_of_outcome {s : Stage} (serves : Serves c i s) (hs : c.stage? id = some s)
    {entry : EntryId} (came : c.outcome? id = some (.entry (some entry))) :
    c.held? i = some entry := by
  obtain ⟨t, ht, rfl⟩ := Option.map_eq_some_iff.mp hs
  rw [outcome?, ht] at came
  obtain ⟨stage, parent, ofCatalog⟩ := t
  cases serves with
  | got holds =>
      cases came
      exact holds
  | _ => cases came

/-! ## What an ask comes to -/

/-- A job that ends may take the job along that it is the last part of. -/
theorem complete_moves (c : Catalog) (id : JobId) (outcome : Outcome) :
    Moves may (c.setStage id (.done outcome)) (c.complete id outcome) :=
  moves_complete (.refl _)

/-- The end of a job that is no part of another is only its own. -/
theorem complete_alone (alone : (c.jobs[id]?).bind (·.parent) = none) (outcome : Outcome) :
    c.complete id outcome = c.setStage id (.done outcome) := by
  have alone' : ((c.setStage id (.done outcome)).jobs[id]?).bind (·.parent) = none := by
    rw [setStage, List.getElem?_modify_eq]
    cases h : c.jobs[id]? with
    | none => rfl
    | some t => rwa [h] at alone
  rw [complete, alone']

/-- A job that is brought to its end is done. -/
theorem stage?_done (hs : (c.stage? id).isSome) (outcome : Outcome) :
    (c.setStage id (.done outcome)).stage? id = some (.done outcome) := by
  obtain ⟨s, hs⟩ := Option.isSome_iff_exists.mp hs
  rw [stage?_setStage, if_pos rfl, hs]
  rfl

/-- A job that is over is done, whatever it is a part of. -/
theorem stage?_complete (hs : (c.stage? id).isSome) (outcome : Outcome) :
    (c.complete id outcome).stage? id = some (.done outcome) := by
  have ends : Moves (fun _ _ => True) (c.setStage id (.done outcome)) (c.complete id outcome) :=
    complete_moves c id outcome
  exact ends.done (stage?_done hs outcome)

/-- A job that asks for a free path constructs the entry of the new slot. -/
theorem Ask.fresh_next {a : Ask} {s : Stage} (hs : a.state.stage? a.job = some s)
    (fresh : a.claim = .fresh i) :
    a.next = a.state.opened a.job a.kind a.path ∧
      a.next.stage? a.job = some (.fetching ⟨a.state.entries.length, 1, a.state.clock, .stat⟩
        (.construct i)) := by
  obtain ⟨free, rfl⟩ := Ask.claim_fresh_iff.mp fresh
  have eq : a.next = a.state.opened a.job a.kind a.path :=
    createAt_of_none free a.job a.kind a.byPath
  refine ⟨eq, ?_⟩
  rw [eq, stage?_opened, if_pos rfl, hs]
  rfl

theorem serves_complete (sound : Sound c) {s : Stage} (hs : c.stage? id = some s)
    (isOpen : s.isOpen = true) {outcome : Outcome} (serves : Serves c i (.done outcome)) :
    ∃ t, (c.complete id outcome).stage? id = some t ∧ Serves (c.complete id outcome) i t := by
  have ends : Move (fun _ _ => True) c (c.setStage id (.done outcome)) :=
    .stage trivial hs (.ofOpen isOpen rfl)
  have rest : Moves (fun _ _ => True) (c.setStage id (.done outcome)) (c.complete id outcome) :=
    complete_moves c id outcome
  exact rest.serves (ends.sound sound) (stage?_done (by rw [hs]; rfl) outcome)
    (serves.later fun _ => ends.held? sound)

/-- A job that shares the entry of a slot is with the slot. -/
theorem serves_share (sound : Sound c) {s : Stage} (hs : c.stage? id = some s)
    (isOpen : s.isOpen = true) (mem : i ∈ c.registered) {x : Slot} (hx : c.slots[i]? = some x)
    {entry : EntryId} (filled : x.entry = some entry) (path : Path) (byPath : Bool) :
    ∃ t, (c.share id i entry path byPath).stage? id = some t ∧
      Serves (c.share id i entry path byPath) i t := by
  have holds : c.held? i = some entry := by
    rw [held?, hx]
    exact filled
  have registered : (!c.isRegistered i) = false := by
    rw [isRegistered, List.contains_iff_mem.mpr mem]
    rfl
  simp only [share, registered, Bool.false_eq_true, if_false]
  split
  · -- asked for by path: the entry is refreshed, unless it is disposed of
    obtain ⟨l, e, -, -, he, -⟩ := sound.filled hx filled
    have tells : Moves (fun _ _ => True) c (c.notify (fetchNotices path (.error .disposed))) :=
      moves_notify _ _
    cases live : e.isDisposed with
    | true =>
        rw [startFetch_of_disposed he live]
        exact serves_complete (tells.sound sound) hs isOpen (.got holds)
    | false =>
        rw [startFetch_of_live he live]
        refine ⟨_, ?_, .refresh (f := ⟨entry, e.beginFetch.fetches, c.clock, .stat⟩) path holds⟩
        simp [hs]
  · exact serves_complete sound hs isOpen (.got holds)

/-- A job that gets a slot is with it after the ask. -/
theorem Ask.serves_next {a : Ask} (sound : Sound a.state) {s : Stage}
    (hs : a.state.stage? a.job = some s) (isOpen : s.isOpen = true) (gets : a.Gets i) :
    ∃ t, a.next.stage? a.job = some t ∧ Serves a.next i t := by
  rcases gets with fresh | ⟨x, shared⟩
  · exact ⟨_, (Ask.fresh_next hs fresh).2, .construct _⟩
  obtain ⟨found, same⟩ := Ask.claim_shared_iff.mp shared
  have same : (x.kind == a.kind) = true := beq_iff_eq.mpr same
  obtain ⟨mem, hx, -⟩ := find?_some found
  cases filled : x.entry with
  | none =>
      have eq : a.next = a.state.setStage a.job (.awaiting i a.path a.byPath) := by
        simp only [Ask.next, createAt_of_some found, same, if_true, filled]
      rw [eq]
      exact ⟨_, by rw [stage?_setStage, if_pos rfl, hs]; rfl, .await a.path a.byPath⟩
  | some entry =>
      have eq : a.next = a.state.share a.job i entry a.path a.byPath := by
        simp only [Ask.next, createAt_of_some found, same, if_true, filled]
      rw [eq]
      exact serves_share sound hs isOpen mem hx filled a.path a.byPath

/-- A job that asks for a path that is taken by the other kind comes to no entry, and is all that
changes. -/
theorem Ask.refused_next {a : Ask} {s : Stage} (hs : a.state.stage? a.job = some s) {slot : SlotId}
    {x : Slot} (found : a.state.find? a.path = some (slot, x)) (other : x.kind ≠ a.kind) :
    a.next.stage? a.job = some (.done (.entry none)) ∧
      ((a.state.jobs[a.job]?).bind (·.parent) = none →
        a.next.registered = a.state.registered ∧ a.next.slots = a.state.slots ∧
          a.next.entries = a.state.entries) := by
  have eq : a.next = (a.state.notify [.otherKind a.kind (.kindMismatch a.path x.kind)]).complete
      a.job (.entry none) := by
    rw [Ask.next, createAt_of_some found, if_neg (by simpa using other)]
  rw [eq]
  refine ⟨stage?_complete (by show (a.state.stage? a.job).isSome; rw [hs]; rfl) _, fun alone => ?_⟩
  rw [complete_alone (c := a.state.notify _) alone]
  exact ⟨rfl, rfl, rfl⟩

/-- The outcome of a job that is done. -/
theorem outcome?_of_done {outcome : Outcome} (hs : c.stage? id = some (.done outcome)) :
    c.outcome? id = some outcome := by
  obtain ⟨t, ht, stage⟩ := Option.map_eq_some_iff.mp hs
  rw [outcome?, ht]
  show t.outcome? = some outcome
  rw [Job.outcome?, stage]

/-! ## The one that makes the entry -/

/-- The entry of a new slot, and the only job that makes it, ever after. -/
theorem Ask.builder {a : Ask} (sound : Sound a.state) {s : Stage}
    (hs : a.state.stage? a.job = some s) (fresh : a.claim = .fresh i) (h : SlotsLast a.next d) :
    d.owners[i]? = some a.state.entries.length ∧
      ∀ k x, d.site? k = some x → x.slot = i → k = a.job := by
  obtain ⟨free, rfl⟩ := Ask.claim_fresh_iff.mp fresh
  rw [(Ask.fresh_next hs fresh).1] at h
  constructor
  · obtain ⟨more, eq⟩ := h.owners
    have own : (a.state.opened a.job a.kind a.path).owners =
        a.state.owners ++ [a.state.entries.length] := by
      simp [Catalog.owners, opened, Listener.new]
    rw [← eq, own, ← sound.owned.length_eq]
    simp
  · have lt : a.state.slots.length < (a.state.opened a.job a.kind a.path).slots.length := by
      rw [opened, List.length_append]
      exact Nat.lt_succ_self _
    refine fun k x hx at_ => h.builder lt (fun k x hx at_ => ?_) hx at_
    rw [site?_opened hs] at hx
    split at hx
    · next eq => exact eq.symm
    · -- what was under construction before has another slot
      obtain ⟨⟨y, hy, -⟩, -⟩ := sound.built.place hx
      rw [at_] at hy
      exact absurd (List.getElem?_eq_some_iff.mp hy).1 (Nat.lt_irrefl _)

/-- A slot is of the kind and path that were asked for when it was claimed. -/
theorem Ask.file {a : Ask} {s : Stage} (hs : a.state.stage? a.job = some s)
    (fresh : a.claim = .fresh i) (h : SlotsLast a.next d) {x : Slot} (hx : d.slots[i]? = some x) :
    a.kind = x.kind ∧ a.path = x.key := by
  have made : a.next.slots[i]? = some ⟨a.path, a.kind, none⟩ := by
    rw [(Ask.fresh_next hs fresh).1, ← (Ask.claim_fresh_iff.mp fresh).2]
    simp [opened]
  obtain ⟨y, hy, later⟩ := h.slot made
  obtain rfl := Option.some.inj (hx.symm.trans hy)
  exact ⟨later.kind.symm, later.key.symm⟩

end Catalog

end SelectorCatalog
