import SelectorCatalog.Proofs.Catalog.Supervise

/-!
# The registry of a quiet catalogue

When nothing is under way, the registry holds exactly the live entries that were made for it
(`registry_holds_live_entries`). That no listener is in the way of a newer entry is seen at any
time: what a listener takes from the registry is its own slot, and only after the slot's own entry
has been disposed of.
-/

namespace SelectorCatalog.Catalog

variable {c d : Catalog} {j : JobId} {s : Job.Stage}

/-- A catalogue is quiet when no job is under way and no listener has anything before it. -/
theorem isQuiet_iff :
    c.isQuiet = true ↔ (∀ t ∈ c.jobs, t.isDone = true) ∧ ∀ n, c.listen? n = none := by
  simp only [isQuiet, Bool.and_eq_true, List.all_eq_true, List.mem_range, Option.isNone_iff_eq_none]
  refine and_congr_right fun _ => ⟨fun h n => ?_, fun h n _ => h n⟩
  by_cases lt : n < c.listeners.length
  · exact h n lt
  · rw [listen?, List.getElem?_eq_none (Nat.le_of_not_lt lt)]
    rfl

/-- No job of a quiet catalogue is at a construction. -/
theorem site?_of_quiet (quiet : c.isQuiet = true) (id : JobId) : c.site? id = none := by
  cases h : c.jobs[id]? with
  | none => rw [site?, stage?, h]; rfl
  | some t =>
      have isDone := (isQuiet_iff.mp quiet).1 t (List.mem_of_getElem? h)
      rw [site?, stage?, h]
      obtain ⟨stage, parent, ofCatalog⟩ := t
      cases stage with
      | done => rfl
      | _ => cases isDone

/-- A listener of a quiet catalogue has heard everything, or has ended. -/
theorem closed_of_quiet (quiet : c.isQuiet = true) {i : Nat} {l : Listener} {e : Entry}
    (hl : c.listeners[i]? = some l) (he : c.entries[l.entry]? = some e)
    (lt : l.seen < e.sent.length) : l.closed = true := by
  cases isOpen : l.closed with
  | true => rfl
  | false =>
      obtain ⟨done, silent⟩ := isQuiet_iff.mp quiet
      obtain ⟨⟨event, seen⟩, hr⟩ := Option.isSome_iff_exists.mp (Entry.receive?_isSome lt)
      have free : c.isFree l = true := by
        simp only [isFree, isOpen, Bool.not_false, Bool.true_and, Option.all_eq_true]
        intro id _ t ht
        exact done t (List.mem_of_getElem? ht)
      have := silent i
      simp [listen?, hl, he, hr, free] at this

/-- The slot registered for a path is found by every spelling of the path. -/
theorem Sound.find? (sound : Sound c) {i : SlotId} {s : Slot} (mem : i ∈ c.registered)
    (hs : c.slots[i]? = some s) {path : Path} (same : s.key.same path = true) :
    c.find? path = some (i, s) := by
  have key : ∀ {j : SlotId} {t : Slot}, c.slots[j]? = some t → c.keys[j]? = some t.key := by
    intro j t ht
    rw [keys, List.getElem?_map, ht]
    rfl
  cases h : c.find? path with
  | none => exact absurd same (by simp [find?_none h i mem s.key (key hs)])
  | some found =>
      obtain ⟨j, t⟩ := found
      obtain ⟨mem', ht, same'⟩ := find?_some h
      have keys_same : s.key.same t.key = true :=
        Path.same_iff.mpr ((Path.same_iff.mp same).trans (Path.same_iff.mp same').symm)
      obtain rfl := sound.registered.apart mem mem' (key hs) (key ht) keys_same
      obtain rfl := Option.some.inj (hs.symm.trans ht)
      rfl

/-- A registered slot of a quiet catalogue is filled with a live entry of its kind and path. -/
theorem Sound.live_of_registered (sound : Sound c) (quiet : c.isQuiet = true) (held : c.held = true)
    {i : SlotId} (mem : i ∈ c.registered) :
    ∃ s id e, c.slots[i]? = some s ∧ s.entry = some id ∧ c.entries[id]? = some e ∧
      e.isDisposed = false ∧
      e.scope = .registry ∧ e.kind = s.kind ∧ e.path = s.key := by
  have lt : i < c.slots.length := by
    have := sound.registered.lt i mem
    rwa [keys, List.length_map] at this
  have hs : c.slots[i]? = some c.slots[i] := List.getElem?_eq_getElem lt
  cases filled : c.slots[i].entry with
  | none =>
      -- a vacant slot would be under construction
      obtain ⟨j, x, hx, -⟩ := sound.built.vacant hs filled
      cases (site?_of_quiet quiet j).symm.trans hx
  | some id =>
      obtain ⟨l, e, hl, rfl, he, file⟩ := sound.filled hs filled
      refine ⟨_, _, e, hs, filled, he, ?_, file⟩
      cases live : e.isDisposed with
      | false => rfl
      | true =>
          -- its listener would have ended, and taken the slot along
          cases isOpen : l.closed with
          | true => exact absurd mem (sound.heard.ended hl isOpen held he).2
          | false =>
              have lt := sound.heard.before hl isOpen he live
              cases isOpen.symm.trans (closed_of_quiet quiet hl he lt)

/-- A live entry of the registry is found at its path. -/
theorem Sound.registered_of_live (sound : Sound c) (quiet : c.isQuiet = true) {id : EntryId}
    {e : Entry} (he : c.entries[id]? = some e) (scope : e.scope = .registry)
    (live : e.isDisposed = false) : c.entryAt? e.path = some id := by
  obtain ⟨i, s, own, hs, -, path⟩ := sound.slot_of_entry he scope
  cases filled : s.entry with
  | none =>
      obtain ⟨j, x, hx, -⟩ := sound.built.vacant hs filled
      cases (site?_of_quiet quiet j).symm.trans hx
  | some id' =>
      obtain rfl : id' = id := Option.some.inj ((sound.owned.filled hs filled).symm.trans own)
      have mem : i ∈ c.registered := by
        refine Classical.byContradiction fun out => ?_
        cases live.symm.trans (sound.evicted.gone hs filled out he)
      rw [entryAt?, sound.find? mem hs (Path.same_iff.mpr (congrArg Path.parts path.symm))]
      exact filled

/-! ## Listeners and the registry -/

/-- Parts that look a path up do nothing else for the time being. -/
theorem startPartsFrom_byPath (paths : List Path) (c : Catalog) (first : JobId) :
    ∃ js, c.startPartsFrom first (paths.map fun path => .create path true) =
        { c with jobs := js } ∧ ∀ j < first, js[j]? = c.jobs[j]? := by
  induction paths generalizing c first with
  | nil => exact ⟨c.jobs, rfl, fun _ _ => rfl⟩
  | cons path rest ih =>
      obtain ⟨js, eq, same⟩ := ih (c.setStage first (.resolving .css path)) (first + 1)
      refine ⟨js, eq, ?_⟩
      intro j lt
      rw [same j (Nat.lt_succ_of_lt lt), setStage, List.getElem?_modify_ne _ _ (Nat.ne_of_gt lt)]

/-- Attaching stylesheets starts new jobs and does nothing else. -/
theorem startAttach_frame (hs : c.stage? j = some s) (links : List Path) :
    ∃ js, c.startAttach j links = { c with jobs := js } ∧
      ∀ i < c.jobs.length, j ≠ i → js[i]? = c.jobs[i]? := by
  let parts : List Part := (distinct links).map fun path => .create path true
  -- starting the parts changes nothing but the jobs behind the old ones
  obtain ⟨js, eq, same⟩ :=
    startPartsFrom_byPath (distinct links) (c.enlisted j parts .attach) c.jobs.length
  have kept : ∀ i < c.jobs.length, j ≠ i → js[i]? = c.jobs[i]? := by
    intro i lt ne
    rw [same i lt]
    show ((c.jobs ++ _).modify j _)[i]? = _
    rw [List.getElem?_modify_ne _ _ ne, List.getElem?_append_left lt]
  have joins : (c.enlisted j parts .attach).stage? j =
      some (.joining (List.range' c.jobs.length parts.length) .attach) :=
    stage?_setStage_self (stage?_append _ hs) _
  have joins' : ({ c with jobs := js } : Catalog).stage? j =
      some (.joining (List.range' c.jobs.length parts.length) .attach) := by
    rw [← joins, stage?, stage?, ← same j (stage?_lt hs)]
  rw [startAttach, startParts_eq, eq]
  -- joining sets at most the stage of the job itself
  show ∃ js', ({ c with jobs := js } : Catalog).joinParts j = _ ∧ _
  rw [joinParts, joins']
  dsimp only
  split
  · next outcomes _ =>
      refine ⟨_, rfl, ?_⟩
      intro i lt ne
      rw [List.getElem?_modify_ne _ _ ne]
      exact kept i lt ne
  · exact ⟨js, rfl, kept⟩

/-- Links are attached without a change of the registry: their paths have to be looked up first. -/
theorem startAttach_registered (hs : c.stage? j = some s) (links : List Path) :
    (c.startAttach j links).registered = c.registered := by
  obtain ⟨js, eq, -⟩ := startAttach_frame hs links
  rw [eq]

/-- What a listener takes from the registry is its own slot, and only when the entry made for the
slot has been disposed of. -/
theorem Sound.listen?_registered (sound : Sound c) {n : Nat} (h : c.listen? n = some d) {i : SlotId}
    (mem : i ∈ c.registered) (out : i ∉ d.registered) :
    i = n ∧ ∃ id e, c.owners[i]? = some id ∧ c.entries[id]? = some e ∧ e.isDisposed = true := by
  obtain ⟨l, e, event, seen, hl, -, he, hr, rfl⟩ := listen?_some h
  have slot_eq := sound.heard.slot_eq hl
  cases event with
  | fetchComplete links =>
      simp only [hear] at out
      split at out
      · refine absurd ?_ out
        rw [startAttach_registered (s := .starting)]
        · exact mem
        · exact stage?_addJob c true
      · exact absurd mem out
  | disposed =>
      simp only [hear] at out
      split at out
      · have eq : i = l.slot := by
          refine Classical.byContradiction fun ne => out ?_
          exact List.mem_filter.mpr ⟨mem, by simpa using ne⟩
        refine ⟨eq.trans slot_eq, l.entry, e, ?_, he, (sound.honest he).isDisposed_of_receive? hr⟩
        rw [eq, slot_eq, owners, List.getElem?_map, hl]
        rfl
      · exact absurd mem out

/-! ## Runs -/

/-- After every run: when nothing is under way, every registered slot is filled with a live entry of
its kind and path, and every live entry of the registry is the one found at its path. At any time,
what a listener takes from the registry is its own slot, and only when the slot's own entry has been
disposed of. -/
theorem registry_holds_live_entries {config : Config} {clock : Time} {events : List Event}
    (run : Run (new config clock) events c) :
    (c.isQuiet = true → c.held = true →
      (∀ i ∈ c.registered, ∃ s id e, c.slots[i]? = some s ∧ s.entry = some id ∧
        c.entries[id]? = some e ∧
        e.isDisposed = false ∧ e.scope = .registry ∧ e.kind = s.kind ∧ e.path = s.key) ∧
      ∀ (id : EntryId) (e : Entry), c.entries[id]? = some e → e.scope = .registry →
        e.isDisposed = false →
        c.entryAt? e.path = some id) ∧
    ∀ n d, c.listen? n = some d → ∀ i ∈ c.registered, i ∉ d.registered →
      i = n ∧ ∃ id e, c.owners[i]? = some id ∧ c.entries[id]? = some e ∧ e.isDisposed = true := by
  obtain ⟨sound, -⟩ := sound_of_run run
  refine ⟨fun quiet held => ⟨fun i mem => ?_, fun id e he scope live => ?_⟩,
    fun n d step i mem out => ?_⟩
  · exact sound.live_of_registered quiet held mem
  · exact sound.registered_of_live quiet he scope live
  · exact sound.listen?_registered step mem out

/-- A stylesheet is disposed of and removed, and registered anew, spelled otherwise, before the
first listener hears of the disposal. -/
def staleListener : List Event :=
  [.call (.create .css ⟨"/p/a.css"⟩ false)] ++ emptyFile 0 ++
    [.disposeEntry 0, .remove ⟨"/p/a.css"⟩, .call (.create .css ⟨"/p//a.css"⟩ false), .listen 0] ++
      emptyFile 1

/-- The listener that comes late leaves the newer entry alone. -/
theorem staleListener_keeps_newer :
    ∃ c, Run (new {} 0) staleListener c ∧ c.isQuiet = true ∧ c.held = true ∧ c.registered = [1] ∧
      (∃ s id e, c.slots[1]? = some s ∧ s.entry = some id ∧ c.entries[id]? = some e ∧
        e.isDisposed = false ∧
        e.scope = .registry ∧ e.kind = s.kind ∧ e.path = s.key) ∧
      ∀ (id : EntryId) (e : Entry), c.entries[id]? = some e → e.scope = .registry →
        e.isDisposed = false →
        c.entryAt? e.path = some id := by
  have replay :
      ((new {} 0).replay? staleListener).map (fun c => (c.isQuiet, c.held, c.registered)) =
      some (true, true, [1]) := by decide +kernel
  obtain ⟨c, hc, facts⟩ := Option.map_eq_some_iff.mp replay
  obtain ⟨quiet, facts⟩ := Prod.mk.inj facts
  obtain ⟨held, registered⟩ := Prod.mk.inj facts
  have run := run_iff_replay?.mpr hc
  obtain ⟨ready, found⟩ := (registry_holds_live_entries run).1 quiet held
  exact ⟨c, run, quiet, held, registered, ready 1 (by simp [registered]), found⟩

end SelectorCatalog.Catalog
