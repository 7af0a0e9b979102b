import SelectorCatalog.Proofs.Catalog.Handout

/-!
# What listeners have heard

A listener goes on only when it listens: no other event touches it (`step?_undisturbed`). So of
every listener that has heard something, the last that it heard was heard at some event of the run,
as the event that its entry had told at that place (`heard_of_run`). When that was a document's
links, a job for each of them has set about looking it up (`listen?_looks_up`).
-/

namespace SelectorCatalog.Catalog

open Job (Outcome Purpose Plan Stage Leads Act)

/-- What the listener of a number receives next: whose event, the event, and how much of what the
entry has told is behind the listener then. -/
def upcoming? (c : Catalog) (n : Nat) : Option (EntryId × EntryEvent × Nat) := do
  let l ← c.listeners[n]?
  let e ← c.entries[l.entry]?
  let (event, seen) ← e.receive? l.seen
  return (l.entry, event, seen)

/-- Listeners that are there stay as they are, and new ones have heard nothing. -/
def Undisturbed (c d : Catalog) : Prop :=
  ∃ new, d.listeners = c.listeners ++ new ∧ ∀ l ∈ new, l.seen = 0

variable {events : List Event} {event : Event} {c d e : Catalog} {id : JobId} {n : Nat}
  {l : Listener} {s : Stage}

/-! ## The end of a job, fetching, checks -/

@[simp] theorem listeners_joinParts (c : Catalog) (id : JobId) :
    (c.joinParts id).listeners = c.listeners := by
  obtain eq | ⟨_, _, _, rs, es, ns, -, -, eq⟩ := joinParts_spec c id
  · rw [eq]
  · rw [eq]
    rfl

@[simp] theorem listeners_complete (c : Catalog) (id : JobId) (outcome : Outcome) :
    (c.complete id outcome).listeners = c.listeners := by
  rw [complete]
  split
  · exact listeners_joinParts _ _
  · rfl

@[simp] theorem listeners_afterFetch (c : Catalog) (id : JobId) (entry : EntryId)
    (result : Except Error Unit) (purpose : Purpose) :
    (c.afterFetch id entry result purpose).listeners = c.listeners := by
  cases purpose with
  | construct slot =>
      rw [afterFetch, afterConstruction]
      split <;> exact listeners_complete _ _ _
  | refresh | saved | direct => exact listeners_complete _ _ _
  | update | opened => cases result <;> exact listeners_complete _ _ _

@[simp] theorem listeners_startFetch (c : Catalog) (id : JobId) (entry : EntryId)
    (purpose : Purpose) : (c.startFetch id entry purpose).listeners = c.listeners := by
  rw [startFetch]
  split
  · rfl
  · split
    · exact listeners_afterFetch _ _ _ _ _
    · rfl

@[simp] theorem listeners_resumeFetch (c : Catalog) (id : JobId) (f : Fetch) (purpose : Purpose)
    (a : Answer) : (c.resumeFetch id f purpose a).listeners = c.listeners := by
  rw [resumeFetch]
  split
  · rfl
  · dsimp only
    split
    · rfl
    · exact listeners_afterFetch _ _ _ _ _

@[simp] theorem listeners_share (c : Catalog) (id : JobId) (slot : SlotId) (entry : EntryId)
    (path : Path) (byPath : Bool) :
    (c.share id slot entry path byPath).listeners = c.listeners := by
  rw [share]
  split
  · exact listeners_complete _ _ _
  · split
    · exact listeners_startFetch _ _ _ _
    · exact listeners_complete _ _ _

@[simp] theorem listeners_startCheck (c : Catalog) (id : JobId) (entry : EntryId) :
    (c.startCheck id entry).listeners = c.listeners := by
  rw [startCheck]
  split
  · exact listeners_complete _ _ _
  · rfl

@[simp] theorem listeners_afterStat (c : Catalog) (id : JobId) (entry : EntryId)
    (result : Except Error FileStat) : (c.afterStat id entry result).listeners = c.listeners := by
  cases result with
  | error error =>
      rw [afterStat]
      split <;> exact listeners_complete _ _ _
  | ok stat =>
      rw [afterStat]
      split
      · exact listeners_startFetch _ _ _ _
      · exact listeners_complete _ _ _

/-! ## Undisturbed listeners -/

namespace Undisturbed

/-- A catalogue with the same listeners is undisturbed. -/
theorem of_eq (same : d.listeners = c.listeners) : Undisturbed c d :=
  ⟨[], by rw [same, List.append_nil], nofun⟩

/-- Two changes that disturb no listener disturb none together. -/
theorem trans (h : Undisturbed c d) (h' : Undisturbed d e) : Undisturbed c e := by
  obtain ⟨new, eq, fresh⟩ := h
  obtain ⟨more, eq', fresh'⟩ := h'
  refine ⟨new ++ more, by rw [eq', eq, List.append_assoc], fun l mem => ?_⟩
  rcases List.mem_append.mp mem with mem | mem
  · exact fresh l mem
  · exact fresh' l mem

/-- A listener that has heard something was there before. -/
theorem old (h : Undisturbed c d) (hl : d.listeners[n]? = some l) (pos : 0 < l.seen) :
    c.listeners[n]? = some l := by
  obtain ⟨new, eq, fresh⟩ := h
  rw [eq, List.getElem?_append] at hl
  split at hl
  · exact hl
  · rw [fresh l (List.mem_of_getElem? hl)] at pos
    cases pos

end Undisturbed

/-- Only a claim brings a new listener. -/
theorem undisturbed_createAt (c : Catalog) (id : JobId) (kind : EntryKind) (path : Path)
    (byPath : Bool) : Undisturbed c (c.createAt id kind path byPath) := by
  cases found : c.find? path with
  | none =>
      rw [createAt_of_none found]
      exact ⟨[Listener.new c.slots.length c.entries.length], rfl, by simp [Listener.new]⟩
  | some found' =>
      rw [createAt_of_some found]
      refine .of_eq ?_
      split
      · split
        · exact listeners_share _ _ _ _ _ _
        · rfl
      · exact listeners_complete _ _ _

theorem undisturbed_startCreate (c : Catalog) (id : JobId) (kind : EntryKind) (path : Path)
    (byPath : Bool) : Undisturbed c (c.startCreate id kind path byPath) := by
  cases byPath with
  | true => exact .of_eq rfl
  | false => exact undisturbed_createAt c id kind path false

/-- Parts that start disturb no listener. -/
theorem undisturbed_startPartsFrom (parts : List Part) (c : Catalog) (first : Nat) :
    Undisturbed c (c.startPartsFrom first parts) := by
  induction parts generalizing c first with
  | nil => exact .of_eq rfl
  | cons part rest ih =>
      refine Undisturbed.trans ?_ (ih _ _)
      cases part with
      | create path byPath => exact undisturbed_startCreate c first .css path byPath
      | check entry => exact .of_eq (listeners_startCheck c first entry)

theorem undisturbed_startParts (c : Catalog) (id : JobId) (parts : List Part) (plan : Plan) :
    Undisturbed c (c.startParts id parts plan) := by
  rw [startParts_eq]
  have enlists : Undisturbed c (c.enlisted id parts plan) := .of_eq rfl
  exact (enlists.trans (undisturbed_startPartsFrom parts _ _)).trans
    (.of_eq (listeners_joinParts _ _))

theorem undisturbed_startChange (c : Catalog) (id : JobId) (change : Change) :
    Undisturbed c (c.startChange id change) := by
  rw [startChange]
  split
  · exact .of_eq (listeners_complete _ _ _)
  · exact undisturbed_startParts (c.notify _) id _ _

theorem undisturbed_scan (c : Catalog) (id : JobId) (root : Path) (found pending : List Path) :
    Undisturbed c (c.scan id root found pending) := by
  cases pending with
  | nil => exact undisturbed_startParts c id _ _
  | cons => exact .of_eq rfl

/-- An answer disturbs no listener. -/
theorem undisturbed_resume (c : Catalog) (id : JobId) (a : Answer) :
    Undisturbed c (c.resume id a) := by
  unfold resume
  split
  · split
    · exact undisturbed_createAt c id _ _ true
    · exact .of_eq (listeners_complete _ _ _)
  · exact .of_eq (listeners_resumeFetch c id _ _ _)
  · exact .of_eq (listeners_afterStat c id _ _)
  · next result _ =>
      cases result with
      | error error => exact undisturbed_scan (c.notify _) id _ _ _
      | ok members => exact undisturbed_scan c id _ _ _
  · exact .of_eq rfl

theorem undisturbed_start (c : Catalog) (call : Call) : Undisturbed c (c.start call).1 := by
  have added : Undisturbed c (c.addJob { stage := .starting, ofCatalog := call.ofCatalog }).1 :=
    .of_eq rfl
  refine added.trans ?_
  cases call with
  | create kind path byPath => exact undisturbed_startCreate _ _ kind path byPath
  | saved path =>
      dsimp only [start]
      split
      · exact .of_eq (listeners_startFetch _ _ _ _)
      · exact .of_eq (listeners_complete _ _ _)
  | checkAll => exact undisturbed_startParts _ _ _ _
  | change change => exact undisturbed_startChange _ _ change
  | openProject root =>
      obtain ⟨es, eq, -⟩ := reset_spec (c.addJob { stage := .starting }).1
      have rooted : Undisturbed (c.addJob { stage := .starting }).1
          { (c.addJob { stage := .starting }).1.reset with root := some root } := by
        rw [eq]
        exact .of_eq rfl
      exact rooted.trans (undisturbed_scan _ _ root [] [root])
  | fetch entry => exact .of_eq (listeners_startFetch _ _ _ _)
  | check entry => exact .of_eq (listeners_startCheck _ _ _)
  | openStandalone path => exact .of_eq (listeners_startFetch _ _ _ _)

theorem undisturbed_tick? {i : Nat} (step : c.tick? i = some d) : Undisturbed c d := by
  cases ticks_of_tick? step with
  | @begins deadline =>
      have readied : Undisturbed c (c.readied i deadline) := .of_eq rfl
      exact readied.trans (undisturbed_startParts _ _ _ _)
  | deserts | ends => exact .of_eq rfl

/-- A listener goes on at its own events only. -/
theorem step?_undisturbed (step : c.step? event = some d) (quiet : ∀ n, event ≠ .listen n) :
    Undisturbed c d := by
  cases event with
  -- a new call may only add listeners
  | call call =>
      cases step
      exact undisturbed_start c call
  | answer job a =>
      simp only [step?] at step
      split at step
      · cases step
        exact undisturbed_resume c job a
      · cases step
  | wake job =>
      simp only [step?, wake?] at step
      split at step
      · obtain ⟨entry, -, rfl⟩ := Option.map_eq_some_iff.mp step
        exact .of_eq (listeners_share _ _ _ _ _ _)
      · cases step
  -- the one event that moves a listener is excluded
  | listen n => exact absurd rfl (quiet n)
  | tick i => exact undisturbed_tick? step
  | remove path =>
      cases step
      obtain ⟨rs, es, eq, -⟩ := remove_spec c path
      rw [eq]
      exact .of_eq rfl
  | reset =>
      cases step
      obtain ⟨es, eq, -⟩ := reset_spec c
      rw [eq]
      exact .of_eq rfl
  | stopChecker i =>
      cases step
      refine .of_eq ?_
      rw [stopChecker]
      split <;> rfl
  | disposeEntry | clearEntry | addStandalone | startChecker | drop | pass =>
      cases step
      exact .of_eq rfl
  | clock time =>
      simp only [step?] at step
      split at step
      · cases step
        exact .of_eq rfl
      · cases step

/-! ## Links are looked up -/

/-- The paths up to repetition grow by those that are new. -/
theorem distinct_append (paths : List Path) (path : Path) :
    distinct (paths ++ [path]) =
      if (distinct paths).any path.same then distinct paths else distinct paths ++ [path] := by
  simp [distinct, List.foldl_append]

/-- What is left of paths are some of them, one of each place. -/
theorem mem_of_mem_distinct {paths : List Path} {path : Path} (mem : path ∈ distinct paths) :
    path ∈ paths := by
  induction paths using List.reverseRecOn with
  | nil => cases mem
  | append_singleton paths last ih =>
      rw [distinct_append] at mem
      split at mem
      · exact List.mem_append_left _ (ih mem)
      · exact List.mem_append.mpr ((List.mem_append.mp mem).imp_left ih)

/-- Each path is kept up to its form. -/
theorem exists_same_in_distinct {paths : List Path} {path : Path} (mem : path ∈ paths) :
    ∃ kept ∈ distinct paths, path.same kept = true := by
  induction paths using List.reverseRecOn with
  | nil => cases mem
  | append_singleton paths last ih =>
      rw [distinct_append]
      rcases List.mem_append.mp mem with before | now
      · obtain ⟨kept, among, same⟩ := ih before
        split
        · exact ⟨kept, among, same⟩
        · exact ⟨kept, List.mem_append_left _ among, same⟩
      · obtain rfl := List.mem_singleton.mp now
        split
        · next found => exact List.any_eq_true.mp found
        · exact ⟨path, by simp, Path.same_iff.mpr rfl⟩

/-- Parts that look a path up all begin to wait. -/
theorem stage?_startPartsFrom_byPath (paths : List Path) (c : Catalog) (first : Nat)
    (there : ∀ i < paths.length, (c.stage? (first + i)).isSome) {i : Nat} {path : Path}
    (at_ : paths[i]? = some path) :
    (c.startPartsFrom first (paths.map fun path => .create path true)).stage? (first + i) =
      some (.resolving .css path) := by
  induction paths generalizing c first i with
  | nil => cases at_
  | cons head rest ih =>
      cases i with
      | zero =>
          cases at_
          -- the first part is set and stays, as the later ones have higher numbers
          obtain ⟨s, hs⟩ := Option.isSome_iff_exists.mp (there 0 (by simp))
          let begun := c.setStage first (.resolving .css path)
          have waits : begun.stage? first = some (.resolving .css path) := stage?_setStage_self hs _
          obtain ⟨js, eq, same⟩ := startPartsFrom_byPath rest begun (first + 1)
          show (begun.startPartsFrom (first + 1)
            (rest.map fun path => .create path true)).stage? first = _
          rw [eq, ← waits, stage?, stage?]
          exact congrArg _ (same first (Nat.lt_succ_self first))
      | succ i =>
          rw [Nat.add_succ, ← Nat.succ_add]
          refine ih _ (first + 1) (fun k lt => ?_) (by simpa using at_)
          rw [show c.startPart first (.create head true) = c.setStage first (.resolving .css head)
            from rfl, stage?_setStage,
            if_neg (Nat.ne_of_lt (Nat.lt_add_right k (Nat.lt_succ_self first)))]
          have := there (k + 1) (by simpa using lt)
          rwa [Nat.add_succ, ← Nat.succ_add] at this

/-- A job that joins its parts changes no other job. -/
theorem stage?_joinParts_of_ne {j : JobId} (ne : id ≠ j) :
    (c.joinParts id).stage? j = c.stage? j := by
  obtain eq | ⟨_, _, _, rs, es, ns, -, -, eq⟩ := joinParts_spec c id
  · rw [eq]
  · rw [eq, stage?_setStage, if_neg ne]
    rfl

/-- When links are attached, a new job for each of them sets about looking it up. -/
theorem startAttach_spec (hs : c.stage? id = some s) (links : List Path) :
    (c.startAttach id links).listeners = c.listeners ∧
      ∀ (i : Nat) path, (distinct links)[i]? = some path →
        (c.startAttach id links).stage? (c.jobs.length + i) = some (.resolving .css path) := by
  refine ⟨?_, fun i path at_ => ?_⟩
  · obtain ⟨js, eq, -⟩ := startAttach_frame hs links
    rw [eq]
  · rw [startAttach, startParts_eq,
      stage?_joinParts_of_ne (Nat.ne_of_lt (Nat.lt_add_right i (stage?_lt hs)))]
    refine stage?_startPartsFrom_byPath _ _ _ (fun k lt => ?_) at_
    rw [stage?_enlisted hs (by simpa using lt)]
    rfl

/-- What a listener that goes on has behind it then. -/
theorem listen?_listeners (step : c.listen? n = some d) :
    ∃ l l' event, c.listeners[n]? = some l ∧ l'.entry = l.entry ∧
      c.upcoming? n = some (l.entry, event, l'.seen) ∧ d.listeners = c.listeners.set n l' := by
  obtain ⟨l, e, event, seen, hl, -, he, hr, rfl⟩ := listen?_some step
  have next : c.upcoming? n = some (l.entry, event, seen) := by simp [upcoming?, hl, he, hr]
  cases event with
  | fetchComplete links =>
      rw [hear]
      split
      · refine ⟨l, { l with seen := seen, busy := some c.jobs.length }, _, hl, rfl, next, ?_⟩
        exact (startAttach_spec (c := (c.addJob { stage := .starting }).1.setListener n _)
          (stage?_addJob c true) links).1
      · exact ⟨l, { l with seen := seen, closed := true }, _, hl, rfl, next, rfl⟩
  | disposed =>
      refine ⟨l, { l with seen := seen, closed := true }, _, hl, rfl, next, ?_⟩
      rw [hear]
      split <;> rfl

/-- A listener that hears of links sends a new job after each of them, as long as the catalogue is
in use. -/
theorem listen?_looks_up (step : c.listen? n = some d) {id : EntryId} {links : List Path}
    {seen : Nat} (next : c.upcoming? n = some (id, .fetchComplete links, seen))
    (alive : c.isAlive = true) {path : Path} (mem : path ∈ distinct links) :
    ∃ job, c.stage? job = none ∧ d.stage? job = some (.resolving .css path) := by
  obtain ⟨l, e, event, seen', hl, -, he, hr, rfl⟩ := listen?_some step
  simp only [upcoming?, hl, he, hr, Option.bind_eq_bind, Option.bind_some, Option.pure_def,
    Option.some.injEq, Prod.mk.injEq] at next
  obtain ⟨-, rfl, rfl⟩ := next
  obtain ⟨i, at_⟩ := List.getElem?_of_mem mem
  rw [hear, if_pos alive]
  refine ⟨(c.addJob { stage := .starting }).1.jobs.length + i, ?_, ?_⟩
  · have ge : c.jobs.length ≤ (c.addJob { stage := .starting }).1.jobs.length + i := by
      simp only [addJob, List.length_append, List.length_singleton]
      omega
    rw [stage?, List.getElem?_eq_none ge]
    rfl
  · exact (startAttach_spec (c := (c.addJob { stage := .starting }).1.setListener n _)
      (stage?_addJob c true) links).2 i path at_

/-! ## Runs -/

/-- A listener that has heard something heard the last of it at some event of the run, as that which
its entry had told at this place. -/
theorem heard_of_run (run : Run c events d) (none : c.listeners = [])
    (hl : d.listeners[n]? = some l) (pos : 0 < l.seen) :
    ∃ early late x y event, events = early ++ .listen n :: late ∧ Run c early x ∧
      x.listen? n = some y ∧ Run y late d ∧ x.upcoming? n = some (l.entry, event, l.seen) := by
  induction events using List.reverseRecOn generalizing d with
  | nil =>
      cases run
      rw [none] at hl
      cases hl
  | append_singleton events event ih =>
      obtain ⟨b, first, step⟩ := run.split_last
      -- the listener is as it was before the last event, or the last event is its own
      by_cases own : event = .listen n ∧ b.listeners[n]? ≠ some l
      · obtain ⟨rfl, ne⟩ := own
        obtain ⟨m, m', event, hm, entry, next, eq⟩ := listen?_listeners step
        rw [eq, List.getElem?_set_self (List.getElem?_eq_some_iff.mp hm).1] at hl
        obtain rfl := Option.some.inj hl
        exact ⟨events, [], b, d, event, rfl, first, step, .nil d, entry ▸ next⟩
      · have before : b.listeners[n]? = some l := by
          by_cases listens : ∃ k, event = .listen k
          · obtain ⟨k, rfl⟩ := listens
            by_cases eq : k = n
            · subst eq
              simpa using own
            · obtain ⟨m, m', -, -, -, -, set⟩ := listen?_listeners step
              rwa [set, List.getElem?_set_ne eq] at hl
          · exact (step?_undisturbed step fun k eq => listens ⟨k, eq⟩).old hl pos
        obtain ⟨early, late, x, y, event', rfl, reach, heard, rest, next⟩ := ih first before
        exact ⟨early, late ++ [event], x, y, event', by simp, reach, heard,
          rest.append (.cons step (.nil d)), next⟩

end SelectorCatalog.Catalog
