import SelectorCatalog.Proofs.Catalog.Lookup

/-!
# Single flight

However the asks of any number of jobs mix with removals, resets, disposals and the listeners, a
slot keeps the path and the kind that it was claimed for, its entry is made and first fetched by the
one job that claimed it, and all others that ask for it while it is registered come to the same
entry or to none. A path that is taken by the other kind is refused, and the registry stays as it
is.

Checkers that are stopped change nothing of this, though they give jobs up: a job that asks is
neither a check nor a part of one (`IsSafe`).

* `exists_ask`, `slotsLast_of_ask`: the event that an ask belongs to, and what lasts from there on.
* `exists_fresh_of_run`: every slot is claimed by one ask of the run.
* `single_flight` puts it together.
-/

namespace SelectorCatalog.Catalog

open Job (Outcome Stage)

/-- A state that a run passes. -/
def Passes (c : Catalog) (events : List Event) (b : Catalog) : Prop :=
  ∃ early late, events = early ++ late ∧ Run c early b

/-- What single flight means for a run that has come to a state. -/
structure SingleFlight (start : Catalog) (events : List Event) (c : Catalog) : Prop where
  /-- No two registered slots have the same path. -/
  apart : ∀ i ∈ c.registered, ∀ j ∈ c.registered, ∀ s t : Slot, c.slots[i]? = some s →
    c.slots[j]? = some t → s.key.same t.key = true → i = j
  /-- A slot keeps its path, its kind and the entry that it holds. -/
  lasts : ∀ b : Catalog, Passes start events b → ∀ (i : SlotId) (s : Slot), b.slots[i]? = some s →
    ∃ t, c.slots[i]? = some t ∧ s.Later t
  /-- Every slot is claimed by one ask, whose job and no other makes the entry and fetches it for
  the first time; no other entry is ever made for the slot. -/
  once : ∀ (i : SlotId) (s : Slot), c.slots[i]? = some s → ∃ before a after entry started,
    start.asksAlong events = before ++ a :: after ∧ a.claim = .fresh i ∧
      a.kind = s.kind ∧ a.path = s.key ∧ (∀ b ∈ before ++ after, b.claim ≠ .fresh i) ∧
      a.next.stage? a.job = some (.fetching ⟨entry, 1, started, .stat⟩ (.construct i)) ∧
      (∀ b : Catalog, Passes start events b →
        ∀ k f, b.stage? k = some (.fetching f (.construct i)) →
          k = a.job ∧ f.entry = entry ∧ f.generation = 1) ∧
      ∀ x, s.entry = some x → x = entry
  /-- All who got a slot and came to an entry came to the same. -/
  agree : ∀ a ∈ start.asksAlong events, ∀ b ∈ start.asksAlong events, ∀ i, a.Gets i → b.Gets i →
    ∀ x y, c.outcome? a.job = some (.entry (some x)) → c.outcome? b.job = some (.entry (some y)) →
    x = y
  /-- Who asks for a path that the other kind has taken comes to no entry, and the registry stays as
  it is. Only a part of another job may be the last that the other job waits for, which then goes
  on. -/
  refuse : ∀ a ∈ start.asksAlong events, ∀ i s, a.state.find? a.path = some (i, s) →
    s.kind ≠ a.kind → c.outcome? a.job = some (.entry none) ∧
      ((a.state.jobs[a.job]?).bind (·.parent) = none → a.next.registered = a.state.registered ∧
        a.next.slots = a.state.slots ∧ a.next.entries = a.state.entries)

/-- Whether no checker has a job in hand, be it for itself or as a part of its check. -/
def IsSafe (c : Catalog) (job : JobId) : Prop :=
  ∀ (i deadline : Nat) (id : JobId) (t : Job), c.checkers[i]? = some (.busy deadline id) →
    c.jobs[job]? = some t → job ≠ id ∧ t.parent ≠ some id

variable {event : Event} {events early late : List Event} {b c d : Catalog} {a : Ask} {i : SlotId}
  {job : JobId} {id : EntryId} {outcome : Outcome}

/-! ## Asks along a run -/

/-- An ask of a run is one of an event of the run. -/
theorem exists_ask (run : Run c events d) (mem : a ∈ c.asksAlong events) :
    ∃ early event late x y, events = early ++ event :: late ∧ Run c early x ∧
      x.step? event = some y ∧ Run y late d ∧ a ∈ x.asks event := by
  induction run with
  | nil => cases mem
  | @cons c c' _ event events step run ih =>
      rw [asksAlong, step] at mem
      rcases List.mem_append.mp mem with now | later
      · exact ⟨[], event, events, c, c', rfl, .nil c, step, run, now⟩
      · obtain ⟨early, event', late, x, y, rfl, first, step', rest, mem⟩ := ih later
        exact ⟨event :: early, event', late, x, y, rfl, .cons step first, step', rest, mem⟩

/-- From an ask on slots last. -/
theorem slotsLast_of_ask (run : Run c events d) (sound : Sound c) (supervised : Supervised c)
    (mem : a ∈ c.asksAlong events) :
    Sound a.state ∧ (∃ s, a.state.stage? a.job = some s ∧ s.isOpen = true) ∧
      SlotsLast a.next d := by
  obtain ⟨early, event, late, x, y, -, first, step, rest, mem⟩ := exists_ask run mem
  obtain ⟨sound_x, supervised_x⟩ := sound_along first sound supervised
  obtain ⟨sound_a, meets, sound_next, moves⟩ := meets_of_asks sound_x step mem
  refine ⟨sound_a, meets, (moves.slotsLast sound_next).trans (slotsLast_of_run rest ?_ ?_)⟩
  · exact supervised_x.sound_step? sound_x step
  · exact supervised_x.step? sound_x step

/-- What a job comes to is what the slot holds that it got. -/
theorem held?_of_gets (run : Run c events d) (sound : Sound c) (supervised : Supervised c)
    (mem : a ∈ c.asksAlong events) (gets : a.Gets i)
    (came : d.outcome? a.job = some (.entry (some id))) : d.held? i = some id := by
  obtain ⟨early, event, late, x, y, -, first, step, rest, mem⟩ := exists_ask run mem
  obtain ⟨sound_x, supervised_x⟩ := sound_along first sound supervised
  obtain ⟨sound_a, ⟨s, hs, isOpen⟩, sound_next, moves⟩ := meets_of_asks sound_x step mem
  have pursues : y.Pursues a i := (Ask.pursues_next sound_a hs isOpen gets).moves sound_next moves
  obtain ⟨-, t, ht, serves⟩ := pursues.of_run rest (supervised_x.sound_step? sound_x step)
    (supervised_x.step? sound_x step) (stage?_of_outcome? came)
  exact serves.held?_of_outcome ht came

/-! ## The ask that claims a slot -/

/-- What an event claims is new with the event. -/
theorem fresh_bounds_step? (step : c.step? event = some d) (mem : a ∈ c.asks event)
    (fresh : a.claim = .fresh i) : c.slots.length ≤ i ∧ i < d.slots.length := by
  have go : ∀ n, event ≠ .stopChecker n := by
    rintro n rfl
    cases mem
  exact (step?_through step go).fresh_bounds mem fresh

/-- The slot that an ask claims is new with the run. -/
theorem fresh_bounds_of_run (run : Run c events d) (mem : a ∈ c.asksAlong events)
    (fresh : a.claim = .fresh i) : c.slots.length ≤ i ∧ i < d.slots.length := by
  induction run with
  | nil => cases mem
  | @cons c c' _ event events step run ih =>
      rw [asksAlong, step] at mem
      rcases List.mem_append.mp mem with now | later
      · obtain ⟨ge, lt⟩ := fresh_bounds_step? step now fresh
        exact ⟨ge, Nat.lt_of_lt_of_le lt (slots_length_of_run run)⟩
      · obtain ⟨ge, lt⟩ := ih later
        exact ⟨Nat.le_trans (slots_length_step? step) ge, lt⟩

/-- Every slot that an event brings is claimed by one of its asks, and by no other. -/
theorem exists_fresh_step? (step : c.step? event = some d) (ge : c.slots.length ≤ i)
    (lt : i < d.slots.length) :
    ∃ xs a ys, c.asks event = xs ++ a :: ys ∧ a.claim = .fresh i ∧
      ∀ b ∈ xs ++ ys, b.claim ≠ .fresh i := by
  refine (step?_through step ?_).exists_fresh ge lt
  rintro n rfl
  cases step
  obtain ⟨js, cs, eq, -⟩ := stopChecker_frame c n
  rw [eq] at lt
  exact Nat.not_lt_of_le ge lt

/-- Every slot that a run brings is claimed by one of its asks, and by no other. -/
theorem exists_fresh_of_run (run : Run c events d) (ge : c.slots.length ≤ i)
    (lt : i < d.slots.length) :
    ∃ xs a ys, c.asksAlong events = xs ++ a :: ys ∧ a.claim = .fresh i ∧
      ∀ b ∈ xs ++ ys, b.claim ≠ .fresh i := by
  induction run with
  | nil => exact absurd lt (Nat.not_lt_of_le ge)
  | @cons c c' _ event events step run ih =>
      have along : c.asksAlong (event :: events) = c.asks event ++ c'.asksAlong events := by
        rw [asksAlong, step]
      rcases Nat.lt_or_ge i c'.slots.length with new | old
      · -- claimed in this event, while all later asks claim slots beyond
        obtain ⟨xs, a, ys, split, fresh, others⟩ := exists_fresh_step? step ge new
        refine ⟨xs, a, ys ++ c'.asksAlong events, by simp [along, split], fresh, fun b mem => ?_⟩
        rw [← List.append_assoc] at mem
        rcases List.mem_append.mp mem with now | later
        · exact others b now
        · exact fun fresh' =>
            Nat.not_lt_of_le (fresh_bounds_of_run run later fresh').1 new
      · -- claimed later, beyond all that this event claims
        obtain ⟨xs, a, ys, split, fresh, others⟩ := ih old lt
        refine ⟨c.asks event ++ xs, a, ys, by simp [along, split], fresh, fun b mem => ?_⟩
        rw [List.append_assoc] at mem
        rcases List.mem_append.mp mem with now | later
        · exact fun fresh' => Nat.not_lt_of_le old (fresh_bounds_step? step now fresh').2
        · exact others b later

/-- The construction of a slot, seen from any state that a run passes. -/
theorem builder_of_fresh (first : Run c early b) (sound : Sound c) (supervised : Supervised c)
    (none : c.slots = []) {xs ys more : List Ask}
    (split : c.asksAlong early ++ more = xs ++ a :: ys)
    (others : ∀ x ∈ xs ++ ys, x.claim ≠ .fresh i) {k : JobId} {f : Fetch}
    (hk : b.stage? k = some (.fetching f (.construct i))) :
    k = a.job ∧ f.entry = a.state.entries.length ∧ f.generation = 1 := by
  have at_ : b.site? k = some ⟨i, f.entry, f.generation⟩ := by
    rw [Catalog.site?, hk]
    rfl
  obtain ⟨⟨s, hs, -⟩, own, begun⟩ := (sound_along first sound supervised).1.built.place at_
  -- the slot was claimed by one of the asks so far, which can only be this one
  obtain ⟨xs', a', ys', eq, fresh, -⟩ :=
    exists_fresh_of_run (i := i) first (by rw [none]; exact Nat.zero_le _)
      (List.getElem?_eq_some_iff.mp hs).1
  obtain rfl : a' = a := by
    have mem : a' ∈ xs ++ a :: ys := by
      rw [← split, eq]
      simp
    rcases List.mem_append.mp mem with mem | mem
    · exact absurd fresh (others a' (List.mem_append_left _ mem))
    · rcases List.mem_cons.mp mem with eq | mem
      · exact eq
      · exact absurd fresh (others a' (List.mem_append_right _ mem))
  obtain ⟨sound_a, ⟨t, ht, -⟩, lasts⟩ :=
    slotsLast_of_ask first sound supervised (a := a') (by simp [eq])
  obtain ⟨own', builder⟩ := Ask.builder sound_a ht fresh lasts
  exact ⟨builder k _ at_ rfl, Option.some.inj (own.symm.trans own'), begun⟩

/-! ## Who asks is not given up -/

/-- Who asks in an event is new with it, or has waited for where a path leads. -/
theorem job_of_asks (mem : a ∈ c.asks event) : c.jobs.length ≤ a.job ∨ c.IsAsking a.job := by
  -- what is started as a part has a new number
  have parts : ∀ {b : Catalog} {parts : List Part} {plan : Job.Plan} {j : JobId},
      c.jobs.length ≤ b.jobs.length → a ∈ b.startPartsAsks j parts plan →
      c.jobs.length ≤ a.job :=
    fun le mem => Nat.le_trans le (job_of_partAsks mem).1
  have scan : ∀ {b : Catalog} {j : JobId} {root : Path} {found pending : List Path},
      c.jobs.length ≤ b.jobs.length → a ∈ b.scanAsks j root found pending →
      c.jobs.length ≤ a.job := by
    intro b j root found pending le mem
    cases pending with
    | nil => exact parts le mem
    | cons dir pending => cases mem
  cases event with
  | call call =>
      cases call with
      | create kind path byPath =>
          cases byPath with
          | true => cases mem
          | false =>
              rw [List.mem_singleton.mp mem]
              exact .inl (Nat.le_refl _)
      | change change =>
          rw [asks, changeAsks] at mem
          split at mem
          · cases mem
          · exact .inl (parts (by simp [addJob, notify]) mem)
      | _ => cases mem
  | answer j answer =>
      simp only [asks] at mem
      split at mem
      · next kind path file hs =>
          -- asked for by path: the ask comes from the job that looked it up
          rw [List.mem_singleton.mp mem]
          exact .inr ⟨kind, path, hs⟩
      · next root dir pending found result hs =>
          cases result with
          | error error => exact .inl (scan (b := c.notify _) (Nat.le_refl _) mem)
          | ok members => exact .inl (scan (Nat.le_refl _) mem)
      · cases mem
  | _ => cases mem

/-- Who asks is no check, and no part of one. -/
theorem Supervised.isSafe_of_asks (h : Supervised c) (step : c.step? event = some d)
    (mem : a ∈ c.asks event) : d.IsSafe a.job := by
  have enlists : Enlists (fun p => c.jobs.length = p ∨ c.IsScanning p) c d := by
    refine step?_enlists step ?_ ?_ ?_
    · rintro k rfl
      cases mem
    · rintro rfl
      cases mem
    · rintro k rfl
      cases mem
  intro k deadline id t busy ht
  have checkers : d.checkers = c.checkers := by
    obtain ⟨ps, crew, -⟩ := enlists
    exact congrArg Prod.snd crew
  have supervises := h.busy (checkers ▸ busy)
  -- no check waits for where a path leads, or scans
  have unasking : ∀ {j : JobId} {t : Job}, c.jobs[j]? = some t → c.IsAsking j →
      j ≠ id ∧ t.parent ≠ some id := by
    rintro j t ht ⟨kind, path, hs⟩
    have at_ : t.stage = .resolving kind path := by simpa [stage?, ht] using hs
    have no : ¬t.stage.IsCheck c.entries := by
      rw [at_]
      intro check
      cases check
    exact ⟨fun eq => no (supervises.checks ht (.inl eq)),
      fun part => no (supervises.checks ht (.inr part))⟩
  rcases enlists.parent ht with ⟨t₀, ht₀, same⟩ | ⟨ge, new⟩
  · rcases job_of_asks mem with ge | asking
    · exact absurd (List.getElem?_eq_some_iff.mp ht₀).1 (Nat.not_lt_of_le ge)
    · rw [same]
      exact unasking ht₀ asking
  · refine ⟨fun eq => ?_, fun part => ?_⟩
    · rw [eq] at ge
      exact Nat.not_lt_of_le ge supervises.lt
    · rcases (new id part).1 with rfl | ⟨root, pending, found, hs⟩
      · exact Nat.lt_irrefl _ supervises.lt
      · obtain ⟨t₀, ht₀, stage⟩ := Option.map_eq_some_iff.mp hs
        have check := supervises.checks ht₀ (.inl rfl)
        rw [stage] at check
        cases check

/-- Checkers take up new jobs only. -/
theorem IsSafe.step? (h : c.IsSafe job) (supervised : Supervised c) (lt : job < c.jobs.length)
    (step : c.step? event = some d) : d.IsSafe job := by
  obtain ⟨cs, enlists, busy⟩ := step?_crew step
  intro k deadline id t at_ ht
  have checkers : d.checkers = cs := by
    obtain ⟨ps, crew, -⟩ := enlists
    exact congrArg Prod.snd crew
  rcases enlists.parent ht with ⟨t₀, ht₀, same⟩ | ⟨ge, -⟩
  · rw [same]
    rcases busy k deadline id (checkers ▸ at_) with before | ⟨rfl, -⟩
    · exact h k deadline id t₀ before ht₀
    · exact ⟨Nat.ne_of_lt lt, fun part => Nat.lt_irrefl _ (supervised.known ht₀ part)⟩
  · exact absurd lt (Nat.not_lt_of_le ge)

/-- What a job has come to stays, as long as nobody can give the job up. -/
theorem IsSafe.done_step? (h : c.IsSafe job) (ended : c.stage? job = some (.done outcome))
    (step : c.step? event = some d) : d.stage? job = some (.done outcome) := by
  by_cases stop : ∃ n, event = .stopChecker n
  · obtain ⟨n, rfl⟩ := stop
    cases step
    rcases stage?_stopChecker ended n with same | ⟨-, deadline, id, t, busy, ht, given⟩
    · exact same
    · obtain ⟨own, part⟩ := h n deadline id t busy ht
      exact absurd given (not_or.mpr ⟨own, part⟩)
  · exact (step?_moves step fun n eq => stop ⟨n, eq⟩).done ended

/-- A safe job that is done keeps its outcome along a run. -/
theorem IsSafe.done_of_run (run : Run c events d) (sound : Sound c) (supervised : Supervised c)
    (h : c.IsSafe job) (ended : c.stage? job = some (.done outcome)) :
    d.stage? job = some (.done outcome) := by
  induction run with
  | nil => exact ended
  | cons step _ ih =>
      exact ih (supervised.sound_step? sound step) (supervised.step? sound step)
        (h.step? supervised (stage?_lt ended) step) (h.done_step? ended step)

/-- A job that asks for a path that the other kind has taken comes to no entry for good. -/
theorem refused_of_run (run : Run c events d) (sound : Sound c) (supervised : Supervised c)
    (mem : a ∈ c.asksAlong events) {s : Slot} (found : a.state.find? a.path = some (i, s))
    (other : s.kind ≠ a.kind) : d.outcome? a.job = some (.entry none) := by
  obtain ⟨early, event, late, x, y, -, first, step, rest, mem⟩ := exists_ask run mem
  obtain ⟨sound_x, supervised_x⟩ := sound_along first sound supervised
  obtain ⟨-, ⟨t, ht, -⟩, -, moves⟩ := meets_of_asks sound_x step mem
  have refused := moves.done (Ask.refused_next ht found other).1
  have safe := supervised_x.isSafe_of_asks step mem
  exact outcome?_of_done (safe.done_of_run rest (supervised_x.sound_step? sound_x step)
    (supervised_x.step? sound_x step) refused)

/-! ## Runs -/

/-- Single flight, for every run. -/
theorem single_flight {config : Config} {clock : Time} (run : Run (new config clock) events c) :
    SingleFlight (new config clock) events c := by
  have start := sound_new config clock
  have start' := supervised_new config clock
  obtain ⟨sound, supervised⟩ := sound_of_run run
  constructor
  · intro i hi j hj s t hs ht same
    refine sound.registered.apart hi hj ?_ ?_ same
    · rw [keys, List.getElem?_map, hs]
      rfl
    · rw [keys, List.getElem?_map, ht]
      rfl
  · rintro b ⟨early, late, rfl, first⟩ i s hs
    obtain ⟨sound_b, supervised_b⟩ := sound_of_run first
    exact (slotsLast_of_run (run.rest first) sound_b supervised_b).slot hs
  · intro i s hs
    -- the run is cut at the ask that claims the slot
    obtain ⟨xs, a, ys, split, fresh, others⟩ := exists_fresh_of_run (i := i) run (Nat.zero_le _)
      (List.getElem?_eq_some_iff.mp hs).1
    obtain ⟨sound_a, ⟨t, ht, -⟩, lasts⟩ :=
      slotsLast_of_ask run start start' (a := a) (by simp [split])
    obtain ⟨kind, path⟩ := Ask.file ht fresh lasts hs
    refine ⟨xs, a, ys, a.state.entries.length, a.state.clock, split, fresh, kind, path, others,
      (Ask.fresh_next ht fresh).2, ?_, ?_⟩
    · rintro b ⟨early, late, rfl, first⟩ k f hk
      rw [asksAlong_append first] at split
      exact builder_of_fresh first start start' rfl split others hk
    · intro x filled
      have own := (Ask.builder sound_a ht fresh lasts).1
      exact Option.some.inj ((sound.owned.filled hs filled).symm.trans own)
  -- all who got a slot hold what the slot holds in the end
  · intro a ha b hb i got got' x y hx hy
    have holds := held?_of_gets run start start' ha got hx
    have holds' := held?_of_gets run start start' hb got' hy
    exact Option.some.inj (holds.symm.trans holds')
  · intro a ha i s found other
    obtain ⟨-, ⟨t, ht, -⟩, -⟩ := slotsLast_of_ask run start start' ha
    exact ⟨refused_of_run run start start' ha found other, (Ask.refused_next ht found other).2⟩

/-- Two jobs ask for a stylesheet, a third for a document at the same path. The stylesheet is
removed before the second of them has taken its entry, and the path is claimed for a document. -/
def contested : List Event :=
  [.call (.create .css ⟨"/p/a"⟩ false), .call (.create .css ⟨"/p/a"⟩ false),
    .call (.create .html ⟨"/p/a"⟩ false)] ++
    emptyFile 0 ++ [.remove ⟨"/p/a"⟩, .wake 1, .call (.create .html ⟨"/p/a"⟩ false), .listen 0]

theorem contested_single_flight :
    ∃ c, Run (new {} 0) contested c ∧ c.registered = [1] ∧
      c.slots = [⟨⟨"/p/a"⟩, .css, some 0⟩, ⟨⟨"/p/a"⟩, .html, none⟩] ∧
        SingleFlight (new {} 0) contested c := by
  have replay : ((new {} 0).replay? contested).map (fun c => (c.registered, c.slots)) =
      some ([1], [⟨⟨"/p/a"⟩, .css, some 0⟩, ⟨⟨"/p/a"⟩, .html, none⟩]) := by decide +kernel
  obtain ⟨c, hc, facts⟩ := Option.map_eq_some_iff.mp replay
  obtain ⟨registered, slots⟩ := Prod.mk.inj facts
  have run := run_iff_replay?.mpr hc
  exact ⟨c, run, registered, slots, single_flight run⟩

end SelectorCatalog.Catalog
