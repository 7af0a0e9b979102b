import SelectorCatalog.Proofs.Catalog.Probe

/-!
# The pace of periodic checks

A checker waits until it is due, checks all stylesheets and waits again. Each event leaves it alone
or does one of a few things to it (`Drives`): when it is due it begins a check, or finishes because
the catalogue is out of use; with the end of the check it waits again; and it may be stopped. So
nothing else ends it, apart from a period of no length, with which it does not even begin.

Two checks of a checker never overlap: the job of the first waits for all its parts (`Gathers`), and
the checker waits for the job. How far apart they begin follows from when the second is due
(`Round.LeadsTo`): a period after the first was due, or after it began if that was late. Lateness of
up to `lateness` is not counted, and then the two may begin closer to each other by as much.

* `Gathers.step?`: a job that waits for all its parts is over when they are.
* `step?_checker`: what an event does to a checker.
* `Follows.step?`: what a checker is at after a check that it has begun.
* `checker_keeps_pace`: when a checker has finished, and how its checks follow each other.
-/

namespace SelectorCatalog

/-- When a checker is due next, unless it has finished. -/
def Checker.deadline? : Checker → Option Nat
  | .waiting deadline | .busy deadline _ => some deadline
  | .finished => none

namespace Catalog

open Job (Outcome Plan Stage Act)

/-- A job is over, and so are all its parts. -/
structure IsOver (c : Catalog) (id : JobId) : Prop where
  ended : (c.outcome? id).isSome
  parts : ∀ {j : JobId} {t : Job}, c.jobs[j]? = some t → t.parent = some id →
    (c.outcome? j).isSome

/-- A job that is no part of another waits for all its parts, or is over together with them. -/
inductive Gathers (c : Catalog) (id : JobId) : Prop where
  | waits {parts : List JobId} {plan : Plan} : c.IsApart id →
      c.stage? id = some (.joining parts plan) →
      (∀ {j : JobId} {t : Job}, c.jobs[j]? = some t → t.parent = some id → j ∈ parts) →
      Gathers c id
  | ended : c.IsOver id → Gathers c id

/-- The state in which a checker begins: it waits for a period, unless that has no length. -/
def freshChecker (c : Catalog) : Checker :=
  if c.config.checkIntervalMs == 0 then .finished
  else .waiting (c.uptime + c.config.checkIntervalMs)

/-- What an event makes of checker `i`. -/
inductive Drives (c : Catalog) (event : Event) (i : Nat) : Checker → Checker → Prop where
  | spares {x : Checker} : event ≠ .tick i → event ≠ .stopChecker i → Drives c event i x x
  | begins {due : Nat} : event = .tick i → due ≤ c.uptime → c.isAlive = true →
      Drives c event i (.waiting due) (.busy (c.nextDeadline due) c.jobs.length)
  | deserts {due : Nat} : event = .tick i → due ≤ c.uptime → c.isAlive = false →
      Drives c event i (.waiting due) .finished
  | ends {deadline : Nat} {id : JobId} : event = .tick i → (c.jobs[id]?).all Job.isDone = true →
      Drives c event i (.busy deadline id) (.waiting deadline)
  | stops {x : Checker} : event = .stopChecker i → Drives c event i x .finished

/-- Checkers that go on are due within a period. -/
def KeepsUp (c : Catalog) : Prop :=
  ∀ {i : Nat} {x : Checker} {deadline : Nat}, c.checkers[i]? = some x →
    x.deadline? = some deadline → deadline ≤ c.uptime + c.config.checkIntervalMs

/-- What ends checker `i`: it is stopped, or it is due and the catalogue is out of use. -/
inductive Ends (c : Catalog) (i : Nat) : Event → Prop where
  | stopped {x : Checker} : c.checkers[i]? = some x → Ends c i (.stopChecker i)
  | deserted {due : Nat} : c.checkers[i]? = some (.waiting due) → due ≤ c.uptime →
      c.isAlive = false → Ends c i (.tick i)

/-- One of the events that begin in a state ends checker `i`. -/
def EndsAlong (c : Catalog) (i : Nat) (events : List Event) : Prop :=
  ∃ early event late b, events = early ++ event :: late ∧ Run c early b ∧ b.Ends i event

/-- A check that a checker begins: when it was due, its job, and the catalogue just before. -/
structure Round where
  due : Nat
  job : JobId
  before : Catalog

/-- When a check begins. -/
def Round.start (r : Round) : Nat :=
  r.before.uptime

/-- Whether a check begins just when it is due, or so late that the next one is put off. -/
def Round.IsCounted (r : Round) : Prop :=
  r.start = r.due ∨ r.due + lateness < r.start

/-- Whether a checker that has begun a check may be due again at a deadline. -/
structure Round.LeadsTo (period : Nat) (r : Round) (deadline : Nat) : Prop where
  due : r.due + period ≤ deadline
  start : r.IsCounted → r.start + period ≤ deadline

/-- How two checks of a checker follow each other: the first is over, with all its parts, when the
second begins, and they are a period apart. -/
structure Round.Precedes (period : Nat) (r s : Round) : Prop where
  isOver : s.before.IsOver r.job
  due : r.due + period ≤ s.due
  /-- Lateness is made up for only if it is small. -/
  near : r.start + period ≤ s.start + lateness
  apart : r.IsCounted → r.start + period ≤ s.start

/-- The check that checker `i` begins on the way from one state to another: it waits in the first
and is busy in the second. -/
def round? (i : Nat) (c d : Catalog) : Option Round :=
  match c.checkers[i]?, d.checkers[i]? with
  | some (.waiting due), some (.busy _ job) => some ⟨due, job, c⟩
  | _, _ => none

/-- The checks that checker `i` begins along a list of events, in their order. -/
def rounds (i : Nat) (c : Catalog) : List Event → List Round
  | [] => []
  | event :: events =>
    match c.step? event with
    | some d => (round? i c d).toList ++ rounds i d events
    | none => []

/-- What checker `i` is at after a check that it has begun: it is not due too early, and busy with
nothing but that check before the check is over. -/
structure Follows (period : Nat) (r : Round) (i : Nat) (c : Catalog) : Prop where
  gathers : c.Gathers r.job
  next : ∃ x, c.checkers[i]? = some x ∧ ∀ deadline, x.deadline? = some deadline →
    r.LeadsTo period deadline ∧ (c.IsOver r.job ∨ x = .busy deadline r.job)

variable {may : JobId → Act → Prop} {event : Event} {events : List Event} {c d : Catalog}
  {i period due deadline : Nat} {id j job p : JobId} {t : Job} {s : Stage} {x y : Checker}
  {parts : List JobId} {plan : Plan} {r r' : Round}

/-! ## Time -/

/-- Time does not run backwards. -/
theorem Move.uptime_le (h : Move may c d) : c.uptime ≤ d.uptime := by
  cases h with
  | ambient _ _ _ _ _ _ _ le => exact le
  | @conclude id f slot =>
      rw [concluded]
      split <;> exact Nat.le_refl _
  | enlist | stage | join | entries | standalone | claim | evict | hear | leave | retire =>
      exact Nat.le_refl _

/-- Timers never go back. -/
theorem uptime_le_step? (step : c.step? event = some d) : c.uptime ≤ d.uptime := by
  by_cases stop : ∃ k, event = .stopChecker k
  · obtain ⟨k, rfl⟩ := stop
    obtain ⟨js, cs, eq, -⟩ := stopChecker_frame c k
    have stopped : c.stopChecker k = d := Option.some.inj step
    rw [← stopped, eq]
  · have moves := step?_moves step fun k eq => stop ⟨k, eq⟩
    exact moves.keep (p := fun b => c.uptime ≤ b.uptime)
      (fun _ _ le move => Nat.le_trans le move.uptime_le) (Nat.le_refl _)

/-! ## Jobs and their parts -/

/-- A job has ended when it is done. -/
theorem ended_iff : (c.outcome? j).isSome ↔ ∃ outcome, c.stage? j = some (.done outcome) := by
  rw [Option.isSome_iff_exists]
  exact exists_congr fun outcome => ⟨stage?_of_outcome?, outcome?_of_done⟩

/-- What has ended stays so. -/
theorem ended_step? (step : c.step? event = some d) (ended : (c.outcome? j).isSome) :
    (d.outcome? j).isSome := by
  rw [ended_iff] at ended ⊢
  obtain ⟨outcome, hs⟩ := ended
  cases step?_fares step hs with
  | stays same => exact ⟨outcome, same⟩
  | stopped _ _ given => exact ⟨_, given⟩
  | answered answer _ expected =>
      simp only [expects, hs] at expected
      cases expected
  | woken _ _ waits => cases waits
  | joins _ _ waits => cases waits

/-- A job that waits for its parts goes on to do so, or is over with the last of them. -/
theorem Move.joins (h : Move may c d) (no : ∀ a, ¬may id a)
    (hs : c.stage? id = some (.joining parts plan)) :
    d.stage? id = some (.joining parts plan) ∨
      (d.outcome? id).isSome ∧ ∀ part ∈ parts, (c.outcome? part).isSome := by
  cases h with
  | ambient _ _ _ _ jobs => exact .inl (by rw [stage?_congr jobs, hs])
  | enlist ts => exact .inl (stage?_append ts hs)
  | @stage k _ t leave =>
      left
      rw [stage?_setStage, if_neg, hs]
      rintro rfl
      exact no _ leave
  | @join k ids plan' outcome at_ ended =>
      by_cases eq : k = id
      · subst eq
        cases hs.symm.trans at_
        exact .inr ⟨ended_iff.mpr ⟨outcome, stage?_setStage_self at_ _⟩, ended⟩
      · exact .inl (by rw [stage?_setStage, if_neg eq, hs])
  | @claim k _ _ _ leave =>
      left
      rw [stage?_opened, if_neg, hs]
      rintro rfl
      exact no _ leave
  | @conclude k f slot leave =>
      left
      rw [stage?_concluded, if_neg, hs]
      rintro rfl
      exact no _ leave
  | entries | standalone | evict | hear | leave | retire => exact .inl hs

/-- A job that has ended stays so. -/
theorem Move.ended (h : Move may c d) (ended : (c.outcome? j).isSome) :
    (d.outcome? j).isSome := by
  obtain ⟨outcome, hs⟩ := ended_iff.mp ended
  exact ended_iff.mpr ⟨outcome, h.done hs⟩

/-- A job that joins its parts waits for all of them. -/
theorem Moves.joins (h : Moves may c d) (no : ∀ a, ¬may id a)
    (hs : c.stage? id = some (.joining parts plan)) :
    d.stage? id = some (.joining parts plan) ∨
      (d.outcome? id).isSome ∧ ∀ part ∈ parts, (d.outcome? part).isSome := by
  refine h.keep (p := fun b => b.stage? id = some (.joining parts plan) ∨
    (b.outcome? id).isSome ∧ ∀ part ∈ parts, (b.outcome? part).isSome) ?_ (.inl hs)
  rintro b b' (waits | ⟨done, ended⟩) move
  · refine (move.joins no waits).imp_right ?_
    rintro ⟨done, ended⟩
    exact ⟨done, fun part mem => move.ended (ended part mem)⟩
  · exact .inr ⟨move.ended done, fun part mem => move.ended (ended part mem)⟩

/-- What may be new after any event. -/
theorem step?_enlists_any (step : c.step? event = some d) :
    ∃ cs, Enlists (fun p => c.jobs.length = p ∨ c.IsScanning p) { c with checkers := cs } d := by
  by_cases tick : ∃ k, event = .tick k
  · obtain ⟨k, rfl⟩ := tick
    cases ticks_of_tick? step with
    | @begins due => exact ⟨_, enlists_begun c k due⟩
    | deserts | ends => exact ⟨c.checkers.set k _, .of_crew rfl⟩
  by_cases start : event = .startChecker
  · subst start
    cases step
    exact ⟨c.startChecker.checkers, .of_crew rfl⟩
  by_cases stop : ∃ k, event = .stopChecker k
  · obtain ⟨k, rfl⟩ := stop
    cases step
    exact ⟨c.checkers.set k .finished, .of_crew (crew_stopChecker c k)⟩
  · refine ⟨c.checkers, step?_enlists step (fun k eq => tick ⟨k, eq⟩) start ?_⟩
    intro k eq
    exact stop ⟨k, eq⟩

/-- A job that has begun and does not scan gets no new parts. -/
theorem parent_of_step? (step : c.step? event = some d) (hs : c.stage? p = some s)
    (idle : ∀ root pending found, s ≠ .scanning root pending found)
    (ht : d.jobs[j]? = some t) (part : t.parent = some p) :
    ∃ t₀, c.jobs[j]? = some t₀ ∧ t₀.parent = some p := by
  obtain ⟨cs, enlists⟩ := step?_enlists_any step
  rcases enlists.parent ht with ⟨t₀, ht₀, same⟩ | ⟨-, new⟩
  · exact ⟨t₀, ht₀, same.symm.trans part⟩
  · rcases (new p part).1 with eq | ⟨root, pending, found, scans⟩
    · exact absurd (stage?_lt hs) (Nat.not_lt.mpr (Nat.le_of_eq eq))
    · exact absurd (Option.some.inj (hs.symm.trans scans)) (idle root pending found)

theorem IsOver.step? (h : c.IsOver id) (step : c.step? event = some d) : d.IsOver id where
  ended := ended_step? step h.ended
  parts ht part := by
    obtain ⟨outcome, hs⟩ := ended_iff.mp h.ended
    obtain ⟨t₀, ht₀, part₀⟩ := parent_of_step? step hs (by simp) ht part
    exact ended_step? step (h.parts ht₀ part₀)

/-- A job of its own stays one. -/
theorem IsApart.step? (apart : c.IsApart id) (step : c.step? event = some d)
    (hs : c.stage? id = some s) : d.IsApart id := by
  obtain ⟨cs, ps, crew_eq, -⟩ := step?_enlists_any step
  rw [isApart_iff] at apart ⊢
  rw [crew_eq, List.getElem?_append_left]
  · exact apart
  · rw [length_crew]
    exact stage?_lt hs

/-- The job of a stopped checker is given up with all its parts. -/
theorem isOver_stopChecker (busy : c.checkers[i]? = some (.busy deadline id))
    (hs : c.stage? id = some s) : (c.stopChecker i).IsOver id := by
  have stopped : ∀ j t, c.jobs[j]? = some t → j = id ∨ t.parent = some id →
      ((c.stopChecker i).outcome? j).isSome := by
    intro j t ht given
    refine ended_iff.mpr ⟨.unit, ?_⟩
    rw [stopChecker, busy]
    show (abandon _ id).stage? j = _
    rw [stage?_abandon]
    show (c.jobs[j]?).map _ = _
    rw [ht, Option.map_some, if_pos (by simpa using given)]
  constructor
  · obtain ⟨t, ht, -⟩ := Option.map_eq_some_iff.mp hs
    exact stopped id t ht (.inl rfl)
  · intro j t ht part
    have parents : (c.stopChecker i).crew.1 = c.crew.1 := by rw [crew_stopChecker]
    have at_ : c.crew.1[j]? = some t.parent := by
      rw [← parents, crew, List.getElem?_map, ht]
      rfl
    rw [crew, List.getElem?_map] at at_
    obtain ⟨t₀, ht₀, same⟩ := Option.map_eq_some_iff.mp at_
    exact stopped j t₀ ht₀ (.inr (same.trans part))

/-- A job that waits for all its parts goes on to do so, and is over when they are, whatever happens
besides. -/
theorem Gathers.step? (h : c.Gathers id) (step : c.step? event = some d) : d.Gathers id := by
  cases h with
  | ended isOver => exact .ended (isOver.step? step)
  | @waits parts plan apart hs all =>
      have all' : ∀ {j t}, d.jobs[j]? = some t → t.parent = some id → j ∈ parts := by
        intro j t ht part
        obtain ⟨t₀, ht₀, part₀⟩ := parent_of_step? step hs (by simp) ht part
        exact all ht₀ part₀
      cases step?_fares step hs with
      | stays same => exact .waits (apart.step? step hs) same all'
      | stopped k eq given =>
          subst eq
          have eq : c.stopChecker k = d := Option.some.inj step
          subst eq
          rcases stage?_stopChecker hs k with same | ⟨-, deadline, job, t, busy, ht, own | part⟩
          · cases same.symm.trans given
          · subst own
            exact .ended (isOver_stopChecker busy hs)
          · -- it would be a part itself
            rw [IsApart, ht] at apart
            cases apart.symm.trans part
      | answered answer _ expected =>
          simp only [expects, hs] at expected
          cases expected
      | woken _ _ waits => cases waits
      | joins _ _ _ go no =>
          rcases (step?_moves step go).joins no hs with same | ⟨done, ended⟩
          · exact .waits (apart.step? step hs) same all'
          · exact .ended ⟨done, fun ht part => ended _ (all' ht part)⟩

/-- The check of all stylesheets waits for all its parts from the beginning. -/
theorem gathers_startChecks (apart : c.IsApart job) (hs : c.stage? job = some .starting)
    (fresh : ∀ t ∈ c.jobs, t.parent ≠ some job) : (c.startChecks job).Gathers job := by
  let begins : List Part := c.stylesheets.map .check
  let listed := c.enlisted job begins (.checks c.stylesheets)
  let begun := listed.startPartsFrom c.jobs.length begins
  let later : JobId → Act → Prop := fun j _ => c.jobs.length ≤ j
  have joins : listed.stage? job =
      some (.joining (List.range' c.jobs.length begins.length) (.checks c.stylesheets)) :=
    stage?_setStage_self (stage?_append _ hs) _
  have first : Moves later listed begun := by
    refine moves_startPartsFrom begins listed _ (fun k _ _ => ?_) fun k lt => stage?_enlisted hs lt
    exact ⟨Nat.le_add_right _ k, Nat.le_add_right _ k⟩
  have moves : Moves later listed (c.startChecks job) := first.trans (moves_joinParts begun job)
  have all : ∀ {j t}, (c.startChecks job).jobs[j]? = some t → t.parent = some job →
      j ∈ List.range' c.jobs.length begins.length := by
    intro j t ht part
    obtain ⟨k, lt, rfl⟩ := part_of_startParts fresh ht part
    exact mem_row.mpr ⟨k, lt, rfl⟩
  have lt : job < c.crew.1.length := by
    rw [length_crew]
    exact stage?_lt hs
  have apart' : (c.startChecks job).IsApart job := by
    rw [isApart_iff, startChecks, crew_startParts, List.getElem?_append_left lt]
    exact isApart_iff.mp apart
  rcases moves.joins (fun _ => Nat.not_le.mpr (stage?_lt hs)) joins with waits | ⟨done, ended⟩
  · exact .waits apart' waits all
  · exact .ended ⟨done, fun ht part => ended _ (all ht part)⟩

/-! ## What an event makes of a checker -/

/-- A checker that goes on by itself. -/
theorem checkers_tick? (step : c.tick? i = some d) :
    ∃ x y, c.checkers[i]? = some x ∧ d.checkers = c.checkers.set i y ∧
      Drives c (.tick i) i x y := by
  cases ticks_of_tick? step with
  | begins there le alive =>
      exact ⟨_, _, there, congrArg Prod.snd (crew_startParts _ _ _ _), .begins rfl le alive⟩
  | deserts there le unused => exact ⟨_, _, there, rfl, .deserts rfl le unused⟩
  | ends there done => exact ⟨_, _, there, rfl, .ends rfl done⟩

/-- What an event makes of all checkers. -/
theorem step?_checkers (step : c.step? event = some d) :
    (event = .startChecker ∧ d.checkers = c.checkers ++ [c.freshChecker]) ∨
      (∃ k y, (event = .tick k ∨ event = .stopChecker k) ∧ d.checkers = c.checkers.set k y ∧
        ∀ x, c.checkers[k]? = some x → Drives c event k x y) ∨
      d.checkers = c.checkers ∧ (∀ k, event ≠ .tick k) ∧ ∀ k, event ≠ .stopChecker k := by
  by_cases tick : ∃ k, event = .tick k
  · obtain ⟨k, rfl⟩ := tick
    obtain ⟨x, y, there, checkers, drives⟩ := checkers_tick? (show c.tick? k = some d from step)
    refine .inr (.inl ⟨k, y, .inl rfl, checkers, fun x' there' => ?_⟩)
    obtain rfl := Option.some.inj (there.symm.trans there')
    exact drives
  by_cases start : event = .startChecker
  · subst start
    cases step
    exact .inl ⟨rfl, rfl⟩
  by_cases stop : ∃ k, event = .stopChecker k
  · obtain ⟨k, rfl⟩ := stop
    cases step
    exact .inr (.inl ⟨k, .finished, .inr rfl, congrArg Prod.snd (crew_stopChecker c k),
      fun _ _ => .stops rfl⟩)
  · have noTick : ∀ k, event ≠ .tick k := fun k eq => tick ⟨k, eq⟩
    have noStop : ∀ k, event ≠ .stopChecker k := fun k eq => stop ⟨k, eq⟩
    obtain ⟨ps, crew_eq, -⟩ := step?_enlists step noTick start noStop
    exact .inr (.inr ⟨congrArg Prod.snd crew_eq, noTick, noStop⟩)

/-- What an event makes of a checker that is there. -/
theorem step?_checker (step : c.step? event = some d) (there : c.checkers[i]? = some x) :
    ∃ y, d.checkers[i]? = some y ∧ Drives c event i x y := by
  rcases step?_checkers step with ⟨rfl, checkers⟩ | ⟨k, y, which, checkers, drives⟩ |
    ⟨checkers, noTick, noStop⟩
  · rw [checkers]
    exact ⟨x, getElem?_append_some _ there, .spares (by simp) (by simp)⟩
  · rw [checkers]
    by_cases eq : k = i
    · subst eq
      have lt := (List.getElem?_eq_some_iff.mp there).1
      exact ⟨y, List.getElem?_set_self lt, drives x there⟩
    · refine ⟨x, (List.getElem?_set_ne eq).trans there, ?_⟩
      rcases which with rfl | rfl
      · exact .spares (by simpa using eq) (by simp)
      · exact .spares (by simp) (by simpa using eq)
  · rw [checkers]
    exact ⟨x, there, .spares (noTick i) (noStop i)⟩

/-- A checker that was not there before has just been started. -/
theorem new_checker (step : c.step? event = some d) (new : c.checkers[i]? = none)
    (there : d.checkers[i]? = some x) : event = .startChecker ∧ x = c.freshChecker := by
  rcases step?_checkers step with ⟨start, checkers⟩ | ⟨k, y, -, checkers, -⟩ | ⟨checkers, -⟩
  · rw [checkers] at there
    rcases getElem?_concat there with before | ⟨-, fresh⟩
    · cases new.symm.trans before
    · exact ⟨start, fresh.symm⟩
  · have le := List.getElem?_eq_none_iff.mp new
    have lt := (List.getElem?_eq_some_iff.mp there).1
    rw [checkers, List.length_set] at lt
    omega
  · rw [checkers] at there
    cases new.symm.trans there

/-! ## When a checker is due -/

/-- The next deadline lies within a period from now. -/
theorem nextDeadline_le (le : due ≤ c.uptime) :
    c.nextDeadline due ≤ c.uptime + c.config.checkIntervalMs := by
  rw [nextDeadline]
  split <;> omega

/-- The next deadline is no earlier than the one that was due. -/
theorem le_nextDeadline (c : Catalog) (due : Nat) : due ≤ c.nextDeadline due := by
  rw [nextDeadline]
  split <;> omega

/-- What a checker that goes on is due at is never far away. -/
theorem KeepsUp.step? (h : c.KeepsUp) (step : c.step? event = some d) : d.KeepsUp := by
  intro i y deadline there at_
  have later : c.uptime ≤ d.uptime := uptime_le_step? step
  rw [config_of_step? step]
  cases before : c.checkers[i]? with
  | none =>
      -- a fresh checker is due one period from now
      obtain ⟨-, rfl⟩ := new_checker step before there
      rw [freshChecker] at at_
      split at at_
      · cases at_
      · obtain rfl := Option.some.inj at_
        exact Nat.add_le_add_right later _
  | some x =>
      obtain ⟨y', there', drives⟩ := step?_checker step before
      obtain rfl := Option.some.inj (there.symm.trans there')
      -- an old one keeps its deadline, or gets the next one
      cases drives with
      | spares =>
          have bound := h before at_
          omega
      | begins _ le =>
          obtain rfl := Option.some.inj at_
          have bound := nextDeadline_le le
          omega
      | ends =>
          have bound := h before at_
          omega
      | deserts | stops => cases at_

/-- Along a run no timer of a checker lags behind. -/
theorem keepsUp_of_run {config : Config} {clock : Time}
    (run : Run (new config clock) events c) : c.KeepsUp := by
  refine run.invariant (p := KeepsUp) (fun _ _ _ h step => h.step? step) ?_
  intro i x deadline there
  cases there

/-! ## What ends a checker -/

/-- Without events no checker ends. -/
theorem endsAlong_nil : ¬c.EndsAlong i [] := by
  rintro ⟨early, event, late, b, eq, -⟩
  exact List.append_ne_nil_of_right_ne_nil early (List.cons_ne_nil event late) eq.symm

/-- A checker ends with the first event or later. -/
theorem endsAlong_cons (step : c.step? event = some d) :
    c.EndsAlong i (event :: events) ↔ c.Ends i event ∨ d.EndsAlong i events := by
  constructor
  · rintro ⟨early, ending, late, b, eq, run, ends⟩
    cases run with
    | nil =>
        obtain ⟨rfl, -⟩ := List.cons.inj eq
        exact .inl ends
    | cons step' run =>
        obtain ⟨rfl, rest⟩ := List.cons.inj eq
        obtain rfl := Option.some.inj (step.symm.trans step')
        exact .inr ⟨_, ending, late, b, rest, run, ends⟩
  · rintro (ends | ⟨early, ending, late, b, rfl, run, ends⟩)
    · exact ⟨[], event, events, c, rfl, .nil c, ends⟩
    · exact ⟨event :: early, ending, late, b, rfl, .cons step run, ends⟩

/-- A checker is finished after an event if it was before, or the event ends it. -/
theorem Drives.finished_iff (drives : Drives c event i x y) (there : c.checkers[i]? = some x) :
    y = .finished ↔ x = .finished ∨ c.Ends i event := by
  cases drives with
  | spares noTick noStop =>
      have no : ¬c.Ends i event := by
        -- an event that leaves it alone neither stops it nor ticks it
        rintro (_ | _)
        · exact noStop rfl
        · exact noTick rfl
      simp [no]
  | begins eq _ alive =>
      subst eq
      have no : ¬c.Ends i (.tick i) := by
        rintro (_ | ⟨-, -, unused⟩)
        cases alive.symm.trans unused
      simp [no]
  -- a tick without anyone holding the catalogue ends it
  | deserts eq le unused =>
      subst eq
      simp [Ends.deserted there le unused]
  | ends eq =>
      subst eq
      have no : ¬c.Ends i (.tick i) := by
        rintro (_ | ⟨waits, -⟩)
        cases there.symm.trans waits
      simp [no]
  | stops eq =>
      subst eq
      simp [Ends.stopped there]

/-- A checker is finished after a run when it was so before or ended along it. -/
theorem finished_iff_of_run (run : Run c events d) (there : c.checkers[i]? = some x) :
    d.checkers[i]? = some .finished ↔ x = .finished ∨ c.EndsAlong i events := by
  induction run generalizing x with
  | nil c => simp [there, endsAlong_nil]
  | cons step _ ih =>
      obtain ⟨y, later, drives⟩ := step?_checker step there
      rw [ih later, endsAlong_cons step, drives.finished_iff there, or_assoc]

/-- A checker that is started on the way is finished from the beginning or ended later. -/
theorem finished_iff_of_new (run : Run c events d) (new : c.checkers[i]? = none)
    (there : d.checkers[i]? = some x) :
    x = .finished ↔ c.config.checkIntervalMs = 0 ∨ c.EndsAlong i events := by
  induction run with
  | nil => cases new.symm.trans there
  | @cons c b d event events step run ih =>
      have no : ¬c.Ends i event := by
        rintro (at_ | ⟨at_, -⟩) <;> cases new.symm.trans at_
      rw [endsAlong_cons step, or_iff_right no, ← config_of_step? step]
      cases before : b.checkers[i]? with
      | none => exact ih before there
      | some y =>
          obtain ⟨-, rfl⟩ := new_checker step new before
          have fresh : c.freshChecker = .finished ↔ b.config.checkIntervalMs = 0 := by
            rw [freshChecker, config_of_step? step]
            split <;> simp_all
          rw [← fresh, ← finished_iff_of_run run before, there]
          simp

/-! ## Checks one after the other -/

/-- A round starts at a tick that was due, with the check as a new job. -/
theorem round?_eq_some (step : c.step? event = some d) (h : round? i c d = some r) :
    event = .tick i ∧ c.checkers[i]? = some (.waiting r.due) ∧ r.due ≤ r.start ∧
      c.isAlive = true ∧ r.before = c ∧ r.job = c.jobs.length ∧
      d.checkers[i]? = some (.busy (c.nextDeadline r.due) r.job) := by
  rw [round?] at h
  split at h
  · next due deadline job waits busy =>
      cases h
      obtain ⟨y, there, drives⟩ := step?_checker step waits
      obtain rfl := Option.some.inj (busy.symm.trans there)
      cases drives with
      | begins eq le alive => exact ⟨eq, waits, le, alive, rfl, rfl, busy⟩
  · cases h

/-- The job of a new check is that of its checker alone. -/
theorem gathers_of_round (supervised : Supervised c) (step : c.step? event = some d)
    (h : round? i c d = some r) : d.Gathers r.job := by
  obtain ⟨rfl, waits, -, alive, rfl, eq, -⟩ := round?_eq_some step h
  cases ticks_of_tick? step with
  | @begins due =>
      rw [eq]
      have apart : (r.before.readied i due).IsApart r.before.jobs.length := by
        simp [IsApart, readied, addJob, setChecker]
      exact gathers_startChecks apart (stage?_readied _ i due) (supervised.parent_ne_length rfl)
  | deserts _ _ unused => cases alive.symm.trans unused
  | ends busy => cases waits.symm.trans busy

/-- A check leads to the deadline that its checker has after it. -/
theorem leadsTo_nextDeadline (le : r.due ≤ r.start) :
    r.LeadsTo r.before.config.checkIntervalMs (r.before.nextDeadline r.due) := by
  have le : r.due ≤ r.before.uptime := le
  constructor
  · rw [nextDeadline]
    split <;> omega
  · rintro (onTime | late)
    · rw [nextDeadline, onTime]
      split <;> simp_all [Round.start]
    · rw [nextDeadline]
      simp only [Round.start] at late ⊢
      rw [if_pos late]

/-- A checker follows the round that it has started. -/
theorem Follows.of_round (supervised : Supervised c) (step : c.step? event = some d)
    (h : round? i c d = some r) : Follows c.config.checkIntervalMs r i d := by
  obtain ⟨-, -, le, -, rfl, -, busy⟩ := round?_eq_some step h
  refine ⟨gathers_of_round supervised step h, _, busy, ?_⟩
  intro deadline at_
  obtain rfl := Option.some.inj at_
  exact ⟨leadsTo_nextDeadline le, .inr rfl⟩

/-- A round leads to every later deadline too. -/
theorem Round.LeadsTo.mono (h : r.LeadsTo period due) (le : due ≤ deadline) :
    r.LeadsTo period deadline where
  due := Nat.le_trans h.due le
  start counted := Nat.le_trans (h.start counted) le

/-- A job that waits for its parts is over when it is done. -/
theorem Gathers.isOver (h : c.Gathers id) (done : (c.jobs[id]?).all Job.isDone = true) :
    c.IsOver id := by
  cases h with
  | ended isOver => exact isOver
  | waits _ hs =>
      obtain ⟨t, ht, stage⟩ := Option.map_eq_some_iff.mp hs
      rw [ht] at done
      simp [Job.isDone, Job.outcome?, stage] at done

/-- The next check of a checker is not due too early, and does not begin before the last is over. -/
theorem Follows.step? (h : Follows period r i c) (step : c.step? event = some d) :
    Follows period r i d := by
  obtain ⟨gathers, x, there, next⟩ := h
  obtain ⟨y, there', drives⟩ := step?_checker step there
  refine ⟨gathers.step? step, y, there', ?_⟩
  intro deadline at_
  cases drives with
  | spares =>
      obtain ⟨leads, now⟩ := next deadline at_
      exact ⟨leads, now.imp_left fun isOver => isOver.step? step⟩
  | @begins due =>
      obtain ⟨leads, isOver | busy⟩ := next due rfl
      · obtain rfl := Option.some.inj at_
        exact ⟨leads.mono (le_nextDeadline c due), .inl (isOver.step? step)⟩
      · cases busy
  | ends _ done =>
      obtain ⟨leads, isOver | busy⟩ := next deadline at_
      · exact ⟨leads, .inl (isOver.step? step)⟩
      · cases busy
        exact ⟨leads, .inl ((gathers.isOver done).step? step)⟩
  | deserts | stops => cases at_

/-- The next check of a checker follows the last one. -/
theorem Follows.precedes (h : Follows period r i c) (step : c.step? event = some d)
    (next : round? i c d = some r') : r.Precedes period r' := by
  obtain ⟨-, waits, le, -, rfl, -, -⟩ := round?_eq_some step next
  obtain ⟨-, x, there, follows⟩ := h
  obtain rfl := Option.some.inj (waits.symm.trans there)
  obtain ⟨leads, isOver | busy⟩ := follows r'.due rfl
  · have apart : r.IsCounted → r.start + period ≤ r'.start := fun counted =>
      Nat.le_trans (leads.start counted) le
    have near : r.start + period ≤ r'.start + lateness := by
      by_cases counted : r.IsCounted
      · exact Nat.le_add_right_of_le (apart counted)
      · have small : r.start ≤ r.due + lateness := by
          by_contra late
          exact counted (.inr (Nat.lt_of_not_le late))
        have due := leads.due
        omega
    exact ⟨isOver, leads.due, near, apart⟩
  · cases busy

/-- The rounds of a run begin with that of its first event. -/
theorem rounds_cons (step : c.step? event = some d) :
    rounds i c (event :: events) = (round? i c d).toList ++ rounds i d events := by
  rw [rounds, step]

/-- All later checks of a checker follow one that it has begun. -/
theorem Follows.precedes_rounds (run : Run c events d) (h : Follows period r i c) :
    ∀ r' ∈ rounds i c events, r.Precedes period r' := by
  induction run with
  | nil => simp [rounds]
  | cons step _ ih =>
      intro r' mem
      rw [rounds_cons step, List.mem_append, Option.mem_toList] at mem
      rcases mem with now | later
      · exact h.precedes step now
      · exact ih (h.step? step) r' later

/-- The checks of a checker follow each other. -/
theorem pairwise_rounds (run : Run c events d) (sound : Sound c) (supervised : Supervised c) :
    (rounds i c events).Pairwise (Round.Precedes c.config.checkIntervalMs) := by
  induction run with
  | nil => exact .nil
  | @cons c b d event events step run ih =>
      have rest := ih (supervised.sound_step? sound step) (supervised.step? sound step)
      rw [config_of_step? step] at rest
      rw [rounds_cons step]
      cases begun : round? i c b with
      | none => exact rest
      | some r =>
          have follows := Follows.of_round supervised step begun
          exact .cons (follows.precedes_rounds run) rest

/-- No check begins before it is due. -/
theorem due_le_start (run : Run c events d) : ∀ r ∈ rounds i c events, r.due ≤ r.start := by
  induction run with
  | nil => simp [rounds]
  | cons step _ ih =>
      intro r mem
      rw [rounds_cons step, List.mem_append, Option.mem_toList] at mem
      rcases mem with now | later
      · obtain ⟨-, -, le, -⟩ := round?_eq_some step now
        exact le
      · exact ih r later

/-! ## Runs -/

/-- A checker has finished only if its period has no length, or something ended it: it was stopped,
or was due when the catalogue was out of use. As long as it goes on, it is due within a period. It
begins no check before that is due, and none before the last is over with all its parts; and two
checks are a period apart if the first began just when it was due or so late that the next was put
off. -/
theorem checker_keeps_pace {config : Config} {clock : Time} (run : Run (new config clock) events c)
    (there : c.checkers[i]? = some x) :
    (x = .finished ↔ config.checkIntervalMs = 0 ∨ (new config clock).EndsAlong i events) ∧
      c.KeepsUp ∧
      (∀ r ∈ rounds i (new config clock) events, r.due ≤ r.start) ∧
      (rounds i (new config clock) events).Pairwise (Round.Precedes config.checkIntervalMs) := by
  have none_yet : (new config clock).checkers[i]? = none := rfl
  refine ⟨finished_iff_of_new run none_yet there, keepsUp_of_run run, due_le_start run, ?_⟩
  exact pairwise_rounds run (sound_new config clock) (supervised_new config clock)

/-- A check takes longer than a period, and then fails. -/
def slowCheck : List Event :=
  [.call (.create .css ⟨"/a.css"⟩ false)] ++ fetchAnswers 0 ⟨10, 4⟩ ".a{}" [.style ".a"] ++
    [.startChecker, .pass 1000, .tick 0, .pass 1500,
      .answer 2 (.stat (.error (.readFailed ⟨"/a.css"⟩ ""))), .tick 0, .tick 0]

theorem slowCheck_keeps_pace : ∃ c r s, Run (new { checkIntervalMs := 1000 } 20) slowCheck c ∧
    rounds 0 (new { checkIntervalMs := 1000 } 20) slowCheck = [r, s] ∧ r.start = 1000 ∧
      s.start = 2500 ∧ r.Precedes 1000 s ∧
      ¬(new { checkIntervalMs := 1000 } 20).EndsAlong 0 slowCheck := by
  let start : Catalog := new { checkIntervalMs := 1000 } 20
  have reached : (start.replay? slowCheck).map (fun c => c.checkers.map Checker.deadline?) =
      some [some 3500] := by decide +kernel
  have starts : (rounds 0 start slowCheck).map Round.start = [1000, 2500] := by decide +kernel
  obtain ⟨c, hc, deadlines⟩ := Option.map_eq_some_iff.mp reached
  obtain ⟨x, one, due⟩ := List.map_eq_singleton_iff.mp deadlines
  obtain ⟨r, rest, two, first, tail⟩ := List.map_eq_cons_iff.mp starts
  obtain ⟨s, rfl, second⟩ := List.map_eq_singleton_iff.mp tail
  have run : Run start slowCheck c := run_iff_replay?.mpr hc
  have there : c.checkers[0]? = some x := by rw [one]; rfl
  obtain ⟨finished_iff, -, -, apart⟩ := checker_keeps_pace run there
  rw [two] at apart
  have follows := (List.pairwise_cons.mp apart).1 s (List.mem_singleton_self s)
  refine ⟨c, r, s, run, two, first, second, follows, ?_⟩
  intro ended
  rw [finished_iff.mpr (.inr ended)] at due
  cases due

/-- Lateness of up to `lateness` is made up for. -/
example : (rounds 0 (new { checkIntervalMs := 1000 } 20)
    [.startChecker, .pass 1003, .tick 0, .tick 0, .pass 997, .tick 0]).map Round.start =
      [1003, 2000] := by decide +kernel

/-- A checker may be over although nobody stopped it and the catalogue is in use: one whose period
has no length. -/
theorem checker_may_end_unasked :
    ¬∀ (config : Config) (clock : Time) (events : List Event) (c : Catalog) (i : Nat),
      Run (new config clock) events c → c.held = true → (∀ k, .stopChecker k ∉ events) →
        c.checkers[i]? ≠ some .finished := by
  intro law
  let start : Catalog := new { checkIntervalMs := 0 } 20
  have step : start.step? .startChecker = some start.startChecker := rfl
  have unstopped : ∀ k, Event.stopChecker k ∉ [Event.startChecker] := by simp
  exact law { checkIntervalMs := 0 } 20 [.startChecker] _ 0 (.cons step (.nil _)) rfl unstopped rfl

end Catalog

end SelectorCatalog
