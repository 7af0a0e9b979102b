import SelectorCatalog.Proofs.Catalog.Check
import SelectorCatalog.Proofs.Catalog.Origin

/-!
# Checkers

A checker that is stopped gives up the job that it is busy with and all parts of that job, at
whatever stage they are. What is lost then follows from what these jobs can be at: they check
stylesheets and fetch them anew (`Job.Stage.IsCheck`), and no other job is ever a part of theirs.

* `step?_enlists`: what a new job is a part of.
* `Supervised`: what a busy checker gives up when it is stopped. Every event keeps it.
* `sound_of_run`: what holds of a catalogue holds after runs in which checkers are stopped, too.
-/

namespace SelectorCatalog

/-- Whether an entry is there and is that of a stylesheet. -/
def IsStylesheet (es : List Entry) (id : EntryId) : Prop :=
  ∃ e : Entry, es[id]? = some e ∧ e.kind = .css

/-- A stylesheet stays one when entries take turns. -/
theorem IsStylesheet.turns {es ds : List Entry} {entry : EntryId} (h : IsStylesheet es entry)
    (turns : Entry.Turns es ds) : IsStylesheet ds entry := by
  obtain ⟨e, he, css⟩ := h
  obtain ⟨d, hd, turn⟩ := turns.2 entry e he
  exact ⟨d, hd, turn.file.1.trans css⟩

/-- It stays one with further entries. -/
theorem IsStylesheet.append {es : List Entry} {entry : EntryId} (h : IsStylesheet es entry)
    (more : List Entry) : IsStylesheet (es ++ more) entry := by
  obtain ⟨e, he, css⟩ := h
  exact ⟨e, Catalog.getElem?_append_some _ he, css⟩

/-- What a job is at that checks stylesheets: it waits for its parts, or it is such a part. -/
inductive Job.Stage.IsCheck (es : List Entry) : Job.Stage → Prop where
  | join (parts : List JobId) (plan : Job.Plan) : IsCheck es (.joining parts plan)
  | ask {entry : EntryId} : IsStylesheet es entry → IsCheck es (.checking entry)
  | fetch {f : Fetch} : IsStylesheet es f.entry → IsCheck es (.fetching f .update)
  | done (outcome : Job.Outcome) : IsCheck es (.done outcome)

namespace Catalog

open Job (Outcome Purpose Plan Stage Leads Act)

/-- What each job is a part of, and the checkers. -/
def crew (c : Catalog) : List (Option JobId) × List Checker :=
  (c.jobs.map (·.parent), c.checkers)

/-- The checkers stay as they are, the jobs stay parts of what they are parts of, and every new job
is a part of one that `of` allows, if of any. -/
def Enlists (of : JobId → Prop) (c d : Catalog) : Prop :=
  ∃ ps, d.crew = (c.crew.1 ++ ps, c.checkers) ∧ ∀ p, some p ∈ ps → of p ∧ p < d.jobs.length

/-- A job that checks, with all its parts. -/
structure Supervises (c : Catalog) (id : JobId) : Prop where
  lt : id < c.jobs.length
  checks : ∀ {j : JobId} {t : Job}, c.jobs[j]? = some t → j = id ∨ t.parent = some id →
    t.stage.IsCheck c.entries

/-- Checkers are busy with checks alone. -/
structure Supervised (c : Catalog) : Prop where
  known : ∀ {j p : JobId} {t : Job}, c.jobs[j]? = some t → t.parent = some p → p < c.jobs.length
  busy : ∀ {i deadline : Nat} {id : JobId}, c.checkers[i]? = some (.busy deadline id) →
    c.Supervises id

variable {may : JobId → Act → Prop} {of : JobId → Prop} {event : Event} {c d e : Catalog}
  {id j : JobId} {s : Stage} {es : List Entry}

/-! ## Who is a part of what -/

@[simp] theorem crew_setStage (c : Catalog) (id : JobId) (s : Stage) :
    (c.setStage id s).crew = c.crew := by
  have same : (c.setStage id s).jobs.map (·.parent) = c.jobs.map (·.parent) := by
    apply List.ext_getElem?
    intro j
    rw [List.getElem?_map, List.getElem?_map, setStage, List.getElem?_modify]
    cases c.jobs[j]? with
    | none => rfl
    | some t =>
        show some (if id = j then { t with stage := s } else t).parent = some t.parent
        split <;> rfl
  exact Prod.ext same rfl

@[simp] theorem crew_notify (c : Catalog) (ns : List Notice) : (c.notify ns).crew = c.crew := rfl

@[simp] theorem crew_setEntry (c : Catalog) (entry : EntryId) (e : Entry) :
    (c.setEntry entry e).crew = c.crew := rfl

@[simp] theorem crew_disposeEntry (c : Catalog) (entry : EntryId) :
    (c.disposeEntry entry).crew = c.crew := rfl

@[simp] theorem crew_fill (c : Catalog) (slot : SlotId) (entry : EntryId) :
    (c.fill slot entry).crew = c.crew := rfl

@[simp] theorem crew_remove (c : Catalog) (path : Path) : (c.remove path).1.crew = c.crew := by
  obtain ⟨rs, es, eq, -⟩ := remove_spec c path
  rw [eq]
  rfl

@[simp] theorem crew_reset (c : Catalog) : c.reset.crew = c.crew := by
  obtain ⟨es, he, -⟩ := reset_spec c
  rw [he]
  rfl

@[simp] theorem crew_joinParts (c : Catalog) (id : JobId) : (c.joinParts id).crew = c.crew := by
  obtain eq | ⟨_, _, _, rs, es, ns, -, -, eq⟩ := joinParts_spec c id
  · rw [eq]
  · rw [eq, crew_setStage]
    rfl

@[simp] theorem crew_complete (c : Catalog) (id : JobId) (outcome : Outcome) :
    (c.complete id outcome).crew = c.crew := by
  rw [complete]
  split
  · rw [crew_joinParts, crew_setStage]
  · exact crew_setStage c id _

@[simp] theorem crew_afterFetch (c : Catalog) (id : JobId) (entry : EntryId)
    (result : Except Error Unit) (purpose : Purpose) :
    (c.afterFetch id entry result purpose).crew = c.crew := by
  cases purpose with
  | construct slot =>
      simp only [afterFetch, afterConstruction]
      split <;> simp
  | refresh | saved | direct => simp [afterFetch]
  | update | opened => cases result <;> simp [afterFetch]

@[simp] theorem crew_startFetch (c : Catalog) (id : JobId) (entry : EntryId) (purpose : Purpose) :
    (c.startFetch id entry purpose).crew = c.crew := by
  rw [startFetch]
  split
  · rfl
  · split <;> simp

@[simp] theorem crew_resumeFetch (c : Catalog) (id : JobId) (f : Fetch) (purpose : Purpose)
    (a : Answer) : (c.resumeFetch id f purpose a).crew = c.crew := by
  rw [resumeFetch]
  split
  · rfl
  · dsimp only
    split <;> simp

@[simp] theorem crew_share (c : Catalog) (id : JobId) (slot : SlotId) (entry : EntryId)
    (path : Path)
    (byPath : Bool) : (c.share id slot entry path byPath).crew = c.crew := by
  rw [share]
  split
  · simp
  · split <;> simp

@[simp] theorem crew_createAt (c : Catalog) (id : JobId) (kind : EntryKind) (path : Path)
    (byPath : Bool) : (c.createAt id kind path byPath).crew = c.crew := by
  cases found : c.find? path with
  | none =>
      rw [createAt_of_none found]
      exact crew_setStage c id _
  | some found' =>
      rw [createAt_of_some found]
      split
      · cases found'.2.entry <;> simp
      · simp

@[simp] theorem crew_startCreate (c : Catalog) (id : JobId) (kind : EntryKind) (path : Path)
    (byPath : Bool) : (c.startCreate id kind path byPath).crew = c.crew := by
  rw [startCreate]
  split <;> simp

@[simp] theorem crew_startCheck (c : Catalog) (id : JobId) (entry : EntryId) :
    (c.startCheck id entry).crew = c.crew := by
  rw [startCheck]
  split <;> simp

@[simp] theorem crew_afterStat (c : Catalog) (id : JobId) (entry : EntryId)
    (result : Except Error FileStat) : (c.afterStat id entry result).crew = c.crew := by
  cases result with
  | error error =>
      simp only [afterStat]
      split <;> simp
  | ok stat =>
      simp only [afterStat]
      split <;> simp

@[simp] theorem crew_startPartsFrom (parts : List Part) (c : Catalog) (first : JobId) :
    (c.startPartsFrom first parts).crew = c.crew := by
  induction parts generalizing c first with
  | nil => rfl
  | cons part rest ih =>
      rw [startPartsFrom, ih]
      cases part <;> simp [startPart]

/-- The crew has a place for each job. -/
theorem length_crew (c : Catalog) : c.crew.1.length = c.jobs.length :=
  List.length_map _

/-- The parts of a job are parts of that job. -/
theorem crew_startParts (c : Catalog) (id : JobId) (parts : List Part) (plan : Plan) :
    (c.startParts id parts plan).crew =
      (c.crew.1 ++ List.replicate parts.length (some id), c.checkers) := by
  rw [startParts_eq, crew_joinParts, crew_startPartsFrom, enlisted, crew_setStage]
  simp [crew]

/-- The parts that a job starts are the next jobs, if it has had none before. -/
theorem part_of_startParts {parts : List Part} {plan : Plan}
    (fresh : ∀ t ∈ c.jobs, t.parent ≠ some id) {t : Job}
    (ht : (c.startParts id parts plan).jobs[j]? = some t) (part : t.parent = some id) :
    ∃ i < parts.length, j = c.jobs.length + i := by
  have at_ : (c.startParts id parts plan).crew.1[j]? = some (some id) := by
    rw [crew, List.getElem?_map, ht, Option.map_some, part]
  rw [crew_startParts] at at_
  by_cases old : j < c.jobs.length
  · rw [List.getElem?_append_left (by rwa [length_crew]), crew, List.getElem?_map] at at_
    obtain ⟨t₀, ht₀, same⟩ := Option.map_eq_some_iff.mp at_
    exact absurd same (fresh t₀ (List.mem_of_getElem? ht₀))
  · obtain ⟨i, rfl⟩ := Nat.exists_eq_add_of_le (Nat.le_of_not_lt old)
    refine ⟨i, ?_, rfl⟩
    rw [List.getElem?_append_right (by rw [length_crew]; exact Nat.le_add_right _ i)] at at_
    simpa [length_crew] using (List.getElem?_eq_some_iff.mp at_).1

/-- The same, for a job that is known to have had no parts. -/
theorem exists_part_of_parent {parts : List Part} {plan : Plan}
    (childless : ∀ j : JobId, (c.jobs[j]?).bind (·.parent) ≠ some id)
    (part : ((c.startParts id parts plan).jobs[j]?).bind (·.parent) = some id) :
    ∃ i < parts.length, j = c.jobs.length + i := by
  obtain ⟨t, ht, part⟩ := Option.bind_eq_some_iff.mp part
  refine part_of_startParts (fun t mem part => ?_) ht part
  obtain ⟨j, ht⟩ := List.getElem?_of_mem mem
  exact childless j (by rw [ht]; exact part)

/-- The parts of a job have numbers in a row. -/
theorem mem_row {first n j : Nat} : j ∈ List.range' first n ↔ ∃ k < n, j = first + k := by
  simp only [List.mem_range', Nat.one_mul]

/-- With the same crew nothing is enlisted. -/
theorem Enlists.of_crew (same : d.crew = c.crew) : Enlists of c d := by
  refine ⟨[], ?_, by simp⟩
  rw [same, List.append_nil]
  rfl

/-- What enlists for some enlists for more. -/
theorem Enlists.mono {of' : JobId → Prop} (h : Enlists of c d) (le : ∀ p, of p → of' p) :
    Enlists of' c d := by
  obtain ⟨ps, crew, new⟩ := h
  exact ⟨ps, crew, fun p mem => ⟨le p (new p mem).1, (new p mem).2⟩⟩

/-- Jobs are never taken away. -/
theorem Enlists.length_le (h : Enlists of c d) : c.jobs.length ≤ d.jobs.length := by
  obtain ⟨ps, crew, -⟩ := h
  rw [← length_crew, ← length_crew, crew, List.length_append]
  exact Nat.le_add_right _ _

/-- A job is a part of the same job as before, or it is new. -/
theorem Enlists.parent (h : Enlists of c d) {t : Job} (ht : d.jobs[j]? = some t) :
    (∃ t₀, c.jobs[j]? = some t₀ ∧ t.parent = t₀.parent) ∨
      c.jobs.length ≤ j ∧ ∀ p, t.parent = some p → of p ∧ p < d.jobs.length := by
  obtain ⟨ps, crew_eq, new⟩ := h
  have at_ : (c.crew.1 ++ ps)[j]? = some t.parent := by
    have parents : d.crew.1 = c.crew.1 ++ ps := congrArg Prod.fst crew_eq
    rw [← parents, crew, List.getElem?_map, ht]
    rfl
  by_cases old : j < c.jobs.length
  · left
    rw [List.getElem?_append_left (by rw [length_crew]; exact old), crew, List.getElem?_map] at at_
    obtain ⟨t₀, ht₀, same⟩ := Option.map_eq_some_iff.mp at_
    exact ⟨t₀, ht₀, same.symm⟩
  · refine .inr ⟨Nat.le_of_not_lt old, fun p hp => new p ?_⟩
    rw [List.getElem?_append_right (by rw [length_crew]; exact Nat.le_of_not_lt old), hp] at at_
    exact List.mem_of_getElem? at_

/-- A job starts parts of its own. -/
theorem enlists_startParts (hs : c.stage? id = some s) (own : of id) (parts : List Part)
    (plan : Plan) : Enlists of c (c.startParts id parts plan) := by
  refine ⟨List.replicate parts.length (some id), crew_startParts c id parts plan, fun p mem => ?_⟩
  obtain rfl := Option.some.inj (List.eq_of_mem_replicate mem)
  refine ⟨own, ?_⟩
  rw [← length_crew, crew_startParts, List.length_append, length_crew]
  exact Nat.lt_add_right _ (stage?_lt hs)

theorem crew_scan (c : Catalog) (id : JobId) (root : Path) (found pending : List Path) :
    ∃ n, (c.scan id root found pending).crew =
      (c.crew.1 ++ List.replicate n (some id), c.checkers) := by
  cases pending with
  | nil => exact ⟨_, crew_startParts c id _ _⟩
  | cons dir pending => exact ⟨0, (crew_setStage c id _).trans (by simp [crew])⟩

/-- Who is answered starts parts of its own at most, and only if it scans. -/
theorem crew_resume (c : Catalog) (id : JobId) (answer : Answer) :
    ∃ n, (c.resume id answer).crew = (c.crew.1 ++ List.replicate n (some id), c.checkers) ∧
      (n = 0 ∨ c.IsScanning id) := by
  have none : ∀ {d : Catalog}, d.crew = c.crew →
      ∃ n, d.crew = (c.crew.1 ++ List.replicate n (some id), c.checkers) ∧
        (n = 0 ∨ c.IsScanning id) :=
    fun same => ⟨0, same.trans (by simp [crew]), .inl rfl⟩
  unfold resume
  split
  · next kind path result hs => cases result <;> exact none (by simp)
  · exact none (by simp)
  · exact none (by simp)
  · next root dir pending found result hs =>
      have own : c.IsScanning id := ⟨root, dir :: pending, found, hs⟩
      cases result with
      | error error =>
          obtain ⟨n, crew_eq⟩ := crew_scan (c.notify [.listFailed dir error]) id root found pending
          exact ⟨n, crew_eq, .inr own⟩
      | ok members =>
          obtain ⟨n, crew_eq⟩ := crew_scan c id root _ _
          exact ⟨n, crew_eq, .inr own⟩
  · exact none rfl

/-- An answer enlists parts of a scan alone. -/
theorem enlists_resume (answer : Answer) : Enlists c.IsScanning c (c.resume id answer) := by
  obtain ⟨n, crew_eq, scans⟩ := crew_resume c id answer
  refine ⟨List.replicate n (some id), crew_eq, fun p mem => ?_⟩
  obtain ⟨ne, same⟩ := List.mem_replicate.mp mem
  obtain rfl := Option.some.inj same
  have own : c.IsScanning p := scans.resolve_left ne
  have ⟨_, _, _, hs⟩ := own
  refine ⟨own, ?_⟩
  rw [← length_crew, crew_eq, List.length_append, length_crew]
  exact Nat.lt_add_right _ (stage?_lt hs)

/-- A job is added that is a part of no other, and goes on. -/
theorem Enlists.of_added {t : Job} (alone : t.parent = none) (h : Enlists of (c.addJob t).1 d) :
    Enlists of c d := by
  obtain ⟨ps, crew_eq, new⟩ := h
  refine ⟨none :: ps, ?_, fun p mem => new p ?_⟩
  · rw [crew_eq, crew, crew, addJob, List.map_append, List.append_assoc, ← alone]
    rfl
  · simpa using mem

/-- A call begins a job, whose parts are its own. -/
theorem crew_start (c : Catalog) (call : Call) :
    ∃ n, (c.start call).1.crew =
      (c.crew.1 ++ none :: List.replicate n (some c.jobs.length), c.checkers) := by
  let added := (c.addJob { stage := .starting, ofCatalog := call.ofCatalog }).1
  have crew_added : added.crew = (c.crew.1 ++ [none], c.checkers) := by simp [added, crew, addJob]
  -- a call adds its own job and then its parts
  have starts : ∀ {d : Catalog} {n : Nat},
      d.crew = (added.crew.1 ++ List.replicate n (some c.jobs.length), added.checkers) →
      ∃ n, d.crew = (c.crew.1 ++ none :: List.replicate n (some c.jobs.length), c.checkers) :=
    fun {d n} eq => ⟨n, by rw [eq, crew_added]; simp; rfl⟩
  have alone : ∀ {d : Catalog}, d.crew = added.crew →
      ∃ n, d.crew = (c.crew.1 ++ none :: List.replicate n (some c.jobs.length), c.checkers) :=
    fun same => ⟨0, same.trans crew_added⟩
  cases call with
  | create kind path byPath => exact alone (crew_startCreate added _ kind path byPath)
  | saved path =>
      dsimp only [start]
      split
      · exact alone (crew_startFetch added _ _ _)
      · exact alone (crew_complete added _ _)
  | checkAll => exact starts (crew_startParts added _ _ _)
  | change change =>
      show ∃ n, (added.startChange c.jobs.length change).crew = _
      rw [startChange]
      split
      · exact alone (crew_complete added _ _)
      · exact starts (crew_startParts (added.notify _) _ _ _)
  -- the scan has no parts yet
  | openProject root =>
      have scans : ({ added.reset with root := some root } : Catalog).crew = added.crew :=
        crew_reset added
      exact alone ((crew_setStage _ _ _).trans scans)
  | fetch entry => exact alone (crew_startFetch added _ _ _)
  | check entry => exact alone (crew_startCheck added _ _)
  | openStandalone path =>
      exact alone (crew_startFetch (added.addStandalone .css path).1 _ _ _)

/-- The parts of a new job are its own. -/
theorem enlists_start (c : Catalog) (call : Call) :
    Enlists (c.jobs.length = ·) c (c.start call).1 := by
  obtain ⟨n, crew_eq⟩ := crew_start c call
  refine ⟨none :: List.replicate n (some c.jobs.length), crew_eq, fun p mem => ?_⟩
  have part : some p ∈ List.replicate n (some c.jobs.length) :=
    (List.mem_cons.mp mem).resolve_left nofun
  obtain rfl := Option.some.inj (List.eq_of_mem_replicate part)
  refine ⟨rfl, ?_⟩
  rw [← length_crew (c.start call).1, crew_eq, List.length_append, length_crew]
  exact Nat.lt_add_of_pos_right (Nat.zero_lt_succ _)

theorem enlists_listen? {i : Nat} (h : c.listen? i = some d) : Enlists (c.jobs.length = ·) c d := by
  obtain ⟨l, e, event, seen, -, -, -, -, rfl⟩ := listen?_some h
  cases event with
  | fetchComplete links =>
      simp only [hear]
      split
      · refine Enlists.of_added (t := { stage := .starting }) rfl ?_
        exact enlists_startParts (c := (c.addJob { stage := .starting }).1.setListener i _)
          (stage?_addJob c true) rfl _ _
      · exact .of_crew rfl
  | disposed =>
      simp only [hear]
      split <;> exact .of_crew rfl

/-- What may be new after an event that is none of a checker. -/
theorem step?_enlists (h : c.step? event = some d) (tick : ∀ i, event ≠ .tick i)
    (start : event ≠ .startChecker) (stop : ∀ i, event ≠ .stopChecker i) :
    Enlists (fun p => c.jobs.length = p ∨ c.IsScanning p) c d := by
  cases event with
  | call call =>
      cases h
      -- the parts of a call belong to its job
      exact (enlists_start c call).mono fun _ => .inl
  | answer job a =>
      simp only [step?] at h
      split at h
      · cases h
        -- an answer enlists parts only for a scan that has come to its end
        exact (enlists_resume a).mono fun _ => .inr
      · cases h
  | wake job =>
      simp only [step?, wake?] at h
      split at h
      · obtain ⟨entry, -, rfl⟩ := Option.map_eq_some_iff.mp h
        exact .of_crew (crew_share c job _ entry _ _)
      · cases h
  | listen i => exact (enlists_listen? h).mono fun _ => .inl
  | remove path =>
      cases h
      exact .of_crew (crew_remove c path)
  | reset =>
      cases h
      exact .of_crew (crew_reset c)
  | disposeEntry | clearEntry | addStandalone | drop | pass =>
      cases h
      exact .of_crew rfl
  | clock time =>
      simp only [step?] at h
      split at h
      · cases h
        exact .of_crew rfl
      · cases h
  | tick i => exact absurd rfl (tick i)
  | startChecker => exact absurd rfl start
  | stopChecker i => exact absurd rfl (stop i)

/-! ## What a check is at -/

/-- An entry stays that of a stylesheet. -/
theorem Move.isStylesheet (h : Move may c d) {entry : EntryId}
    (css : IsStylesheet c.entries entry) : IsStylesheet d.entries entry := by
  cases h with
  | ambient _ entries => rwa [entries]
  | entries turns => exact css.turns turns
  | evict _ disposals => exact css.turns disposals.turns
  | standalone => exact css.append _
  | claim => exact css.append _
  | @conclude _ f =>
      rw [concluded_entries]
      split
      · exact css
      · exact css.turns (Entry.Disposals.modify c.entries f.entry).turns
  | enlist | stage | join | hear | leave | retire => exact css

/-- A stylesheet stays one under moves. -/
theorem Moves.isStylesheet (h : Moves may c d) {entry : EntryId}
    (css : IsStylesheet c.entries entry) : IsStylesheet d.entries entry :=
  h.keep (fun _ _ css move => move.isStylesheet css) css

/-- A stage of a check stays one as long as stylesheets do. -/
theorem isCheck_mono {ds : List Entry} (h : s.IsCheck es)
    (keeps : ∀ entry, IsStylesheet es entry → IsStylesheet ds entry) : s.IsCheck ds := by
  cases h with
  | join parts plan => exact .join parts plan
  | ask css => exact .ask (keeps _ css)
  | fetch css => exact .fetch (keeps _ css)
  | done outcome => exact .done outcome

/-- A check that has no leave stays where it is, unless it waits for its parts and is over now. -/
theorem Move.isCheck (h : Move may c d) (no : ∀ a, ¬may j a) (hs : c.stage? j = some s)
    (check : s.IsCheck c.entries) : ∃ t, d.stage? j = some t ∧ t.IsCheck d.entries := by
  have check' : s.IsCheck d.entries := isCheck_mono check fun _ => h.isStylesheet
  -- a job that joins has no leave to do anything but end
  by_cases joining : ∃ parts plan, s = .joining parts plan
  · obtain ⟨parts, plan, rfl⟩ := joining
    cases h with
    | @join k _ _ outcome at_ =>
        by_cases eq : k = j
        · subst eq
          exact ⟨_, stage?_setStage_self at_ _, .done outcome⟩
        · exact ⟨_, by rw [stage?_setStage, if_neg eq, hs], check'⟩
    | ambient _ _ _ _ jobs => exact ⟨_, by rw [stage?_congr jobs, hs], check'⟩
    | enlist ts => exact ⟨_, stage?_append ts hs, check'⟩
    -- every other move needs a leave that this job has not
    | @stage k _ t leave =>
        refine ⟨_, ?_, check'⟩
        rw [stage?_setStage, if_neg, hs]
        rintro rfl
        exact no _ leave
    | @claim k _ _ _ leave =>
        refine ⟨_, ?_, check'⟩
        rw [stage?_opened, if_neg, hs]
        rintro rfl
        exact no _ leave
    | @conclude k f slot leave =>
        refine ⟨_, ?_, check'⟩
        rw [stage?_concluded, if_neg, hs]
        rintro rfl
        exact no _ leave
    | entries | standalone | evict | hear | leave | retire => exact ⟨_, hs, check'⟩
  · exact ⟨s, h.stage?_eq no hs fun parts plan eq => joining ⟨parts, plan, eq⟩, check'⟩

/-- A check that may not move is still one after moves of others. -/
theorem Moves.isCheck (h : Moves may c d) (no : ∀ a, ¬may j a) (hs : c.stage? j = some s)
    (check : s.IsCheck c.entries) : ∃ t, d.stage? j = some t ∧ t.IsCheck d.entries := by
  refine h.keep (p := fun d => ∃ t, d.stage? j = some t ∧ t.IsCheck d.entries) ?_ ⟨s, hs, check⟩
  rintro d e ⟨t, ht, check⟩ move
  exact move.isCheck no ht check

/-- A fetch of a check that is over ends the check. -/
theorem stage?_afterFetch_update (hs : (c.stage? j).isSome) (entry : EntryId)
    (result : Except Error Unit) :
    ∃ outcome, (c.afterFetch j entry result .update).stage? j = some (.done outcome) := by
  cases result with
  | ok => exact ⟨_, stage?_complete (c := c.notify _) hs _⟩
  | error error => exact ⟨_, stage?_complete hs _⟩

/-- A check fetches the stylesheet at most. -/
theorem stage?_startFetch_update (hs : c.stage? j = some s) {entry : EntryId}
    (css : IsStylesheet c.entries entry) :
    ∃ t, (c.startFetch j entry .update).stage? j = some t ∧ t.IsCheck c.entries := by
  obtain ⟨e, he, -⟩ := id css
  cases live : e.isDisposed with
  | true =>
      rw [startFetch_of_disposed he live]
      obtain ⟨outcome, ended⟩ :=
        stage?_afterFetch_update (by rw [hs]; rfl) entry (.error .disposed)
      exact ⟨_, ended, .done outcome⟩
  | false =>
      rw [startFetch_of_live he live]
      exact ⟨_, stage?_setStage_self (c := c.setEntry _ _) hs _, .fetch css⟩

/-- A check that was told the time of its file goes on as one. -/
theorem stage?_afterStat (hs : c.stage? j = some s) {entry : EntryId}
    (css : IsStylesheet c.entries entry) (result : Except Error FileStat) :
    ∃ t, (c.afterStat j entry result).stage? j = some t ∧ t.IsCheck c.entries := by
  have there : (c.stage? j).isSome := by
    rw [hs]
    rfl
  cases result with
  | error error =>
      simp only [afterStat]
      split
      · exact ⟨_, stage?_complete (c := (c.notify _).disposeEntry entry) there _, .done _⟩
      · exact ⟨_, stage?_complete there _, .done _⟩
  | ok stat =>
      simp only [afterStat]
      split
      · exact stage?_startFetch_update hs css
      · exact ⟨_, stage?_complete there _, .done _⟩

/-- So does one with an answer to its fetch. -/
theorem stage?_resumeFetch_update {f : Fetch} (hs : c.stage? j = some (.fetching f .update))
    (css : IsStylesheet c.entries f.entry) (a : Answer) :
    ∃ t, (c.resumeFetch j f .update a).stage? j = some t ∧ t.IsCheck c.entries := by
  obtain ⟨e, he, -⟩ := id css
  rw [resumeFetch, he]
  dsimp only
  generalize f.resume e c.config.maxFileBytes (c.rootOf e.scope) a = r
  obtain ⟨e', notices, progress⟩ := r
  let told := (c.setEntry f.entry e').notify notices
  have there : told.stage? j = some (.fetching f .update) := hs
  cases progress with
  | waiting stage => exact ⟨_, stage?_setStage_self there _, .fetch css⟩
  | finished result =>
      obtain ⟨outcome, ended⟩ := stage?_afterFetch_update (by rw [there]; rfl) f.entry result
      exact ⟨_, ended, .done outcome⟩

/-- A stylesheet stays one along any event. -/
theorem isStylesheet_step? (step : c.step? event = some d) {entry : EntryId}
    (css : IsStylesheet c.entries entry) : IsStylesheet d.entries entry := by
  obtain ⟨e, he, kind⟩ := css
  obtain ⟨e', he', lasts⟩ := entry_step? step he
  exact ⟨e', he', lasts.kind.trans kind⟩

/-- A check stays a check. -/
theorem step?_isCheck (step : c.step? event = some d) (hs : c.stage? j = some s)
    (check : s.IsCheck c.entries) : ∃ t, d.stage? j = some t ∧ t.IsCheck d.entries := by
  have keeps : ∀ entry, IsStylesheet c.entries entry → IsStylesheet d.entries entry :=
    fun _ => isStylesheet_step? step
  cases step?_fares step hs with
  | stays same => exact ⟨s, same, isCheck_mono check keeps⟩
  -- a check that was stopped is over
  | stopped i _ ended => exact ⟨_, ended, .done .unit⟩
  | answered answer _ expected eq =>
      suffices came : ∃ t, d.stage? j = some t ∧ t.IsCheck c.entries by
        obtain ⟨t, ht, check⟩ := came
        exact ⟨t, ht, isCheck_mono check keeps⟩
      subst eq
      simp only [expects, hs] at expected
      cases check with
      | join | done => cases expected
      | ask css =>
          cases answer with
          | stat result =>
              simp only [resume, hs]
              exact stage?_afterStat hs css result
          | resolved | text | listing | parsed | built => cases expected
      | fetch css =>
          simp only [resume, hs]
          exact stage?_resumeFetch_update hs css answer
  -- a check waits for no slot
  | woken entry _ waits =>
      subst waits
      cases check
  | joins parts plan _ go no => exact (step?_moves step go).isCheck no hs check

/-! ## Supervision -/

/-- The parts of a check of stylesheets are checks. -/
theorem isCheck_startPartsFrom (entries : List EntryId) (c : Catalog) (first : Nat)
    (css : ∀ entry ∈ entries, IsStylesheet c.entries entry)
    (starting : ∀ i < entries.length, c.stage? (first + i) = some .starting) :
    ∀ i < entries.length, ∃ t,
      (c.startPartsFrom first (entries.map .check)).stage? (first + i) = some t ∧
        t.IsCheck (c.startPartsFrom first (entries.map .check)).entries := by
  induction entries generalizing c first with
  | nil => exact fun i lt => absurd lt (Nat.not_lt_zero i)
  | cons entry rest ih =>
      let b := c.startCheck first entry
      let only : JobId → Act → Prop := fun j a => j = first ∧ a = .proceed
      have hs : c.stage? first = some .starting := starting 0 (Nat.zero_lt_succ _)
      have turn : Moves only c b := moves_startCheck ⟨rfl, rfl⟩ hs rfl entry
      have starting' : ∀ i < rest.length, b.stage? (first + 1 + i) = some .starting :=
        starting_startPart starting (.check entry)
      have css' : ∀ entry ∈ rest, IsStylesheet b.entries entry :=
        fun entry mem => turn.isStylesheet (css entry (List.mem_cons_of_mem _ mem))
      intro i lt
      cases i with
      | zero =>
          -- the parts after it leave the first one alone
          obtain ⟨t, ht, check⟩ : ∃ t, b.stage? first = some t ∧ t.IsCheck b.entries := by
            show ∃ t, (c.startCheck first entry).stage? first = some t ∧
              t.IsCheck (c.startCheck first entry).entries
            rw [startCheck]
            split
            · exact ⟨_, stage?_complete (by rw [hs]; rfl) _, .done _⟩
            · exact ⟨_, stage?_setStage_self hs _, .ask (css entry List.mem_cons_self)⟩
          let later : JobId → Act → Prop := fun j _ => first < j
          have others : Moves later b (b.startPartsFrom (first + 1) (rest.map .check)) := by
            refine moves_startPartsFrom _ b _ (fun i _ _ => ?_) (by simpa using starting')
            have lt : first < first + 1 + i := by omega
            exact ⟨lt, lt⟩
          exact others.isCheck (fun _ => Nat.lt_irrefl _) ht check
      | succ i =>
          have := ih b (first + 1) css' starting' i (Nat.lt_of_succ_lt_succ lt)
          rwa [Nat.add_assoc, Nat.add_comm 1 i] at this

/-- The check of all stylesheets, once it is started. -/
theorem supervises_startChecks (hs : c.stage? id = some .starting)
    (css : ∀ entry ∈ c.stylesheets, IsStylesheet c.entries entry)
    (fresh : ∀ t ∈ c.jobs, t.parent ≠ some id) : (c.startChecks id).Supervises id := by
  let parts : List Part := c.stylesheets.map .check
  let plan : Plan := .checks c.stylesheets
  let asked := c.enlisted id parts plan
  let begun := asked.startPartsFrom c.jobs.length parts
  have starting : ∀ i < c.stylesheets.length,
      asked.stage? (c.jobs.length + i) = some .starting :=
    fun i lt => stage?_enlisted hs (by rwa [List.length_map])
  -- what the parts are at, and what the job itself is at
  have below := isCheck_startPartsFrom c.stylesheets asked c.jobs.length css starting
  have joining : asked.stage? id = some (.joining (List.range' c.jobs.length parts.length) plan) :=
    stage?_setStage_self (stage?_append _ hs) _
  let later : JobId → Act → Prop := fun j _ => c.jobs.length ≤ j
  have parts_moves : Moves later asked begun :=
    moves_startPartsFrom _ asked _ (fun i _ _ => ⟨Nat.le_add_right _ i, Nat.le_add_right _ i⟩)
      (by simpa [parts] using starting)
  obtain ⟨t, ht, check⟩ := parts_moves.isCheck (j := id) (fun _ => Nat.not_le.mpr (stage?_lt hs))
    joining (.join _ _)
  have joins : Moves (fun _ _ => False) begun (c.startChecks id) := moves_joinParts begun id
  constructor
  · rw [startChecks, ← length_crew, crew_startParts, List.length_append, length_crew]
    exact Nat.lt_add_right _ (stage?_lt hs)
  · intro j t' ht' which
    suffices came : ∃ t, begun.stage? j = some t ∧ t.IsCheck begun.entries by
      obtain ⟨t, ht, check⟩ := came
      obtain ⟨u, hu, check⟩ := joins.isCheck (fun _ no => no) ht check
      rw [stage?, ht'] at hu
      cases hu
      exact check
    rcases which with rfl | part
    · exact ⟨t, ht, check⟩
    · obtain ⟨i, lt, rfl⟩ := part_of_startParts fresh ht' part
      exact below i (by simpa [parts] using lt)

/-- The parts of a check stay its own, and no other job becomes one. -/
theorem Supervises.keep (h : c.Supervises id) (step : c.step? event = some d) {cs : List Checker}
    (enlists : Enlists (fun p => c.jobs.length = p ∨ c.IsScanning p) { c with checkers := cs } d) :
    d.Supervises id where
  lt := Nat.lt_of_lt_of_le h.lt enlists.length_le
  checks {j t} ht which := by
    rcases enlists.parent ht with ⟨t₀, ht₀, same⟩ | ⟨ge, new⟩
    · have ht₀ : c.jobs[j]? = some t₀ := ht₀
      have hs : c.stage? j = some t₀.stage := by rw [stage?, ht₀]; rfl
      have check := h.checks ht₀ (which.imp_right fun part => same ▸ part)
      obtain ⟨s, hs', check⟩ := step?_isCheck step hs check
      rw [stage?, ht] at hs'
      cases hs'
      exact check
    · rcases which with rfl | part
      · exact absurd h.lt (Nat.not_lt.mpr ge)
      · rcases (new id part).1 with rfl | ⟨root, pending, found, hs⟩
        · exact absurd h.lt (Nat.lt_irrefl _)
        · -- a check does not scan
          obtain ⟨t₀, ht₀, stage⟩ := Option.map_eq_some_iff.mp hs
          have check := h.checks ht₀ (.inl rfl)
          rw [stage] at check
          cases check

/-- What a new checker is busy with has to be seen to. -/
theorem Supervised.keep (h : Supervised c) (step : c.step? event = some d) (cs : List Checker)
    (enlists : Enlists (fun p => c.jobs.length = p ∨ c.IsScanning p) { c with checkers := cs } d)
    (busy : ∀ (i deadline : Nat) (id : JobId), cs[i]? = some (Checker.busy deadline id) →
      c.checkers[i]? = some (Checker.busy deadline id) ∨ d.Supervises id) : Supervised d where
  known {j p t} ht part := by
    rcases enlists.parent ht with ⟨t₀, ht₀, same⟩ | ⟨-, new⟩
    · exact Nat.lt_of_lt_of_le (h.known ht₀ (same ▸ part)) enlists.length_le
    · exact (new p part).2
  busy {i deadline id} at_ := by
    have same : d.checkers = cs := by
      obtain ⟨ps, crew_eq, -⟩ := enlists
      exact congrArg Prod.snd crew_eq
    rcases busy i deadline id (same ▸ at_) with before | new
    · exact (h.busy before).keep step enlists
    · exact new

/-- At first no checker is busy. -/
theorem supervised_new (config : Config) (clock : Time) : Supervised (new config clock) := by
  constructor <;> simp [new]

/-- Nothing is a part of the next job yet. -/
theorem Supervised.parent_ne_length (h : Supervised c) {t : Job} (alone : t.parent = none) :
    ∀ u ∈ (c.addJob t).1.jobs, u.parent ≠ some c.jobs.length := by
  intro u mem part
  rcases List.mem_append.mp mem with old | new
  · obtain ⟨j, hj⟩ := List.getElem?_of_mem old
    exact absurd (h.known hj part) (Nat.lt_irrefl _)
  · rw [List.mem_singleton.mp new] at part
    cases alone.symm.trans part

/-- Registered stylesheets are stylesheets. -/
theorem Sound.isStylesheet (sound : Sound c) {entry : EntryId} (mem : entry ∈ c.stylesheets) :
    IsStylesheet c.entries entry := by
  obtain ⟨slot, ready, css⟩ := List.mem_filterMap.mp mem
  obtain ⟨i, -, hs⟩ := List.mem_filterMap.mp (List.mem_filter.mp ready).1
  split at css
  · next kind =>
      obtain ⟨-, e, -, -, he, -, same, -⟩ := sound.filled hs css
      exact ⟨e, he, same.trans (beq_iff_eq.mp kind)⟩
  · cases css

/-- A checker after a change is the new one or was there before. -/
theorem checker_of_set {cs : List Checker} {i j : Nat} {x y : Checker}
    (h : (cs.set i x)[j]? = some y) : cs[j]? = some y ∨ y = x := by
  rcases getElem?_set_cases h with ⟨-, eq⟩ | ⟨-, same⟩
  · exact .inr eq
  · exact .inl same

/-- A check of a checker has its parts, and nothing else is new. -/
theorem enlists_begun (c : Catalog) (i deadline : Nat) :
    Enlists (fun p => c.jobs.length = p ∨ c.IsScanning p)
      { c with checkers := (c.readied i deadline).checkers }
      ((c.readied i deadline).startChecks c.jobs.length) := by
  refine Enlists.of_added (t := { stage := .starting }) rfl ?_
  exact (enlists_startParts (stage?_readied c i deadline) rfl _ _).mono fun _ => .inl

/-- To stop a checker leaves the jobs where they are, and finishes the checker. -/
theorem crew_stopChecker (c : Catalog) (i : Nat) :
    (c.stopChecker i).crew = (c.crew.1, c.checkers.set i .finished) := by
  rw [stopChecker]
  split
  · refine Prod.ext ?_ rfl
    apply List.ext_getElem?
    intro j
    simp only [crew, abandon, setChecker, List.getElem?_map, List.getElem?_mapIdx]
    cases c.jobs[j]? with
    | none => rfl
    | some t =>
        simp only [Option.map_some]
        split <;> rfl
  · rfl

/-- What an event adds to the crew: jobs on their own, parts of a new job, and parts of a scan. A
checker that is busy after the event was so before, or has just begun a check. -/
theorem step?_crew (step : c.step? event = some d) :
    ∃ cs, Enlists (fun p => c.jobs.length = p ∨ c.IsScanning p) { c with checkers := cs } d ∧
      ∀ (i deadline : Nat) (id : JobId), cs[i]? = some (Checker.busy deadline id) →
        c.checkers[i]? = some (Checker.busy deadline id) ∨
          id = c.jobs.length ∧ ∃ k due, d = (c.readied k due).startChecks c.jobs.length := by
  by_cases tick : ∃ k, event = .tick k
  · obtain ⟨k, rfl⟩ := tick
    -- a checker that only waits is not busy
    have idle : ∀ {x : Checker}, (∀ deadline id, x ≠ .busy deadline id) → ∀ (i deadline : Nat)
        (id : JobId), (c.checkers.set k x)[i]? = some (Checker.busy deadline id) →
        c.checkers[i]? = some (Checker.busy deadline id) := by
      intro x not i deadline id at_
      exact (checker_of_set at_).resolve_right fun eq => not deadline id eq.symm
    cases ticks_of_tick? (c := c) step with
    | @begins due =>
        refine ⟨(c.readied k due).checkers, enlists_begun c k due, fun i deadline id at_ => ?_⟩
        rcases checker_of_set at_ with before | eq
        · exact .inl before
        · cases eq
          exact .inr ⟨rfl, k, due, rfl⟩
    | deserts | ends =>
        exact ⟨_, .of_crew rfl, fun i deadline id at_ => .inl (idle (by simp) i deadline id at_)⟩
  by_cases start : event = .startChecker
  · subst start
    cases step
    refine ⟨_, .of_crew rfl, fun i deadline id at_ => .inl ?_⟩
    rcases getElem?_concat at_ with before | ⟨-, eq⟩
    · exact before
    · split at eq <;> cases eq
  by_cases stop : ∃ k, event = .stopChecker k
  · obtain ⟨k, rfl⟩ := stop
    cases step
    refine ⟨c.checkers.set k .finished, .of_crew (crew_stopChecker c k), ?_⟩
    exact fun i deadline id at_ => .inl ((checker_of_set at_).resolve_right (by simp))
  · exact ⟨c.checkers, step?_enlists step (fun k eq => tick ⟨k, eq⟩) start fun k eq => stop ⟨k, eq⟩,
      fun _ _ _ at_ => .inl at_⟩

/-- What a busy checker would give up is kept by every event. -/
theorem Supervised.step? (h : Supervised c) (sound : Sound c) (step : c.step? event = some d) :
    Supervised d := by
  obtain ⟨cs, enlists, busy⟩ := step?_crew step
  refine h.keep step cs enlists fun i deadline id at_ => ?_
  rcases busy i deadline id at_ with before | ⟨rfl, k, due, rfl⟩
  · exact .inl before
  · exact .inr (supervises_startChecks (stage?_readied c k due)
      (fun entry mem => sound.isStylesheet mem) (h.parent_ne_length rfl))

/-! ## Runs with stops -/

/-- Nothing but checks is given up. -/
theorem Supervised.stage?_stopChecker (h : Supervised c) (i : Nat) {s : Stage}
    (hs : c.stage? j = some s) :
    (c.stopChecker i).stage? j = some s ∨
      s.IsCheck c.entries ∧ (c.stopChecker i).stage? j = some (.done .unit) := by
  rcases Catalog.stage?_stopChecker hs i with same | ⟨ended, deadline, id, t, busy, ht, given⟩
  · exact .inl same
  · have check := (h.busy busy).checks ht given
    rw [stage?, ht] at hs
    cases hs
    exact .inr ⟨check, ended⟩

/-- Nothing is constructed by a check. -/
theorem Supervised.site?_stopChecker (h : Supervised c) (i : Nat) :
    (c.stopChecker i).site? = c.site? := by
  funext j
  cases hs : c.stage? j with
  | none =>
      have none : (c.stopChecker i).stage? j = none := by
        refine Option.eq_none_iff_forall_ne_some.mpr fun t ht => ?_
        obtain ⟨s, hs'⟩ := stage?_of_stopChecker ht
        cases hs.symm.trans hs'
      rw [site?, site?, hs, none]
  | some s =>
      rcases h.stage?_stopChecker i hs with same | ⟨check, ended⟩
      · rw [site?, site?, hs, same]
      · rw [site?, site?, hs, ended]
        cases check <;> rfl

/-- A catalogue stays sound when a checker is stopped, as that gives up checks alone. -/
theorem Supervised.sound_stopChecker (h : Supervised c) (sound : Sound c) (i : Nat) :
    Sound (c.stopChecker i) := by
  have built := sound.built
  rw [← h.site?_stopChecker i] at built
  obtain ⟨jobs, checkers, eq, -⟩ := stopChecker_frame c i
  rw [eq] at built ⊢
  exact { sound with built := built }

/-- Every event keeps what holds of a catalogue, also the stop of a checker. -/
theorem Supervised.sound_step? (h : Supervised c) (sound : Sound c)
    (step : c.step? event = some d) :
    Sound d := by
  by_cases stop : ∃ i, event = .stopChecker i
  · obtain ⟨i, rfl⟩ := stop
    cases step
    exact h.sound_stopChecker sound i
  · exact sound.step? step fun i eq => stop ⟨i, eq⟩

/-- What holds of a catalogue holds along a run. -/
theorem sound_along {events : List Event} (run : Run c events d) (sound : Sound c)
    (supervised : Supervised c) : Sound d ∧ Supervised d :=
  run.invariant (p := fun b => Sound b ∧ Supervised b)
    (fun _ _ _ h step => ⟨h.2.sound_step? h.1 step, h.2.step? h.1 step⟩)
    ⟨sound, supervised⟩

/-- What holds of every catalogue that is reached from the empty one, whatever is given up on the
way. -/
theorem sound_of_run {config : Config} {clock : Time} {events : List Event}
    (run : Run (new config clock) events c) : Sound c ∧ Supervised c :=
  sound_along run (sound_new config clock) (supervised_new config clock)

end Catalog

end SelectorCatalog
