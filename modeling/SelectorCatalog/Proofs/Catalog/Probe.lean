import Mathlib.Data.List.Basic
import SelectorCatalog.Proofs.Catalog.Change

/-!
# What a check depends on

A job that checks a stylesheet goes on with each answer as its own stage and the entry alone tell
it, together with the settings and the time of day. It changes nothing but that entry and that
stage, and reports something. So it does the same in any two catalogues that agree on these.

* `resume_check`: the next stage and the entry of a check.
* `startCheck_eq`: its first stage.
* `startChecks_eq`: the first stages of all checks.
* `reach_part`: what follows for the job that it is a part of.
* `joinParts_checks`: when that job is over, and what it comes to.
-/

namespace SelectorCatalog

/-- What a job is at that checks an entry. -/
inductive Job.Stage.Checks (id : EntryId) : Job.Stage → Prop where
  | ask : Checks id (.checking id)
  | fetch {f : Fetch} : f.entry = id → Checks id (.fetching f .update)
  | done (result : Except Error Bool) : Checks id (.done (.checked result))

namespace Catalog

open Job (Outcome Purpose Plan Stage)

variable {c x : Catalog} {id : EntryId} {job j : JobId} {s : Stage} {e : Entry}
  {parts : List JobId} {plan : Plan} {ids : List EntryId}

/-- Two catalogues agree on all that a check depends on apart from its own stage and entry. -/
structure SameSetting (c x : Catalog) : Prop where
  config : c.config = x.config
  root : c.root = x.root
  standaloneRoot : c.standaloneRoot = x.standaloneRoot
  clock : c.clock = x.clock

theorem SameSetting.rootOf_eq (h : SameSetting c x) (scope : Scope) :
    c.rootOf scope = x.rootOf scope := by
  cases scope with
  | registry => exact h.root
  | standalone => exact h.standaloneRoot

/-- A job comes to a stage; with the last one it is over, and so may be the job that it is a part
of. -/
def reach (c : Catalog) (j : JobId) (s : Stage) : Catalog :=
  match s with
  | .done outcome => c.complete j outcome
  | s => c.setStage j s

/-- A stage that is no end is reached without ado. -/
theorem reach_of_goes (goes : ∀ outcome, s ≠ .done outcome) : c.reach j s = c.setStage j s := by
  cases s with
  | done outcome => exact absurd rfl (goes outcome)
  | _ => rfl

/-- A job that is no part of another comes to its stages alone. -/
theorem reach_alone (apart : c.IsApart j) (s : Stage) : c.reach j s = c.setStage j s := by
  cases s with
  | done outcome => exact complete_alone apart outcome
  | _ => rfl

/-- A part comes to its stages and hands over to its job, which goes on once all parts are over. -/
theorem reach_part (joins : c.stage? job = some (.joining parts plan)) (mem : j ∈ parts)
    (other : j ≠ job) (there : (c.stage? j).isSome)
    (parent : (c.jobs[j]?).bind (·.parent) = some job) (s : Stage) :
    c.reach j s = (c.setStage j s).joinParts job := by
  by_cases ended : ∃ outcome, s = .done outcome
  · obtain ⟨outcome, rfl⟩ := ended
    exact complete_of_part parent outcome
  · have goes : ∀ outcome, s ≠ .done outcome := fun outcome eq => ended ⟨outcome, eq⟩
    obtain ⟨t, ht⟩ := Option.isSome_iff_exists.mp there
    have joins' : (c.setStage j s).stage? job = some (.joining parts plan) := by
      rw [stage?_setStage, if_neg other]
      exact joins
    have open_ : (c.setStage j s).outcome? j = none :=
      outcome?_of_goes (stage?_setStage_self ht s) goes
    rw [reach_of_goes goes, joinParts_waiting joins' mem open_]

/-- To put an entry where it is changes nothing. -/
theorem setEntry_self (he : c.entries[id]? = some e) : c.setEntry id e = c := by
  obtain ⟨_, rfl⟩ := List.getElem?_eq_some_iff.mp he
  rw [setEntry, List.set_getElem_self]

/-- To dispose of an entry is to put the disposed one in its place. -/
theorem disposeEntry_eq (he : c.entries[id]? = some e) :
    c.disposeEntry id = c.setEntry id e.dispose := by
  have same : c.entries.modify id Entry.dispose = c.entries.set id e.dispose := by
    rw [List.modify_eq_set_getElem?, he]
    rfl
  rw [disposeEntry, changeEntry, same]
  rfl

/-- The same answer brings a check from one stage to another, makes the same of its entry and has
the same reported in all catalogues of one setting. -/
def Brings (x : Catalog) (id : EntryId) (s : Stage) (e : Entry) (a : Answer) (t : Stage) (d : Entry)
    (ns : List Notice) : Prop :=
  ∀ (c : Catalog) (j : JobId), SameSetting c x → c.stage? j = some s → c.entries[id]? = some e →
    c.expects j a = true → c.resume j a = ((c.setEntry id d).notify ns).reach j t

/-- An entry that is put where it was, with nothing said, leaves the catalogue as it was. -/
theorem unchanged (he : c.entries[id]? = some e) : (c.setEntry id e).notify [] = c := by
  rw [setEntry_self he, notify_nil]

/-- What is not expected brings nothing. -/
theorem brings_of_unexpected {a : Answer}
    (unexpected : ∀ (c : Catalog) (j : JobId), c.stage? j = some s → c.expects j a = false) :
    Brings x id s e a s e [] := by
  intro c j _ hs _ expected
  cases (unexpected c j hs).symm.trans expected

/-! ## Answers to a check -/

/-- A file that is gone takes its entry along. -/
theorem brings_gone {error : Error} (found : error.isNotFound = true) :
    Brings x id (.checking id) e (.stat (.error error)) (.done (.checked (.ok false))) e.dispose
      [.stylesheetGone e.path] := by
  intro c j _ hs he _
  have path_eq : c.pathOf id = e.path := by
    rw [pathOf, he]
    rfl
  simp only [resume, hs, afterStat, found, if_true, path_eq]
  rw [disposeEntry_eq (c := c.notify _) he]
  rfl

/-- A file whose age cannot be had is the end of the check. -/
theorem brings_error {error : Error} (found : error.isNotFound = false) :
    Brings x id (.checking id) e (.stat (.error error)) (.done (.checked (.error error))) e [] := by
  intro c j _ hs he _
  rw [unchanged he]
  simp [resume, hs, afterStat, found, reach]

/-- A file that is no newer is left alone. -/
theorem brings_fresh {stat : FileStat} (fresh : e.isStale stat.modified = false) :
    Brings x id (.checking id) e (.stat (.ok stat)) (.done (.checked (.ok false))) e [] := by
  intro c j _ hs he _
  rw [unchanged he]
  simp [resume, hs, afterStat, he, fresh, reach]

/-- An entry that was disposed of meanwhile is not fetched any more. -/
theorem brings_disposed {stat : FileStat} (stale : e.isStale stat.modified = true)
    (gone : e.isDisposed = true) :
    Brings x id (.checking id) e (.stat (.ok stat)) (.done (.checked (.error .disposed))) e [] := by
  intro c j _ hs he _
  rw [unchanged he]
  simp only [resume, hs, afterStat, he, Option.any_some, stale, if_true]
  exact startFetch_of_disposed he gone j .update

/-- A newer file is fetched. -/
theorem brings_fetch {stat : FileStat} (stale : e.isStale stat.modified = true)
    (live : e.isDisposed = false) :
    Brings x id (.checking id) e (.stat (.ok stat))
      (.fetching ⟨id, e.beginFetch.fetches, x.clock, .stat⟩ .update) e.beginFetch [] := by
  intro c j same hs he _
  simp only [resume, hs, afterStat, he, Option.any_some, stale, if_true]
  rw [startFetch_of_live he live, same.clock, notify_nil]
  rfl

/-- What a check makes of the age of the file. -/
theorem resume_ask (e : Entry) (x : Catalog) (a : Answer) :
    ∃ t d ns, Stage.Checks id t ∧ Brings x id (.checking id) e a t d ns := by
  cases a with
  | stat result =>
      cases result with
      | error error =>
          cases found : error.isNotFound with
          | true => exact ⟨_, _, _, .done (.ok false), brings_gone found⟩
          | false => exact ⟨_, _, _, .done (.error error), brings_error found⟩
      | ok stat =>
          cases stale : e.isStale stat.modified with
          | false => exact ⟨_, _, _, .done (.ok false), brings_fresh stale⟩
          | true =>
              cases live : e.isDisposed with
              | true => exact ⟨_, _, _, .done (.error .disposed), brings_disposed stale live⟩
              | false => exact ⟨_, _, _, .fetch rfl, brings_fetch stale live⟩
  | _ => exact ⟨_, _, _, .ask, brings_of_unexpected fun c j hs => by simp [expects, hs]⟩

/-! ## Answers to the fetch of a check -/

/-- The fetch of a check goes on in the same way in all catalogues of one setting. -/
theorem resume_of_fetch {f : Fetch} {a : Answer} {d : Entry} {ns : List Notice}
    {progress : Fetch.Progress} (same : SameSetting c x)
    (hr : f.resume e x.config.maxFileBytes (x.rootOf e.scope) a = (d, ns, progress))
    (hs : c.stage? j = some (.fetching f .update)) (he : c.entries[f.entry]? = some e) :
    c.resume j a = c.resumeFetch j f .update a ∧
      f.resume e c.config.maxFileBytes (c.rootOf e.scope) a = (d, ns, progress) ∧
      ((c.setEntry f.entry d).notify ns).pathOf f.entry = d.path := by
  refine ⟨by cases a <;> simp [resume, hs], ?_, ?_⟩
  · rw [same.config, same.rootOf_eq]
    exact hr
  · show ((c.entries.set f.entry d)[f.entry]?.map Entry.path).getD _ = _
    rw [List.getElem?_set_self (List.getElem?_eq_some_iff.mp he).1]
    rfl

/-- What a check makes of an answer to its fetch. -/
theorem resume_update (f : Fetch) (e : Entry) (x : Catalog) (a : Answer) :
    ∃ t d ns, Stage.Checks f.entry t ∧ Brings x f.entry (.fetching f .update) e a t d ns := by
  cases hr : f.resume e x.config.maxFileBytes (x.rootOf e.scope) a with
  | mk d rest =>
      obtain ⟨ns, progress⟩ := rest
      cases progress with
      -- still under way, or ended with the fetch
      | waiting stage =>
          refine ⟨.fetching { f with stage := stage } .update, d, ns, .fetch rfl, ?_⟩
          intro c j same hs he _
          obtain ⟨goes, eq, -⟩ := resume_of_fetch same hr hs he
          rw [goes, resumeFetch, he]
          simp only [eq]
          rfl
      | finished result =>
          cases result with
          | error error =>
              refine ⟨_, d, ns, .done (.error error), ?_⟩
              intro c j same hs he _
              obtain ⟨goes, eq, -⟩ := resume_of_fetch same hr hs he
              rw [goes, resumeFetch, he]
              simp only [eq]
              rfl
          | ok =>
              -- a success is reported with the path of the entry
              refine ⟨_, d, ns ++ [.stylesheetUpdated d.path], .done (.ok true), ?_⟩
              intro c j same hs he _
              obtain ⟨goes, eq, path_eq⟩ := resume_of_fetch same hr hs he
              rw [goes, resumeFetch, he]
              simp only [eq, afterFetch, path_eq]
              simp only [notify, List.append_assoc]
              rfl

/-- What a check makes of an answer depends on its stage, its entry and the setting. -/
theorem resume_check (checks : s.Checks id) (e : Entry) (x : Catalog) (a : Answer) :
    ∃ t d ns, Stage.Checks id t ∧ Brings x id s e a t d ns := by
  cases checks with
  | ask => exact resume_ask e x a
  | @fetch f own =>
      subst own
      exact resume_update f e x a
  | done result =>
      exact ⟨_, _, _, .done result, brings_of_unexpected fun c j hs => by simp [expects, hs]⟩

/-! ## The beginning -/

/-- The first stage of a check. -/
def checkStage (c : Catalog) (id : EntryId) : Stage :=
  if (c.entries[id]?).all Entry.isDisposed then .done (.checked (.ok false)) else .checking id

/-- The stage in which a check starts is one of a check. -/
theorem checks_checkStage (c : Catalog) (id : EntryId) : (c.checkStage id).Checks id := by
  rw [checkStage]
  split
  · exact .done _
  · exact .ask

/-- A check starts by reaching its first stage. -/
theorem startCheck_eq (c : Catalog) (j : JobId) (id : EntryId) :
    c.startCheck j id = c.reach j (c.checkStage id) := by
  rw [startCheck, checkStage]
  split <;> rfl

/-- A check that stands alone begins. -/
theorem start_check (c : Catalog) (id : EntryId) :
    (c.start (.check id)).1 =
      (c.addJob { stage := .starting, ofCatalog := false }).1.setStage c.jobs.length
        (c.checkStage id) := by
  let added := (c.addJob { stage := .starting, ofCatalog := false }).1
  have apart : added.IsApart c.jobs.length := by
    simp [IsApart, added, addJob]
  show added.startCheck c.jobs.length id = _
  rw [startCheck_eq, reach_alone apart]
  rfl

/-- The checks of stylesheets begin one after the other. Only the last can be the one that the job
waits for. -/
theorem startPartsFrom_checks {parts : List JobId} {plan : Plan} (ids : List EntryId) (x : Catalog)
    (first : JobId) (joins : x.stage? job = some (.joining parts plan))
    (waits : ∀ k < ids.length, first + k ∈ parts ∧ first + k ≠ job ∧
      x.stage? (first + k) = some .starting ∧
      (x.jobs[first + k]?).bind (·.parent) = some job) :
    ∃ y js, y = { x with jobs := js } ∧ y.crew = x.crew ∧
      (x.startPartsFrom first (ids.map .check)).joinParts job = y.joinParts job ∧
      (∀ j, (∀ k < ids.length, j ≠ first + k) → y.stage? j = x.stage? j) ∧
      ∀ k id, ids[k]? = some id → y.stage? (first + k) = some (x.checkStage id) := by
  induction ids generalizing x first with
  | nil => exact ⟨x, x.jobs, rfl, rfl, rfl, fun _ _ => rfl, nofun⟩
  | cons id rest ih =>
      obtain ⟨mem, other, starts, parent⟩ := waits 0 (Nat.zero_lt_succ _)
      rw [Nat.add_zero] at mem other starts parent
      let begun := x.setStage first (x.checkStage id)
      -- a check that ends at once makes the job join its parts, which it cannot do yet
      have first_eq : x.startPart first (.check id) = begun.joinParts job := by
        show x.startCheck first id = _
        rw [startCheck_eq]
        exact reach_part joins mem other (Option.isSome_of_eq_some starts) parent _
      have here : begun.stage? first = some (x.checkStage id) := stage?_setStage_self starts _
      have elsewhere : ∀ j, first ≠ j → begun.stage? j = x.stage? j := by
        intro j ne
        rw [stage?_setStage, if_neg ne]
      have joins' : begun.stage? job = some (.joining parts plan) :=
        (elsewhere job other).trans joins
      have after : ∀ k : Nat, first + (k + 1) = first + 1 + k := fun k =>
        Nat.add_right_comm first k 1
      have waits' : ∀ k < rest.length, first + 1 + k ∈ parts ∧ first + 1 + k ≠ job ∧
          begun.stage? (first + 1 + k) = some .starting ∧
          (begun.jobs[first + 1 + k]?).bind (·.parent) = some job := by
        intro k lt
        obtain ⟨mem, other, starts, parent⟩ := waits (k + 1) (Nat.succ_lt_succ lt)
        rw [after] at mem other starts parent
        have ne : first ≠ first + 1 + k :=
          Nat.ne_of_lt (Nat.lt_add_right k (Nat.lt_succ_self first))
        exact ⟨mem, other, (elsewhere _ ne).trans starts,
          (parent_congr (crew_setStage x first _) _).trans parent⟩
      obtain ⟨y, js, eq, crew, joined, same, stages⟩ := ih begun (first + 1) joins' waits'
      -- so the parts that follow start as if nothing had been joined
      have goes_on :
          ((begun.joinParts job).startPartsFrom (first + 1) (rest.map .check)).joinParts job =
            (begun.startPartsFrom (first + 1) (rest.map .check)).joinParts job := by
        cases rest with
        | nil => exact joinParts_joinParts begun job
        | cons next rest =>
            -- the next part has not begun
            obtain ⟨mem, -, starts, -⟩ := waits' 0 (Nat.zero_lt_succ _)
            rw [joinParts_waiting joins' mem (outcome?_of_goes starts (by simp))]
      refine ⟨y, js, eq, crew.trans (crew_setStage x first _), ?_, ?_, ?_⟩
      · rw [List.map_cons, startPartsFrom, first_eq, goes_on, joined]
      · intro j out
        have ne : first ≠ j := Ne.symm (out 0 (Nat.zero_lt_succ _))
        rw [same j, elsewhere j ne]
        intro k lt
        rw [← after]
        exact out (k + 1) (Nat.succ_lt_succ lt)
      · intro k id' at_
        cases k with
        | zero =>
            obtain rfl := Option.some.inj at_
            refine (same first ?_).trans here
            intro k _
            exact Nat.ne_of_lt (Nat.lt_add_right k (Nat.lt_succ_self first))
        | succ k =>
            rw [after]
            exact stages k id' at_

/-- The checks of all stylesheets have begun when their job waits for them for the first time. -/
theorem startChecks_eq (hs : c.stage? job = some .starting) :
    ∃ y js, y = { c with jobs := js } ∧ y.jobs.length = c.jobs.length + c.stylesheets.length ∧
      c.startChecks job = y.joinParts job ∧
      y.stage? job = some (.joining (List.range' c.jobs.length c.stylesheets.length)
        (.checks c.stylesheets)) ∧
      (∀ j < c.jobs.length, job ≠ j → y.stage? j = c.stage? j) ∧
      ∀ k id, c.stylesheets[k]? = some id →
        y.stage? (c.jobs.length + k) = some (c.checkStage id) := by
  let parts : List Part := c.stylesheets.map .check
  let listed := c.enlisted job parts (.checks c.stylesheets)
  have length : parts.length = c.stylesheets.length := List.length_map _
  have lt : job < c.jobs.length := stage?_lt hs
  have joins : listed.stage? job = some (.joining (List.range' c.jobs.length c.stylesheets.length)
      (.checks c.stylesheets)) := by
    rw [← length]
    exact stage?_setStage_self (stage?_append _ hs) _
  -- the parts come behind all jobs there were, this one included
  have other : ∀ k, c.jobs.length + k ≠ job := fun k => Nat.ne_of_gt (Nat.lt_add_right k lt)
  have crew_eq : (c.startChecks job).crew = listed.crew := by
    rw [startChecks, startParts_eq, crew_joinParts, crew_startPartsFrom]
  obtain ⟨y, js, eq, crew, joined, same, stages⟩ :=
    startPartsFrom_checks c.stylesheets listed c.jobs.length joins (by
      intro k lt
      refine ⟨mem_row.mpr ⟨k, lt, rfl⟩, other k, stage?_enlisted hs (length ▸ lt), ?_⟩
      rw [← parent_congr crew_eq]
      exact parent_startParts (length ▸ lt))
  refine ⟨y, js, eq, ?_, joined, ?_, ?_, stages⟩
  · rw [← length_crew, crew, ← crew_eq, startChecks, crew_startParts, List.length_append,
      length_crew, List.length_replicate, length]
  · exact (same job fun k _ => (other k).symm).trans joins
  -- old jobs other than this one keep their stages
  · intro j lt ne
    refine (same j fun k _ => Nat.ne_of_lt (Nat.lt_add_right k lt)).trans ?_
    show (c.enlisted job parts _).stage? j = _
    rw [enlisted, stage?_setStage, if_neg ne, stage?, stage?, List.getElem?_append_left lt]

/-! ## The end -/

/-- How far the job of some checks is: it waits for its parts, or has counted those that fetched
again. -/
def gathered (c : Catalog) (parts : List JobId) (ids : List EntryId) : Stage :=
  match parts.mapM c.outcome? with
  | some outcomes => .done (.count (countFetched outcomes))
  | none => .joining parts (.checks ids)

/-- To bring a job where it is changes nothing. -/
theorem setStage_self (hs : c.stage? j = some s) : c.setStage j s = c := by
  obtain ⟨t, ht, rfl⟩ := Option.map_eq_some_iff.mp hs
  obtain ⟨_, self⟩ := List.getElem?_eq_some_iff.mp ht
  have same : c.jobs.modify j (fun u => { u with stage := t.stage }) = c.jobs := by
    rw [List.modify_eq_set_getElem?, ht]
    show c.jobs.set j t = c.jobs
    rw [← self, List.set_getElem_self]
  rw [setStage, same]

/-- The job of some checks changes nothing but its own stage. -/
theorem joinParts_checks (joins : c.stage? job = some (.joining parts (.checks ids))) :
    ∃ ns, c.joinParts job = (c.notify ns).setStage job (c.gathered parts ids) := by
  rw [joinParts, joins, gathered]
  cases ended : parts.mapM c.outcome? with
  | some outcomes =>
      refine ⟨c.checkNotices ids outcomes, ?_⟩
      simp only [ended, follow]
  | none =>
      refine ⟨[], ?_⟩
      simp only [ended]
      rw [notify_nil, setStage_self joins]

end Catalog

end SelectorCatalog
