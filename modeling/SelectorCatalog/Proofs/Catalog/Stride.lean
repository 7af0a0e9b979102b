import Mathlib.Logic.Function.Basic
import SelectorCatalog.Proofs.Catalog.Steps

/-!
# Fetches on their way

What an event does to entries and to the fetches that jobs have under way, leaving the registry
aside: the `Work` of a catalogue. An event may be the answer to a fetch, which then is led on, fails
or lands in its entry: a `Reply`. All else that an event does to the work is made of a few kinds of
change, a `Stride` each: a fetch is started, entries are added, cleared and disposed of.

The theorem `step?_passage` says so of every event but the stop of a checker: at most one reply,
then strides. The stop of a checker gives fetches up, and does nothing else (`stopChecker_work`).
-/

namespace SelectorCatalog

/-- The fetch that a job at that stage has under way. -/
def Job.Stage.fetch? : Job.Stage → Option Fetch
  | .fetching f _ => some f
  | _ => none

/-- What an answer comes to: the fetch goes on, it fails, or it lands in its entry. Only then is the
entry touched. -/
theorem Fetch.resume_cases (f : Fetch) (e : Entry) (limit : Nat) (root : Option Path) (a : Answer) :
    (∃ notices stage, f.resume e limit root a = (e, notices, .waiting stage)) ∨
      (∃ notices error, f.resume e limit root a = (e, notices, .finished (.error error))) ∨
      ∃ stat dependencies sources e', f.stage = .build stat dependencies sources ∧ a = .built ∧
        e.install f.generation ⟨indexOf sources, dependencies, stat.modified, f.started⟩ = .ok e' ∧
        f.resume e limit root a = (e', [], .finished (.ok ())) := by
  unfold resume
  split
  case h_1 error _ => exact .inr (.inl ⟨[], error, rfl⟩)
  case h_2 stat _ =>
      by_cases large : limit < stat.size
      · rw [if_pos large]
        exact .inr (.inl ⟨[], _, rfl⟩)
      · rw [if_neg large]
        exact .inl ⟨[], _, rfl⟩
  case h_3 error _ => exact .inr (.inl ⟨[], error, rfl⟩)
  case h_4 => exact .inl ⟨[], _, rfl⟩
  case h_5 stat dependencies blocks i result _ =>
      rw [afterParse]
      cases fatal? e result with
      | some error => exact .inr (.inl ⟨[], error, rfl⟩)
      | none => exact .inl ⟨_, _, rfl⟩
  case h_6 stat dependencies sources at_ =>
      cases hi : e.install f.generation
          ⟨indexOf sources, dependencies, stat.modified, f.started⟩ with
      | ok e' => exact .inr (.inr ⟨stat, dependencies, sources, e', at_, rfl, hi, rfl⟩)
      | error error => exact .inr (.inl ⟨[], error, rfl⟩)
  case h_7 => exact .inl ⟨[], _, rfl⟩

namespace Catalog

open Job (Outcome Purpose Plan Stage)

/-- The fetch that a job has under way. -/
def fetch? (c : Catalog) (id : JobId) : Option Fetch :=
  (c.stage? id).bind Stage.fetch?

/-- Entries, the fetches under way on them, and what these depend on. -/
structure Work where
  entries : List Entry
  fetch? : JobId → Option Fetch
  clock : Time
  limit : Nat
  rootOf : Scope → Option Path

/-- The work of a catalogue. -/
def work (c : Catalog) : Work :=
  ⟨c.entries, c.fetch?, c.clock, c.config.maxFileBytes, c.rootOf⟩

/-- One change that an event makes to the work, the answers to fetches apart. -/
inductive Stride (event : Event) : Work → Work → Prop where
  | time (w : Work) {now : Time} : event = .clock now → w.clock ≤ now →
      Stride event w { w with clock := now }
  | root (w : Work) {root : Path} (rootOf : Scope → Option Path) :
      event = .call (.openProject root) → Stride event w { w with rootOf := rootOf }
  | add (w : Work) (kind : EntryKind) (path : Path) (scope : Scope) :
      Stride event w
        { w with entries := w.entries ++ [{ kind := kind, path := path, scope := scope }] }
  | dispose (w : Work) {es : List Entry} : Entry.Disposals w.entries es →
      Stride event w { w with entries := es }
  | clear (w : Work) (entry : EntryId) : event = .clearEntry entry →
      Stride event w { w with entries := w.entries.modify entry Entry.clear }
  | begin {w : Work} {id : JobId} {entry : EntryId} {e : Entry} : w.fetch? id = none →
      w.entries[entry]? = some e → e.isDisposed = false →
      Stride event w { w with
        entries := w.entries.set entry e.beginFetch
        fetch? := Function.update w.fetch? id
          (some ⟨entry, e.beginFetch.fetches, w.clock, .stat⟩) }

/-- What the answer to a job does to the fetch that the job has under way, and to its entry. -/
inductive Reply (id : JobId) (a : Answer) : Work → Work → Prop where
  | advance {w : Work} {f : Fetch} {e : Entry} {notices : List Notice} {stage : Fetch.Stage} :
      w.fetch? id = some f → w.entries[f.entry]? = some e →
      f.resume e w.limit (w.rootOf e.scope) a = (e, notices, .waiting stage) →
      Reply id a w
        { w with fetch? := Function.update w.fetch? id (some { f with stage := stage }) }
  | fail {w : Work} {f : Fetch} {e : Entry} {notices : List Notice} {error : Error} :
      w.fetch? id = some f → w.entries[f.entry]? = some e →
      f.resume e w.limit (w.rootOf e.scope) a = (e, notices, .finished (.error error)) →
      Reply id a w { w with fetch? := Function.update w.fetch? id none }
  /-- The fetch ends well, and its entry takes over what it found, or holds something later. -/
  | land {w : Work} {f : Fetch} {e e' : Entry} {stat : FileStat} {dependencies : List Path}
      {sources : List (String × List Rule)} : a = .built → w.fetch? id = some f →
      f.stage = .build stat dependencies sources → w.entries[f.entry]? = some e →
      e.install f.generation ⟨Fetch.indexOf sources, dependencies, stat.modified, f.started⟩ =
        .ok e' →
      Reply id a w { w with
        entries := w.entries.set f.entry e'
        fetch? := Function.update w.fetch? id none }

/-- Changes to the work, one after the other. -/
def Strides (event : Event) : Work → Work → Prop :=
  Relation.ReflTransGen (Stride event)

/-- What an event does to the work: a fetch has its answer, unless the event is none, and strides
follow. -/
def Passage (event : Event) (v w : Work) : Prop :=
  ∃ u, ((u = v ∧ ∀ id a f, event = .answer id a → v.fetch? id = some f →
      v.entries[f.entry]? = none) ∨
    ∃ id a, event = .answer id a ∧ Reply id a v u) ∧ Strides event u w

variable {event : Event} {u v w : Work} {c d : Catalog} {id : JobId} {s t : Stage}

theorem Strides.refl (w : Work) : Strides event w w :=
  Relation.ReflTransGen.refl

theorem Strides.trans (h : Strides event u v) (h' : Strides event v w) : Strides event u w :=
  Relation.ReflTransGen.trans h h'

theorem Stride.strides (h : Stride event v w) : Strides event v w :=
  Relation.ReflTransGen.single h

theorem Strides.passage (h : Strides event v w) (no : ∀ id a, event ≠ .answer id a) :
    Passage event v w :=
  ⟨v, .inl ⟨rfl, fun id a _ eq => absurd eq (no id a)⟩, h⟩

/-- The answer to a job that has no fetch under way. -/
theorem Strides.passage_of_idle {a : Answer} (h : Strides (.answer id a) c.work w)
    (hs : c.stage? id = some s) (idle : s.fetch? = none) : Passage (.answer id a) c.work w := by
  refine ⟨c.work, .inl ⟨rfl, ?_⟩, h⟩
  rintro _ _ f ⟨⟩ hf
  have none : c.fetch? id = none := by rw [fetch?, hs]; exact idle
  cases none.symm.trans hf

/-- What every stride keeps, strides one after the other keep. -/
theorem Strides.keep {p : Work → Prop} (step : ∀ v w, p v → Stride event v w → p w)
    (h : Strides event v w) (hv : p v) : p w := by
  induction h with
  | refl => exact hv
  | tail _ stride ih => exact step _ _ ih stride

/-! ## Stages -/

/-- A job that has come to another stage. -/
theorem work_setStage (hs : c.stage? id = some s) (t : Stage) :
    (c.setStage id t).work =
      { c.work with fetch? := Function.update c.fetch? id t.fetch? } := by
  have fetches : (c.setStage id t).fetch? = Function.update c.fetch? id t.fetch? := by
    funext j
    rw [fetch?, stage?_setStage]
    by_cases h : id = j
    · subst h
      rw [if_pos rfl, hs, Function.update_self]
      rfl
    · rw [if_neg h, Function.update_of_ne (Ne.symm h)]
      rfl
  show Work.mk _ (c.setStage id t).fetch? _ _ _ = _
  rw [fetches]
  rfl

/-- A job without a fetch goes on without one. -/
theorem work_setStage_of_idle (hs : c.stage? id = some s) (idle : s.fetch? = none)
    (idle' : t.fetch? = none) : (c.setStage id t).work = c.work := by
  have none : c.fetch? id = none := by rw [fetch?, hs]; exact idle
  rw [work_setStage hs, idle', ← none, Function.update_eq_self]
  rfl

/-- New jobs fetch nothing. -/
theorem work_enlist (c : Catalog) {ts : List Job} (starting : ∀ t ∈ ts, t.stage = .starting) :
    ({ c with jobs := c.jobs ++ ts } : Catalog).work = c.work := by
  have fetches : ({ c with jobs := c.jobs ++ ts } : Catalog).fetch? = c.fetch? := by
    funext j
    rw [fetch?, fetch?, stage?, stage?]
    by_cases lt : j < c.jobs.length
    · rw [List.getElem?_append_left lt]
    · have ge : c.jobs.length ≤ j := Nat.le_of_not_lt lt
      rw [List.getElem?_append_right ge, List.getElem?_eq_none ge]
      cases h : ts[j - c.jobs.length]? with
      | none => rfl
      | some t =>
          show t.stage.fetch? = none
          rw [starting t (List.mem_of_getElem? h)]
          rfl
  show Work.mk _ ({ c with jobs := c.jobs ++ ts } : Catalog).fetch? _ _ _ = _
  rw [fetches]
  rfl

/-! ## The end of a job -/

/-- A removal disposes of entries. -/
theorem strides_remove (c : Catalog) (path : Path) :
    Strides event c.work (c.remove path).1.work := by
  obtain ⟨rs, es, eq, hd⟩ := remove_spec c path
  rw [eq]
  exact (Stride.dispose c.work hd).strides

/-- So does a reset. -/
theorem strides_reset (c : Catalog) : Strides event c.work c.reset.work := by
  obtain ⟨es, he, hd, -⟩ := reset_spec c
  rw [he]
  exact (Stride.dispose c.work hd).strides

/-- A job that joins its parts disposes of what is to be removed, and fetches nothing. -/
theorem strides_joinParts (c : Catalog) (id : JobId) :
    Strides event c.work (c.joinParts id).work := by
  obtain eq | ⟨parts, plan, outcome, rs, es, ns, joining, hd, eq⟩ := joinParts_spec c id
  · rw [eq]
    exact .refl _
  · let removed : Catalog := { c with registered := rs, entries := es, notices := ns }
    have joining : removed.stage? id = some (.joining parts plan) := joining
    rw [eq, work_setStage_of_idle joining rfl rfl]
    exact (Stride.dispose c.work hd).strides

/-- The end of a job without a fetch. -/
theorem strides_complete (hs : c.stage? id = some s) (idle : s.fetch? = none) (outcome : Outcome) :
    Strides event c.work (c.complete id outcome).work := by
  have ended : (c.setStage id (.done outcome)).work = c.work := work_setStage_of_idle hs idle rfl
  rw [complete]
  split
  · rw [← ended]
    exact strides_joinParts _ _
  · rw [ended]
    exact .refl _

/-! ## Fetching -/

/-- What follows a fetch that is over. -/
theorem strides_afterFetch (hs : c.stage? id = some s) (idle : s.fetch? = none) (entry : EntryId)
    (result : Except Error Unit) (purpose : Purpose) :
    Strides event c.work (c.afterFetch id entry result purpose).work := by
  have ends : ∀ ns outcome, Strides event c.work ((c.notify ns).complete id outcome).work :=
    fun ns outcome => strides_complete (c := c.notify ns) hs idle outcome
  cases purpose with
  | construct slot =>
      let told := c.notify (fetchNotices (c.pathOf entry) result)
      show Strides event c.work (if (told.fill slot entry).isRegistered slot then
        (told.fill slot entry).complete id (.entry (some entry))
        else ((told.fill slot entry).disposeEntry entry).complete id (.entry none)).work
      split
      · exact strides_complete (c := told.fill slot entry) hs idle _
      · have gone : Strides event c.work ((told.fill slot entry).disposeEntry entry).work :=
          (Stride.dispose c.work (.modify _ entry)).strides
        exact gone.trans
          (strides_complete (c := (told.fill slot entry).disposeEntry entry) hs idle _)
  | refresh | saved => exact ends _ _
  | update =>
      cases result with
      | ok => exact ends _ _
      | error => exact strides_complete hs idle _
  | opened =>
      cases result with
      | ok => exact strides_complete hs idle _
      | error => exact ends _ _
  | direct => exact strides_complete hs idle _

/-- A fetch is started by a job that has none, unless the entry is disposed of. -/
theorem strides_startFetch (hs : c.stage? id = some s) (idle : s.fetch? = none) (entry : EntryId)
    (purpose : Purpose) : Strides event c.work (c.startFetch id entry purpose).work := by
  cases he : c.entries[entry]? with
  | none =>
      rw [startFetch, he]
      exact .refl _
  | some e =>
      cases live : e.isDisposed with
      | true =>
          rw [startFetch_of_disposed he live]
          exact strides_afterFetch hs idle _ _ _
      | false =>
          rw [startFetch_of_live he live,
            work_setStage (c := c.setEntry entry e.beginFetch) (by exact hs)]
          have none : c.work.fetch? id = none := by
            show c.fetch? id = none
            rw [fetch?, hs]
            exact idle
          exact (Stride.begin none he live).strides

/-- The end of a job does not depend on the stage before. -/
theorem complete_setStage (c : Catalog) (id : JobId) (t : Stage) (outcome : Outcome) :
    (c.setStage id t).complete id outcome = c.complete id outcome := by
  have same : (c.setStage id t).setStage id (.done outcome) = c.setStage id (.done outcome) := by
    simp only [setStage, List.modify_modify_eq]
    rfl
  rw [complete, complete, same]

/-- Neither does what follows a fetch. -/
theorem afterFetch_setStage (c : Catalog) (id : JobId) (t : Stage) (entry : EntryId)
    (result : Except Error Unit) (purpose : Purpose) :
    (c.setStage id t).afterFetch id entry result purpose =
      c.afterFetch id entry result purpose := by
  have ends : ∀ ns outcome, ((c.setStage id t).notify ns).complete id outcome =
      (c.notify ns).complete id outcome := fun ns outcome => complete_setStage (c.notify ns) id t _
  cases purpose with
  | construct slot =>
      let told := (c.notify (fetchNotices (c.pathOf entry) result)).fill slot entry
      show (if told.isRegistered slot then
          (told.setStage id t).complete id (.entry (some entry))
        else ((told.disposeEntry entry).setStage id t).complete id (.entry none)) =
        if told.isRegistered slot then told.complete id (.entry (some entry))
        else (told.disposeEntry entry).complete id (.entry none)
      rw [complete_setStage, complete_setStage]
  | refresh | saved => exact ends _ _
  | update =>
      cases result with
      | ok => exact ends _ _
      | error => exact complete_setStage c id t _
  | opened =>
      cases result with
      | ok => exact complete_setStage c id t _
      | error => exact ends _ _
  | direct => exact complete_setStage c id t _

/-- An answer to a fetch: it goes on, fails or lands. -/
theorem passage_resumeFetch {f : Fetch} {purpose : Purpose} {a : Answer}
    (hs : c.stage? id = some (.fetching f purpose)) :
    Passage (.answer id a) c.work (c.resumeFetch id f purpose a).work := by
  have reply : ∀ {u w}, Reply id a c.work u → Strides (.answer id a) u w →
      Passage (.answer id a) c.work w :=
    fun {u w} h h' => ⟨u, .inr ⟨id, a, rfl, h⟩, h'⟩
  cases he : c.entries[f.entry]? with
  | none =>
      -- of an entry that is not there a fetch is not told anything
      rw [resumeFetch, he]
      refine ⟨c.work, .inl ⟨rfl, ?_⟩, .refl _⟩
      rintro _ _ g ⟨⟩ (hg : c.fetch? id = some g)
      rw [fetch?, hs] at hg
      cases hg
      exact he
  | some e =>
      have under : c.work.fetch? id = some f := by
        show c.fetch? id = some f
        rw [fetch?, hs]
        rfl
      -- once its fetch is over a job goes on like one that has none
      have follows : ∀ (e' : Entry) (ns : List Notice) (result : Except Error Unit),
          Strides (.answer id a)
            { c.work with
              entries := c.entries.set f.entry e'
              fetch? := Function.update c.fetch? id none }
            (((c.setEntry f.entry e').notify ns).afterFetch id f.entry result purpose).work := by
        intro e' ns result
        let after := (c.setEntry f.entry e').notify ns
        have hs' : after.stage? id = some (.fetching f purpose) := hs
        have ended : (after.setStage id (.done .unit)).work =
            { c.work with
              entries := c.entries.set f.entry e'
              fetch? := Function.update c.fetch? id none } := work_setStage hs' (.done .unit)
        rw [← afterFetch_setStage after id (.done .unit), ← ended]
        refine strides_afterFetch (s := .done .unit) ?_ rfl _ _ _
        rw [stage?_setStage, if_pos rfl, hs']
        rfl
      have self : c.entries.set f.entry e = c.entries := by
        obtain ⟨_, rfl⟩ := List.getElem?_eq_some_iff.mp he
        exact List.set_getElem_self _
      rw [resumeFetch, he]
      dsimp only
      -- the fetch goes on, fails or lands
      obtain ⟨ns, stage, hr⟩ | ⟨ns, error, hr⟩ |
          ⟨stat, links, sources, e', at_, rfl, installs, hr⟩ :=
        f.resume_cases e c.config.maxFileBytes (c.rootOf e.scope) a
      · rw [hr]
        dsimp only
        rw [setEntry, self, work_setStage (c := c.notify ns) hs]
        exact reply (.advance under he hr) (.refl _)
      · rw [hr]
        have := follows e ns (.error error)
        rw [self] at this
        exact reply (.fail under he hr) this
      · rw [hr]
        exact reply (.land rfl under at_ he installs) (follows e' [] (.ok ()))

/-! ## Creating entries -/

/-- A job takes the entry that its slot holds. -/
theorem strides_share (hs : c.stage? id = some s) (idle : s.fetch? = none) (slot : SlotId)
    (entry : EntryId) (path : Path) (byPath : Bool) :
    Strides event c.work (c.share id slot entry path byPath).work := by
  rw [share]
  split
  · exact strides_complete hs idle _
  · split
    · exact strides_startFetch hs idle _ _
    · exact strides_complete hs idle _

theorem strides_createAt (hs : c.stage? id = some s) (idle : s.fetch? = none) (kind : EntryKind)
    (path : Path) (byPath : Bool) : Strides event c.work (c.createAt id kind path byPath).work := by
  cases found : c.find? path with
  | none =>
      rw [createAt_of_none found]
      -- the new entry is added, and its first fetch is started
      let e : Entry := { kind := kind, path := path, scope := .registry }
      let added : Work := { c.work with entries := c.entries ++ [e] }
      have none : added.fetch? id = none := by
        show c.fetch? id = none
        rw [fetch?, hs]
        exact idle
      have there : added.entries[c.entries.length]? = some e := by simp [added]
      have begins : Stride event added _ := .begin none there rfl
      refine ((Stride.add c.work kind path .registry).strides.trans begins.strides).trans ?_
      have first : e.beginFetch.fetches = 1 := by
        show ({ kind := kind, path := path, scope := .registry } : Entry).beginFetch.fetches = 1
        cases kind <;> rfl
      have opens : (c.opened id kind path).work = { added with
          entries := (c.entries ++ [e]).set c.entries.length e.beginFetch
          fetch? := Function.update c.fetch? id
            (some ⟨c.entries.length, 1, c.clock, .stat⟩) } := by
        rw [List.set_append_right _ _ (Nat.le_refl _), Nat.sub_self, List.set_cons_zero]
        show ({ c.opened id kind path with jobs := _ } : Catalog).work = _
        exact work_setStage (c := { c.opened id kind path with jobs := c.jobs })
          (by exact hs)
          (.fetching ⟨c.entries.length, 1, c.clock, .stat⟩ (.construct c.slots.length))
      rw [opens, first]
      exact .refl _
  | some found' =>
      obtain ⟨slot, x⟩ := found'
      rw [createAt_of_some found]
      split
      · cases x.entry with
        | none =>
            dsimp only
            rw [work_setStage_of_idle hs idle rfl]
            exact .refl _
        | some entry => exact strides_share hs idle _ _ _ _
      · exact strides_complete (c := c.notify _) hs idle _

/-- To create an entry is to add it and to begin its first fetch, at most. -/
theorem strides_startCreate (hs : c.stage? id = some s) (idle : s.fetch? = none) (kind : EntryKind)
    (path : Path) (byPath : Bool) :
    Strides event c.work (c.startCreate id kind path byPath).work := by
  cases byPath with
  | true =>
      show Strides event c.work (c.setStage id (.resolving kind path)).work
      rw [work_setStage_of_idle hs idle rfl]
      exact .refl _
  | false => exact strides_createAt hs idle kind path false

/-! ## Checks -/

/-- A check begins a fetch at most, or waits. -/
theorem strides_startCheck (hs : c.stage? id = some s) (idle : s.fetch? = none) (entry : EntryId) :
    Strides event c.work (c.startCheck id entry).work := by
  rw [startCheck]
  split
  · exact strides_complete hs idle _
  · rw [work_setStage_of_idle hs idle rfl]
    exact .refl _

/-- A check that was told the time of its file may begin a fetch or dispose of the entry. -/
theorem strides_afterStat (hs : c.stage? id = some s) (idle : s.fetch? = none) (entry : EntryId)
    (result : Except Error FileStat) :
    Strides event c.work (c.afterStat id entry result).work := by
  cases result with
  | error error =>
      simp only [afterStat]
      split
      · have gone : Strides event c.work
            ((c.notify [.stylesheetGone (c.pathOf entry)]).disposeEntry entry).work :=
          (Stride.dispose c.work (.modify _ entry)).strides
        exact gone.trans (strides_complete (c := (c.notify _).disposeEntry entry) hs idle _)
      · exact strides_complete hs idle _
  | ok stat =>
      simp only [afterStat]
      split
      · exact strides_startFetch hs idle _ _
      · exact strides_complete hs idle _

/-! ## Jobs with parts -/

/-- A part begins a fetch at most. -/
theorem strides_startPart (hs : c.stage? id = some s) (idle : s.fetch? = none) (part : Part) :
    Strides event c.work (c.startPart id part).work := by
  cases part with
  | create path byPath => exact strides_startCreate hs idle .css path byPath
  | check entry => exact strides_startCheck hs idle entry

/-- Each part is started in its turn, and has not started before. -/
theorem strides_startPartsFrom (parts : List Part) (c : Catalog) (first : Nat)
    (starting : ∀ i < parts.length, c.stage? (first + i) = some .starting) :
    Strides event c.work (c.startPartsFrom first parts).work := by
  induction parts generalizing c first with
  | nil => exact .refl _
  | cons part rest ih =>
      have hs : c.stage? first = some .starting := starting 0 (by simp)
      exact (strides_startPart hs rfl part).trans
        (ih _ (first + 1) (starting_startPart starting part))

/-- So do several of them, one after another. -/
theorem strides_startParts (hs : c.stage? id = some s) (idle : s.fetch? = none)
    (parts : List Part) (plan : Plan) :
    Strides event c.work (c.startParts id parts plan).work := by
  have waits : (c.enlisted id parts plan).work = c.work := by
    rw [enlisted, work_setStage_of_idle (stage?_append _ hs) idle rfl]
    exact work_enlist c fun t ht => by rw [List.eq_of_mem_replicate ht]
  rw [startParts_eq]
  refine Strides.trans ?_ (strides_joinParts _ _)
  rw [← waits]
  exact strides_startPartsFrom parts _ _ fun _ hi => stage?_enlisted hs hi

/-- A scan begins the fetches of what it has found. -/
theorem strides_scan (hs : c.stage? id = some s) (idle : s.fetch? = none) (root : Path)
    (found pending : List Path) : Strides event c.work (c.scan id root found pending).work := by
  cases pending with
  | nil => exact strides_startParts hs idle _ _
  | cons dir pending =>
      show Strides event c.work (c.setStage id (.scanning root (dir :: pending) found)).work
      rw [work_setStage_of_idle hs idle rfl]
      exact .refl _

/-! ## Going on -/

/-- An answer has its effect on the fetch, and then what follows from it. -/
theorem passage_resume {a : Answer} (expected : c.expects id a = true) :
    Passage (.answer id a) c.work (c.resume id a).work := by
  unfold expects at expected
  unfold resume
  split at expected
  · next kind path result hs =>
      refine Strides.passage_of_idle ?_ hs rfl
      cases result with
      | ok file => exact strides_createAt hs rfl kind file true
      | error error => exact strides_complete (c := c.notify _) hs rfl _
  · next f purpose a hs =>
      exact passage_resumeFetch hs
  · next entry result hs =>
      exact (strides_afterStat hs rfl entry result).passage_of_idle hs rfl
  · next root dir pending found result hs =>
      refine Strides.passage_of_idle ?_ hs rfl
      cases result with
      | ok members => exact strides_scan hs rfl root _ _
      | error error => exact strides_scan (c := c.notify _) hs rfl root found pending
  · cases expected

/-- A job that is woken fetches nothing. -/
theorem strides_wake? {c' : Catalog} (h : c.wake? id = some c') : Strides event c.work c'.work := by
  rw [wake?] at h
  split at h
  · next slot path byPath hs =>
      obtain ⟨entry, -, rfl⟩ := Option.map_eq_some_iff.mp h
      exact strides_share hs rfl slot entry path byPath
  · cases h

/-- A new job fetches nothing. -/
theorem work_addJob (c : Catalog) (ofCatalog : Bool) :
    (c.addJob { stage := .starting, ofCatalog := ofCatalog }).1.work = c.work :=
  work_enlist c (by simp)

/-- A listener begins the fetches of what it attaches. -/
theorem strides_listen? {c' : Catalog} {i : Nat} (h : c.listen? i = some c') :
    Strides event c.work c'.work := by
  obtain ⟨l, e, heard, seen, -, -, -, -, rfl⟩ := listen?_some h
  cases heard with
  | fetchComplete links =>
      simp only [hear]
      split
      · let added := (c.addJob { stage := .starting }).1
        let l' : Listener := { l with seen := seen, busy := some c.jobs.length }
        have same : (added.setListener i l').work = c.work := work_addJob c true
        rw [← same]
        exact strides_startParts (c := added.setListener i l') (stage?_addJob c true) rfl _ _
      · exact .refl _
  | disposed =>
      simp only [hear]
      split <;> exact .refl _

/-- A tick begins the fetches of a check. -/
theorem strides_tick? {c' : Catalog} {i : Nat} (h : c.tick? i = some c') :
    Strides event c.work c'.work := by
  cases ticks_of_tick? h with
  | @begins deadline =>
      have same : (c.readied i deadline).work = c.work := work_addJob c true
      rw [← same]
      exact strides_startParts (stage?_readied c i deadline) rfl _ _
  | deserts | ends => exact .refl _

/-- A call is started as a new job. -/
theorem strides_start (c : Catalog) (call : Call) :
    Strides (.call call) c.work (c.start call).1.work := by
  let added := (c.addJob { stage := .starting, ofCatalog := call.ofCatalog }).1
  have hs : added.stage? c.jobs.length = some .starting := stage?_addJob c call.ofCatalog
  have same : added.work = c.work := work_addJob c call.ofCatalog
  rw [← same]
  cases call with
  | create kind path byPath => exact strides_startCreate hs rfl kind path byPath
  | saved path =>
      dsimp only [start]
      split
      · exact strides_startFetch hs rfl _ _
      · exact strides_complete hs rfl _
  | checkAll => exact strides_startParts hs rfl _ _
  | change change =>
      show Strides _ added.work (added.startChange c.jobs.length change).work
      rw [startChange]
      split
      · exact strides_complete hs rfl _
      · exact strides_startParts (c := added.notify _) hs rfl _ _
  -- the registry is emptied, then the root set, then the scan begun
  | openProject root =>
      let moved : Catalog := { added.reset with root := some root }
      have hs' : moved.stage? c.jobs.length = some .starting :=
        (congrFun (stage?_reset added) _).trans hs
      have roots : Stride (.call (.openProject root)) added.reset.work moved.work :=
        .root added.reset.work moved.rootOf rfl
      exact ((strides_reset added).trans roots.strides).trans (strides_scan hs' rfl root [] [root])
  | fetch entry => exact strides_startFetch hs rfl _ _
  | check entry => exact strides_startCheck hs rfl entry
  -- the entry is added before its fetch begins
  | openStandalone path =>
      have adds : Stride (.call (.openStandalone path)) added.work
          (added.addStandalone .css path).1.work := .add added.work .css path .standalone
      exact adds.strides.trans
        (strides_startFetch (c := (added.addStandalone .css path).1) hs rfl _ _)

/-- The stop of a checker may give fetches up, and changes no entry. -/
theorem stopChecker_work (c : Catalog) (i : Nat) :
    ∃ fetches, (c.stopChecker i).work = { c.work with fetch? := fetches } ∧
      ∀ j, fetches j = c.fetch? j ∨ fetches j = none := by
  refine ⟨(c.stopChecker i).fetch?, ?_, fun j => ?_⟩
  · rw [stopChecker]
    split <;> rfl
  · rw [stopChecker]
    split
    · next deadline job _ =>
        rw [fetch?, stage?_abandon, fetch?, stage?]
        show ((c.jobs[j]?).map _).bind Stage.fetch? = _ ∨ ((c.jobs[j]?).map _).bind _ = _
        cases c.jobs[j]? with
        | none => exact .inl rfl
        | some t =>
            simp only [Option.map_some, Option.bind_some]
            split
            · exact .inr rfl
            · exact .inl rfl
    · exact .inl rfl

/-- Every event but the stop of a checker brings at most one fetch its answer, and makes strides. -/
theorem step?_passage (h : c.step? event = some d) (go : ∀ i, event ≠ .stopChecker i) :
    Passage event c.work d.work := by
  cases event with
  | call call =>
      cases h
      exact (strides_start c call).passage (by simp)
  | answer job a =>
      simp only [step?] at h
      split at h
      · next expected =>
          cases h
          exact passage_resume expected
      · cases h
  | wake job => exact (strides_wake? h).passage (by simp)
  | listen i => exact (strides_listen? h).passage (by simp)
  | tick i => exact (strides_tick? h).passage (by simp)
  | remove path =>
      cases h
      exact (strides_remove c path).passage (by simp)
  | reset =>
      cases h
      exact (strides_reset c).passage (by simp)
  | disposeEntry entry =>
      cases h
      exact (Stride.dispose c.work (.modify _ entry)).strides.passage (by simp)
  | clearEntry entry =>
      cases h
      exact (Stride.clear c.work entry rfl).strides.passage (by simp)
  | addStandalone kind path =>
      cases h
      exact (Stride.add c.work kind path .standalone).strides.passage (by simp)
  -- this event is no passage: jobs may end without an answer
  | stopChecker i => exact absurd rfl (go i)
  | startChecker | drop | pass ms =>
      cases h
      exact (Strides.refl _).passage (by simp)
  | clock time =>
      simp only [step?] at h
      split at h
      · next le =>
          cases h
          exact (Stride.time c.work rfl le).strides.passage (by simp)
      · cases h

end Catalog

end SelectorCatalog
