import Mathlib.Data.List.Induction
import Mathlib.Data.List.Nodup
import SelectorCatalog.Proofs.Catalog.Serving
import SelectorCatalog.Proofs.Catalog.Source
import SelectorCatalog.Proofs.Entry.Overlap

/-!
# Checking a stylesheet

A check asks for the age of a file and fetches the file again when that age is later than the start
of the fetch behind the index. Which fetch that is follows from the run: of all that have landed
(`landings`), the one that was started last. The age that the index was built from is kept as well,
and plays no part.

* `Landed`: what an entry keeps of the fetches that have landed.
* `step?_checking`: what may happen to a job that checks.
* `check_fetches_iff_newer` says when a check fetches, and what the next check finds.
-/

namespace SelectorCatalog.Catalog

open Job (Outcome Purpose Plan Stage)

/-- A fetch that has ended well: its number, when it was started, and the age of the file then. -/
structure Landing where
  generation : Nat
  started : Time
  modified : Time
deriving DecidableEq, Repr

/-- The fetch of an entry that an event brings to a good end, if it does. -/
def landing? (c : Catalog) (id : EntryId) : Event → Option Landing
  | .answer job .built => (c.fetch? job).bind fun f =>
    match f.stage with
    | .build stat _ _ =>
      if f.entry == id && (c.entries[id]?).any (!·.isDisposed) then
        some ⟨f.generation, f.started, stat.modified⟩
      else none
    | _ => none
  | _ => none

/-- All fetches of an entry that end well along a run, oldest end first. -/
def landings (id : EntryId) (c : Catalog) : List Event → List Landing
  | [] => []
  | event :: events => (c.landing? id event).toList ++
    match c.step? event with
    | some d => landings id d events
    | none => []

/-- Whether a file of that age is newer than the last started of some fetches, or there is none. -/
def Outdated (ls : List Landing) (modified : Time) : Prop :=
  ls = [] ∨ ∃ l ∈ ls, (∀ k ∈ ls, k.generation ≤ l.generation) ∧ l.started < modified

instance (ls : List Landing) (modified : Time) : Decidable (Outdated ls modified) :=
  inferInstanceAs (Decidable (_ ∨ _))

/-- An entry keeps the number and the times of the last started of some fetches. -/
def Keeps (ls : List Landing) (e : Entry) : Prop :=
  (ls = [] ∧ e.indexedAt = none) ∨
    ∃ l ∈ ls, (∀ k ∈ ls, k.generation ≤ l.generation) ∧ e.installed = l.generation ∧
      e.timestamp = some l.modified ∧ e.indexedAt = some l.started

/-- The fetches of an entry that have landed so far: they are numbered apart, also from those under
way, and the entry keeps the last of them. -/
structure Landed (id : EntryId) (ls : List Landing) (w : Work) : Prop where
  nodup : (ls.map Landing.generation).Nodup
  known : ∀ {l}, l ∈ ls → ∃ e : Entry, w.entries[id]? = some e ∧ l.generation ≤ e.fetches
  apart : ∀ {l j f}, l ∈ ls → w.fetch? j = some f → f.entry = id → l.generation ≠ f.generation
  keeps : ∀ {e : Entry}, w.entries[id]? = some e → Keeps ls e

variable {event : Event} {v w : Work} {c d : Catalog} {id : EntryId} {job : JobId} {s : Stage}
  {ls : List Landing}

/-! ## Landings along a run -/

/-- The landings of a longer run are those of its events. -/
theorem landings_append {events : List Event} (run : Run c events d) (event : Event) :
    landings id c (events ++ [event]) = landings id c events ++ (d.landing? id event).toList := by
  induction run with
  | nil c =>
      show (c.landing? id event).toList ++ _ = _
      cases c.step? event <;> simp [landings]
  | @cons c d e first events step run ih =>
      simp only [List.cons_append, landings, step, List.append_assoc]
      rw [ih]

/-- No stride touches the dates of an entry, and a new entry has none. -/
theorem Stride.dates (h : Stride event v w) {d : Entry} (hd : w.entries[id]? = some d) :
    (∃ e : Entry, v.entries[id]? = some e ∧ e.fetches ≤ d.fetches ∧ d.installed = e.installed ∧
        d.timestamp = e.timestamp ∧ d.indexedAt = e.indexedAt) ∨
      id = v.entries.length ∧ d.indexedAt = none := by
  cases h with
  | time | root => exact .inl ⟨d, hd, Nat.le_refl _, rfl, rfl, rfl⟩
  | add kind path scope =>
      rcases getElem?_concat hd with hd | ⟨new, rfl⟩
      · exact .inl ⟨d, hd, Nat.le_refl _, rfl, rfl, rfl⟩
      · exact .inr ⟨new, rfl⟩
  | dispose disposals =>
      obtain ⟨e, he, -⟩ := disposals.turns.origin hd
      left
      rcases disposals.2 id e he with hd' | hd' <;>
        obtain rfl := Option.some.inj (hd.symm.trans hd')
      · exact ⟨_, he, Nat.le_refl _, rfl, rfl, rfl⟩
      · refine ⟨e, he, ?_⟩
        rw [Entry.dispose]
        split <;> exact ⟨Nat.le_refl _, rfl, rfl, rfl⟩
  | clear entry =>
      rw [List.getElem?_modify] at hd
      obtain ⟨e, he, rfl⟩ := Option.map_eq_some_iff.mp hd
      refine .inl ⟨e, he, ?_⟩
      split <;> exact ⟨Nat.le_refl _, rfl, rfl, rfl⟩
  | @begin _ entry e _ he =>
      rcases getElem?_set_cases hd with ⟨rfl, rfl⟩ | ⟨-, hd⟩
      · refine .inl ⟨e, he, ?_⟩
        rw [Entry.beginFetch]
        cases e.kind <;> exact ⟨Nat.le_succ _, rfl, rfl, rfl⟩
      · exact .inl ⟨d, hd, Nat.le_refl _, rfl, rfl, rfl⟩

/-- A fetch is under way already, or it is at its beginning and has the next number of its entry. -/
theorem Stride.fetch (h : Stride event v w) {j : JobId} {f : Fetch} (hf : w.fetch? j = some f) :
    v.fetch? j = some f ∨ f.stage = .stat ∧
      ∃ e : Entry, v.entries[f.entry]? = some e ∧ f.generation = e.fetches + 1 := by
  cases h with
  | begin _ he =>
      rcases update_some_cases hf with ⟨-, rfl⟩ | ⟨-, hf⟩
      · exact .inr ⟨rfl, _, he, Entry.fetches_beginFetch _⟩
      · exact .inl hf
  | time | root | add | dispose | clear => exact .inl hf

namespace Landed

theorem stride (h : Landed id ls v) (stride : Stride event v w) : Landed id ls w where
  nodup := h.nodup
  known {l} mem := by
    obtain ⟨e, he, le⟩ := h.known mem
    obtain ⟨d, hd, -⟩ := stride.ages.old he
    refine ⟨d, hd, ?_⟩
    obtain ⟨e', he', more, -⟩ | ⟨new, -⟩ := stride.dates hd
    · obtain rfl := Option.some.inj (he.symm.trans he')
      exact Nat.le_trans le more
    · simp [new] at he
  apart {l j f} mem hf entry := by
    obtain hf | ⟨-, e, he, next⟩ := stride.fetch hf
    · exact h.apart mem hf entry
    · obtain ⟨e', he', le⟩ := h.known mem
      rw [entry] at he
      obtain rfl := Option.some.inj (he.symm.trans he')
      rw [next]
      exact Nat.ne_of_lt (Nat.lt_succ_of_le le)
  keeps {d} hd := by
    obtain ⟨e, he, -, installed, timestamp, indexedAt⟩ | ⟨new, none⟩ := stride.dates hd
    · rw [Keeps, installed, timestamp, indexedAt]
      exact h.keeps he
    · -- nothing has landed in an entry that was not there
      left
      refine ⟨?_, none⟩
      rw [List.eq_nil_iff_forall_not_mem]
      intro l mem
      obtain ⟨e, he, -⟩ := h.known mem
      simp [new] at he

/-- A fetch that goes on or fails does not land. -/
theorem refetch (h : Landed id ls v) {fetches : JobId → Option Fetch}
    (same : ∀ j f, fetches j = some f → ∃ g, v.fetch? j = some g ∧ g.entry = f.entry ∧
      g.generation = f.generation) : Landed id ls { v with fetch? := fetches } where
  nodup := h.nodup
  known := h.known
  apart {l j f} mem hf entry := by
    obtain ⟨g, hg, eq, generation⟩ := same j f hf
    rw [← generation]
    exact h.apart mem hg (eq.trans entry)
  keeps := h.keeps

/-- A fetch of the entry lands: what it found is kept unless it is that of an earlier fetch. -/
theorem land (h : Landed id ls v) (orderly : v.Orderly) {f : Fetch} (hf : v.fetch? job = some f)
    (entry : f.entry = id) {e e' : Entry} (he : v.entries[id]? = some e) {found : Entry.Finding}
    (installs : e.install f.generation found = .ok e') :
    Landed id (ls ++ [⟨f.generation, found.started, found.modified⟩])
      { v with
        entries := v.entries.set id e'
        fetch? := Function.update v.fetch? job none } := by
  obtain ⟨-, fetches, became⟩ := Entry.install_ok installs
  have there : (v.entries.set id e')[id]? = some e' := by
    rw [List.getElem?_set_self (List.getElem?_eq_some_iff.mp he).1]
  have fresh : ∀ l ∈ ls, l.generation ≠ f.generation := fun l mem => h.apart mem hf entry
  constructor
  -- its generation differs from those that landed before
  · rw [List.map_append, List.nodup_append]
    refine ⟨h.nodup, List.nodup_singleton _, ?_⟩
    rintro g mem _ mem' rfl
    obtain ⟨l, hl, rfl⟩ := List.mem_map.mp mem
    exact fresh l hl (List.mem_singleton.mp mem')
  -- the entry knows of the landings before, and of its own fetches
  · intro l mem
    refine ⟨e', there, ?_⟩
    rw [fetches]
    rcases List.mem_append.mp mem with mem | mem
    · obtain ⟨x, hx, le⟩ := h.known mem
      obtain rfl := Option.some.inj (hx.symm.trans he)
      exact le
    · obtain ⟨x, hx, le⟩ := orderly.known hf
      rw [entry] at hx
      obtain rfl := Option.some.inj (hx.symm.trans he)
      -- a fetch under way that landed before differs from this one
      rw [List.mem_singleton.mp mem]
      exact le
  · intro l j g mem hg eq
    obtain ⟨ne, hg⟩ := update_none_some hg
    rcases List.mem_append.mp mem with mem | mem
    · exact h.apart mem hg eq
    · rw [List.mem_singleton.mp mem]
      intro same
      exact ne (orderly.apart hg hf (eq.trans entry.symm) same.symm)
  -- the latest of the landings is the one that the entry shows
  · intro d hd
    obtain rfl := Option.some.inj (there.symm.trans hd)
    have kept := h.keeps he
    right
    obtain ⟨early, rfl⟩ | ⟨le, installed, -, -, timestamp, indexedAt⟩ := became
    · -- a later fetch has landed before
      obtain ⟨rfl, none⟩ | ⟨l, mem, latest, installed, times⟩ := kept
      · rw [orderly.dated he none] at early
        cases early
      · refine ⟨l, List.mem_append_left _ mem, ?_, installed, times⟩
        intro k hk
        rcases List.mem_append.mp hk with hk | hk
        · exact latest k hk
        · rw [List.mem_singleton.mp hk, ← installed]
          exact Nat.le_of_lt early
    · refine ⟨⟨f.generation, found.started, found.modified⟩, by simp, ?_, installed, timestamp,
        indexedAt⟩
      intro k hk
      rcases List.mem_append.mp hk with hk | hk
      · obtain ⟨rfl, -⟩ | ⟨l, -, latest, before, -⟩ := kept
        · cases hk
        · exact Nat.le_trans (latest k hk) (before ▸ le)
      · obtain rfl := List.mem_singleton.mp hk
        exact Nat.le_refl _

end Landed

/-- A live entry refuses nothing. -/
theorem install_of_live {e : Entry} (live : e.isDisposed = false) (generation : Nat)
    (found : Entry.Finding) : ∃ e', e.install generation found = .ok e' := by
  rw [Entry.install, if_neg (by simp [live])]
  split
  · exact ⟨e, rfl⟩
  · dsimp only
    split <;> exact ⟨_, rfl⟩

/-- Only a fetch that ends well lands. -/
theorem landing?_eq_none {f : Fetch} {e : Entry} {a : Answer} (hf : c.fetch? job = some f)
    (he : c.entries[f.entry]? = some e) {limit : Nat} {root : Option Path}
    (no : (f.resume e limit root a).2.2 ≠ .finished (.ok ())) :
    c.landing? id (.answer job a) = none := by
  cases a with
  | built =>
      simp only [landing?, hf, Option.bind_some]
      split
      · next stat links sources at_ =>
          split
          · next lands =>
              simp only [Bool.and_eq_true, beq_iff_eq] at lands
              obtain ⟨rfl, there⟩ := lands
              simp only [he, Option.any_some, Bool.not_eq_true'] at there
              obtain ⟨e', installs⟩ := install_of_live there f.generation
                ⟨Fetch.indexOf sources, links, stat.modified, f.started⟩
              refine absurd ?_ no
              simp [Fetch.resume, at_, installs]
          · rfl
      · rfl
  | resolved | stat | text | listing | parsed => rfl

/-- Nothing lands in most events. -/
theorem Landed.of_none (h : Landed id ls w) (none : c.landing? id event = none) :
    Landed id (ls ++ (c.landing? id event).toList) w := by
  rw [none]
  show Landed id (ls ++ []) w
  rwa [List.append_nil]

/-- Other entries do not matter. -/
theorem Landed.elsewhere (h : Landed id ls v) {es : List Entry} (same : es[id]? = v.entries[id]?) :
    Landed id ls { v with entries := es } where
  nodup := h.nodup
  known mem := by
    obtain ⟨e, he, le⟩ := h.known mem
    exact ⟨e, same.trans he, le⟩
  apart := h.apart
  keeps he := h.keeps (same.symm.trans he)

/-- An answer brings in the fetch that it ends, if it ends it well. -/
theorem Landed.reply (h : Landed id ls c.work) (orderly : c.work.Orderly) {a : Answer}
    (reply : Reply job a c.work w) :
    Landed id (ls ++ (c.landing? id (.answer job a)).toList) w := by
  have ends : Landed id ls { c.work with fetch? := Function.update c.work.fetch? job none } :=
    h.refetch fun j g hg => ⟨g, (update_none_some hg).2, rfl, rfl⟩
  cases reply with
  | @advance f e _ stage under he hr =>
      have goes : Landed id ls { c.work with
          fetch? := Function.update c.work.fetch? job (some { f with stage := stage }) } := by
        refine h.refetch fun j g hg => ?_
        rcases update_some_cases hg with ⟨rfl, rfl⟩ | ⟨-, hg⟩
        · exact ⟨f, under, rfl, rfl⟩
        · exact ⟨g, hg, rfl, rfl⟩
      exact goes.of_none (landing?_eq_none under he (by rw [hr]; simp))
  | @fail f e _ error under he hr =>
      exact ends.of_none (landing?_eq_none under he (by rw [hr]; simp))
  | @land f e e' stat links sources built under at_ he installs =>
      subst built
      have under' : c.fetch? job = some f := under
      have live := (Entry.install_ok installs).1
      by_cases entry : f.entry = id
      · subst entry
        have there : c.entries[f.entry]? = some e := he
        have lands : c.landing? f.entry (.answer job .built) =
            some ⟨f.generation, f.started, stat.modified⟩ := by
          simp [landing?, under', at_, there, live]
        rw [lands]
        exact h.land orderly under rfl he installs
      · -- the fetch is that of another entry
        have same : (c.entries.set f.entry e')[id]? = c.entries[id]? := List.getElem?_set_ne entry
        exact (ends.elsewhere same).of_none (by simp [landing?, under', at_, entry])

/-- Every event brings in at most one landing. -/
theorem landed_step? (h : Landed id ls c.work) (orderly : c.work.Orderly)
    (step : c.step? event = some d) : Landed id (ls ++ (c.landing? id event).toList) d.work := by
  by_cases stop : ∃ i, event = .stopChecker i
  · obtain ⟨i, rfl⟩ := stop
    cases step
    obtain ⟨fetches, work, given⟩ := stopChecker_work c i
    rw [work]
    refine Landed.of_none (h.refetch fun j f hf => ⟨f, ?_, rfl, rfl⟩) rfl
    rcases given j with same | none
    · exact same.symm.trans hf
    · cases none.symm.trans hf
  · obtain ⟨u, replied, strides⟩ := step?_passage step fun i eq => stop ⟨i, eq⟩
    refine strides.keep (fun _ _ h stride => h.stride stride) ?_
    obtain ⟨rfl, no⟩ | ⟨job, a, rfl, reply⟩ := replied
    · -- who answers nobody's fetch brings nothing in
      refine h.of_none ?_
      cases event with
      | answer job a =>
          cases hf : c.fetch? job with
          | none => cases a <;> simp [landing?, hf]
          | some f =>
              obtain ⟨e, he, -⟩ := orderly.known hf
              cases he.symm.trans (no job a f rfl hf)
      | _ => rfl
    · exact h.reply orderly reply

/-- Along every run an entry keeps the last started of the fetches that have landed. -/
theorem landed_of_run {config : Config} {clock : Time} {events : List Event}
    (run : Run (new config clock) events c) :
    Landed id (landings id (new config clock) events) c.work := by
  induction events using List.reverseRecOn generalizing c with
  | nil =>
      cases run
      constructor <;> simp [landings, work, new]
  | append_singleton events event ih =>
      obtain ⟨b, before, step⟩ := run.split_last
      rw [landings_append before]
      exact landed_step? (ih before) (orderly_of_run before) step

/-- The file is newer than the last fetch exactly when the entry is stale. -/
theorem Landed.outdated_iff (h : Landed id ls w) {e : Entry} (he : w.entries[id]? = some e)
    (modified : Time) : Outdated ls modified ↔ e.isStale modified = true := by
  rw [Entry.isStale]
  obtain ⟨rfl, none⟩ | ⟨l, mem, latest, -, -, indexedAt⟩ := h.keeps he
  · rw [none]
    exact ⟨fun _ => rfl, fun _ => .inl rfl⟩
  · rw [indexedAt, Option.all_some, decide_eq_true_iff]
    constructor
    · rintro (rfl | ⟨k, hk, latest', lt⟩)
      · cases mem
      · -- the last started fetch is one only
        have same : k.generation = l.generation := Nat.le_antisymm (latest k hk) (latest' l mem)
        obtain rfl := List.inj_on_of_nodup_map h.nodup hk mem same
        exact lt
    · exact fun lt => .inr ⟨l, mem, latest, lt⟩

/-! ## What may happen to a check -/

/-- The end of a job disposes of entries at most. -/
theorem complete_entries (c : Catalog) (id : JobId) (outcome : Outcome) :
    Entry.Disposals c.entries (c.complete id outcome).entries := by
  rw [complete]
  split
  · next parent _ =>
      obtain eq | ⟨_, _, _, rs, es, ns, -, hd, eq⟩ :=
        joinParts_spec (c.setStage id (.done outcome)) parent
      · rw [eq]
        exact .refl _
      · rw [eq]
        exact hd
  · exact .refl _

/-- What is live at the end of a job was there before. -/
theorem entry_of_complete {e : Entry} {outcome : Outcome}
    (he : (c.complete job outcome).entries[id]? = some e) (live : e.isDisposed = false) :
    c.entries[id]? = some e := by
  have disposals := complete_entries c job outcome
  obtain ⟨x, hx, -⟩ := disposals.turns.origin he
  rcases disposals.2 id x hx with h | h
  · rw [hx, ← h, he]
  · rw [Option.some.inj (he.symm.trans h), Entry.isDisposed_dispose] at live
    cases live

/-- A job that checks goes on with the age of the file alone. -/
theorem step?_checking (hs : c.stage? job = some (.checking id)) (step : c.step? event = some d) :
    (∃ result, event = .answer job (.stat result) ∧ d = c.afterStat job id result) ∨
      d.stage? job = some (.checking id) ∨ d.stage? job = some (.done .unit) := by
  cases step?_fares step hs with
  | stays same => exact .inr (.inl same)
  | stopped i _ ended => exact .inr (.inr ended)
  | answered answer answers expected eq =>
      simp only [expects, hs] at expected
      cases answer with
      | stat result => exact .inl ⟨result, answers, by simp [eq, resume, hs]⟩
      | resolved | text | listing | parsed | built => cases expected
  | woken entry _ waits => cases waits
  | joins parts plan joining => cases joining

/-- A job with an outcome is done. -/
theorem stage?_of_outcome? {outcome : Outcome} (h : c.outcome? job = some outcome) :
    c.stage? job = some (.done outcome) := by
  obtain ⟨t, ht, came⟩ := Option.bind_eq_some_iff.mp h
  rw [stage?, ht]
  rw [Job.outcome?] at came
  split at came
  · next stage =>
      cases came
      rw [Option.map_some, stage]
  · cases came

/-- A check is over at once only when the entry is not live. -/
theorem disposed_of_check {e : Entry} {outcome : Outcome}
    (step : c.step? (.call (.check id)) = some d)
    (ended : d.outcome? c.jobs.length = some outcome) (he : d.entries[id]? = some e) :
    e.isDisposed = true := by
  let added := (c.addJob { stage := .starting, ofCatalog := false }).1
  have hs : added.stage? c.jobs.length = some .starting := stage?_addJob c false
  have eq : added.startCheck c.jobs.length id = d := Option.some.inj step
  rw [startCheck] at eq
  split at eq
  · next gone =>
      subst eq
      cases live : e.isDisposed with
      | true => rfl
      | false =>
          rw [entry_of_complete he live, Option.all_some, live] at gone
          cases gone
  · subst eq
    have came := stage?_of_outcome? ended
    rw [stage?_setStage_self hs] at came
    cases came

/-- A check that leaves a live entry and finds nothing to do has seen an age at which the entry is
not stale. -/
theorem afterStat_unchanged {result : Except Error FileStat} {e : Entry}
    (hs : c.stage? job = some (.checking id))
    (ended : (c.afterStat job id result).outcome? job = some (.checked (.ok false)))
    (he : (c.afterStat job id result).entries[id]? = some e) (live : e.isDisposed = false) :
    ∃ stat, result = .ok stat ∧ c.entries[id]? = some e ∧ e.isStale stat.modified = false := by
  cases result with
  | error error =>
      simp only [afterStat] at ended he
      split at he
      · -- the entry went along with its file
        have there := entry_of_complete he live
        rw [disposeEntry, changeEntry, List.getElem?_modify_eq] at there
        obtain ⟨x, -, rfl⟩ := Option.map_eq_some_iff.mp there
        rw [Entry.isDisposed_dispose] at live
        cases live
      · next other =>
          rw [if_neg other] at ended
          have came := stage?_of_outcome? ended
          rw [stage?_complete (by rw [hs]; rfl)] at came
          cases came
  | ok stat =>
      simp only [afterStat] at ended he
      by_cases stale : (c.entries[id]?).any (·.isStale stat.modified) = true
      · -- a fetch is under way, or has been refused
        rw [if_pos stale] at ended
        have came := stage?_of_outcome? ended
        cases hx : c.entries[id]? with
        | none =>
            rw [hx] at stale
            cases stale
        | some x =>
            cases up : x.isDisposed with
            | true =>
                rw [startFetch_of_disposed hx up, afterFetch,
                  stage?_complete (by rw [hs]; rfl)] at came
                cases came
            | false =>
                rw [startFetch_of_live hx up, stage?_setStage_self (c := c.setEntry _ _) hs] at came
                cases came
      · rw [if_neg stale] at he
        have there := entry_of_complete he live
        rw [there] at stale
        exact ⟨stat, rfl, there, Bool.eq_false_iff.mpr stale⟩

/-! ## The run of a check -/

/-- The answers to a fetch of a stylesheet, all of them good. -/
def fetchAnswers (job : JobId) (stat : FileStat) (text : String) (rules : List Rule) : List Event :=
  [.answer job (.stat (.ok stat)), .answer job (.text (.ok text)),
    .answer job (.parsed 0 (.ok rules)), .answer job .built]

/-- A check is asked for, and the age of the file is answered. -/
def checkEvents (c : Catalog) (id : EntryId) (stat : FileStat) : List Event :=
  [.call (.check id), .answer c.jobs.length (.stat (.ok stat))]

/-- A check that finds nothing to do: no fetch is started and no entry is touched. -/
def Idles (c : Catalog) (id : EntryId) (stat : FileStat) : Prop :=
  ∃ d, Run c (c.checkEvents id stat) d ∧
    d.outcome? c.jobs.length = some (.checked (.ok false)) ∧ d.entries = c.entries

/-- A check that fetches the file, ends well, and leaves the entry with what the file has. -/
def Refetches (c : Catalog) (id : EntryId) (stat : FileStat) (text : String) (rules : List Rule)
    (d : Catalog) : Prop :=
  Run c (c.checkEvents id stat ++ fetchAnswers c.jobs.length stat text rules) d ∧
    d.outcome? c.jobs.length = some (.checked (.ok true)) ∧
    ∃ e : Entry, d.entries[id]? = some e ∧ e.index = Fetch.indexOf [(text, rules)] ∧
      e.timestamp = some stat.modified ∧ e.indexedAt = some c.clock

/-- An answer that leads a fetch on changes its stage only. -/
theorem step?_advance {f : Fetch} {purpose : Purpose} {e : Entry} {a : Answer} {stage : Fetch.Stage}
    (hs : c.stage? job = some (.fetching f purpose)) (he : c.entries[f.entry]? = some e)
    (expected : f.expects a = true)
    (hr : f.resume e c.config.maxFileBytes (c.rootOf e.scope) a = (e, [], .waiting stage)) :
    c.step? (.answer job a) =
      some (c.setStage job (.fetching { f with stage := stage } purpose)) := by
  have self : c.setEntry f.entry e = c := by
    obtain ⟨_, rfl⟩ := List.getElem?_eq_some_iff.mp he
    rw [setEntry, List.set_getElem_self]
  have quiet : c.notify [] = c := by
    rw [notify, List.append_nil]
  have expected' : c.expects job a = true := by
    simp [expects, hs, expected]
  have resumes : c.resume job a = c.resumeFetch job f purpose a := by
    simp [resume, hs]
  rw [step?, if_pos expected', resumes, resumeFetch, he]
  simp only [hr, self, quiet]

/-- A job that is no part of another. -/
def IsApart (c : Catalog) (job : JobId) : Prop :=
  (c.jobs[job]?).bind (·.parent) = none

theorem IsApart.setStage (h : c.IsApart job) (j : JobId) (s : Stage) :
    (c.setStage j s).IsApart job := by
  rw [IsApart, Catalog.setStage, List.getElem?_modify]
  cases hj : c.jobs[job]? with
  | none => rfl
  | some t =>
      rw [IsApart, hj] at h
      simp only [Option.bind_some] at h ⊢
      split <;> exact h

/-- A fetch with good answers ends well, and the entry holds what the file has. -/
theorem run_fetchAnswers {generation : Nat} {e : Entry}
    (hs : c.stage? job = some (.fetching ⟨id, generation, c.clock, .stat⟩ .update))
    (apart : c.IsApart job) (he : c.entries[id]? = some e) (css : e.kind = .css)
    (live : e.isDisposed = false) (latest : e.installed ≤ generation) {stat : FileStat}
    (small : stat.size ≤ c.config.maxFileBytes) (text : String) (rules : List Rule) :
    ∃ d, Run c (fetchAnswers job stat text rules) d ∧
      d.outcome? job = some (.checked (.ok true)) ∧ d.jobs.length = c.jobs.length ∧
      d.entries = c.entries.set id
        { e with
          index := Fetch.indexOf [(text, rules)]
          installed := generation
          timestamp := some stat.modified
          indexedAt := some c.clock } := by
  let f (stage : Fetch.Stage) : Fetch := ⟨id, generation, c.clock, stage⟩
  let at_ (x : Catalog) (stage : Fetch.Stage) : Catalog :=
    x.setStage job (.fetching (f stage) .update)
  let c₁ := at_ c (.read stat)
  let c₂ := at_ c₁ (.parse stat [] [⟨text, none⟩])
  let c₃ := at_ c₂ (.build stat [] [(text, rules)])
  have hs₁ : c₁.stage? job = some (.fetching (f (.read stat)) .update) :=
    stage?_setStage_self hs _
  have hs₂ : c₂.stage? job =
      some (.fetching (f (.parse stat [] [⟨text, none⟩])) .update) :=
    stage?_setStage_self hs₁ _
  have hs₃ : c₃.stage? job =
      some (.fetching (f (.build stat [] [(text, rules)])) .update) :=
    stage?_setStage_self hs₂ _
  -- the first three answers lead the fetch on
  have step₁ : c.step? (.answer job (.stat (.ok stat))) = some c₁ := by
    refine step?_advance (f := f .stat) hs he rfl ?_
    show (if _ then _ else _) = _
    rw [if_neg (Nat.not_lt.mpr small)]
  have step₂ : c₁.step? (.answer job (.text (.ok text))) = some c₂ := by
    refine step?_advance (f := f (.read stat)) hs₁ he rfl ?_
    show (e, [], Fetch.Progress.waiting (Fetch.stageAfterText e _ stat text)) = _
    rw [Fetch.stageAfterText, css]
  have step₃ : c₂.step? (.answer job (.parsed 0 (.ok rules))) = some c₃ :=
    step?_advance (f := f (.parse stat [] [⟨text, none⟩])) hs₂ he rfl rfl
  -- the last answer installs what was found
  let e' : Entry :=
    { e with
      index := Fetch.indexOf [(text, rules)]
      installed := generation
      timestamp := some stat.modified
      indexedAt := some c.clock }
  have installs : e.install generation
      ⟨Fetch.indexOf [(text, rules)], [], stat.modified, c.clock⟩ = .ok e' := by
    rw [Overlap.install_css css live, if_neg (Nat.not_lt.mpr latest)]
  let told := (c₃.setEntry id e').notify []
    |>.notify [.stylesheetUpdated ((c₃.setEntry id e').pathOf id)]
  have apart₃ : told.IsApart job := by
    have before : c₃.IsApart job := ((apart.setStage job _).setStage job _).setStage job _
    have same : told.jobs = c₃.jobs := rfl
    rw [IsApart, same]
    exact before
  have step₄ : c₃.step? (.answer job .built) =
      some (told.setStage job (.done (.checked (.ok true)))) := by
    have expected : c₃.expects job .built = true := by
      simp [expects, hs₃, Fetch.expects, f]
    have resumes : c₃.resume job .built =
        c₃.resumeFetch job (f (.build stat [] [(text, rules)])) .update .built := by
      simp [resume, hs₃]
    have hr : (f (.build stat [] [(text, rules)])).resume e
        c₃.config.maxFileBytes (c₃.rootOf e.scope) .built = (e', [], .finished (.ok ())) := by
      simp only [f, Fetch.resume, installs]
    have finds : c₃.entries[(f (.build stat [] [(text, rules)])).entry]? = some e := he
    rw [step?, if_pos expected, resumes, resumeFetch]
    simp only [finds, hr]
    exact congrArg some (complete_alone apart₃ _)
  refine ⟨_, .cons step₁ (.cons step₂ (.cons step₃ (.cons step₄ (.nil _)))), ?_, ?_, rfl⟩
  · exact outcome?_of_done (stage?_setStage_self (c := told) hs₃ _)
  · simp [told, c₃, c₂, c₁, at_, setStage, setEntry, notify]

/-- The catalogue in which a check has asked for the age of an entry's file. -/
def asking (c : Catalog) (id : EntryId) : Catalog :=
  (c.addJob { stage := .starting, ofCatalog := false }).1.setStage c.jobs.length (.checking id)

/-- A new check waits for the time of its file. -/
theorem stage?_asking (c : Catalog) (id : EntryId) :
    (c.asking id).stage? c.jobs.length = some (.checking id) :=
  stage?_setStage_self (stage?_addJob c false) _

/-- The job of a new check stands apart. -/
theorem isApart_asking (c : Catalog) (id : EntryId) : (c.asking id).IsApart c.jobs.length := by
  refine IsApart.setStage ?_ _ _
  simp [IsApart, addJob]

/-- A check of a live stylesheet asks for the age of its file. -/
theorem step?_check {e : Entry} (he : c.entries[id]? = some e) (live : e.isDisposed = false) :
    c.step? (.call (.check id)) = some (c.asking id) := by
  let added := (c.addJob { stage := .starting, ofCatalog := false }).1
  have up : (added.entries[id]?).all Entry.isDisposed = false := by
    show (c.entries[id]?).all Entry.isDisposed = false
    rw [he, Option.all_some, live]
  show some (added.startCheck c.jobs.length id) = some (c.asking id)
  rw [startCheck, up]
  rfl

theorem step?_asking (c : Catalog) (id : EntryId) (result : Except Error FileStat) :
    (c.asking id).step? (.answer c.jobs.length (.stat result)) =
      some ((c.asking id).afterStat c.jobs.length id result) := by
  have asks := stage?_asking c id
  have expected : (c.asking id).expects c.jobs.length (.stat result) = true := by
    simp [expects, asks]
  rw [step?, if_pos expected]
  simp [resume, asks]

/-- What a check does at once on the age of a live stylesheet's file: it is over, or a fetch has
been started. -/
theorem run_checkEvents {e : Entry} (he : c.entries[id]? = some e) (live : e.isDisposed = false)
    (stat : FileStat) :
    ∃ d, Run c (c.checkEvents id stat) d ∧ d.IsApart c.jobs.length ∧ d.config = c.config ∧
      d.clock = c.clock ∧
      if e.isStale stat.modified then
        d.stage? c.jobs.length =
            some (.fetching ⟨id, e.beginFetch.fetches, c.clock, .stat⟩ .update) ∧
          d.entries = c.entries.set id e.beginFetch
      else d.stage? c.jobs.length = some (.done (.checked (.ok false))) ∧
        d.entries = c.entries := by
  have asks := stage?_asking c id
  have apart := isApart_asking c id
  have answered := step?_asking c id (.ok stat)
  have there : (c.asking id).entries[id]? = some e := he
  by_cases stale : e.isStale stat.modified = true
  · let begun := ((c.asking id).setEntry id e.beginFetch).setStage c.jobs.length
      (.fetching ⟨id, e.beginFetch.fetches, c.clock, .stat⟩ .update)
    have step : (c.asking id).step? (.answer c.jobs.length (.stat (.ok stat))) = some begun := by
      rw [answered, afterStat, there, Option.any_some, if_pos stale, startFetch_of_live there live]
      rfl
    refine ⟨begun, .cons (step?_check he live) (.cons step (.nil _)), apart.setStage _ _, rfl, rfl,
      ?_⟩
    rw [if_pos stale]
    exact ⟨stage?_setStage_self (c := (c.asking id).setEntry id e.beginFetch) asks _, rfl⟩
  · have step : (c.asking id).step? (.answer c.jobs.length (.stat (.ok stat))) =
        some ((c.asking id).setStage c.jobs.length (.done (.checked (.ok false)))) := by
      rw [answered, afterStat, there, Option.any_some, if_neg stale, complete_alone apart]
    refine ⟨_, .cons (step?_check he live) (.cons step (.nil _)), apart.setStage _ _, rfl, rfl, ?_⟩
    rw [if_neg stale]
    exact ⟨stage?_setStage_self asks _, rfl⟩

/-- A check of a live stylesheet finds nothing to do exactly when the entry is not stale. -/
theorem idles_iff {e : Entry} (he : c.entries[id]? = some e) (live : e.isDisposed = false)
    (stat : FileStat) : c.Idles id stat ↔ e.isStale stat.modified = false := by
  obtain ⟨d, run, -, -, -, comes⟩ := run_checkEvents he live stat
  by_cases stale : e.isStale stat.modified = true
  · rw [if_pos stale] at comes
    rw [stale]
    constructor
    · -- the job cannot be done and have a fetch under way
      rintro ⟨d', run', ended, -⟩
      have same := (run_iff_replay?.mp run).symm.trans (run_iff_replay?.mp run')
      obtain rfl := Option.some.inj same
      have under := comes.1
      rw [stage?] at under
      obtain ⟨t, ht, stage⟩ := Option.map_eq_some_iff.mp under
      rw [outcome?, ht, Option.bind_some, Job.outcome?, stage] at ended
      cases ended
    · intro no
      cases no
  · rw [if_neg stale] at comes
    refine ⟨fun _ => Bool.eq_false_iff.mpr stale, fun _ => ⟨d, run, ?_, comes.2⟩⟩
    exact outcome?_of_done comes.1

/-- A check of a stylesheet whose file can be read fetches it exactly when no fetch has ended well
yet, or the file is newer than the start of the last started of those that have. After a check that
has fetched, the next one finds nothing to do exactly when the file is no newer than the start of
that fetch. -/
theorem check_fetches_iff_newer {config : Config} {clock : Time} {events : List Event} {e : Entry}
    (run : Run (new config clock) events c) (he : c.entries[id]? = some e) (css : e.kind = .css)
    (live : e.isDisposed = false) {stat : FileStat} (small : stat.size ≤ c.config.maxFileBytes)
    (text : String) (rules : List Rule) :
    (Outdated (landings id (new config clock) events) stat.modified →
      ∃ d, c.Refetches id stat text rules d ∧ (d.Idles id stat ↔ stat.modified ≤ c.clock)) ∧
    (¬Outdated (landings id (new config clock) events) stat.modified → c.Idles id stat) := by
  have outdated := (landed_of_run run).outdated_iff he stat.modified
  constructor
  · intro newer
    have stale := outdated.mp newer
    obtain ⟨b, first, apart, config_eq, clock_eq, comes⟩ := run_checkEvents he live stat
    rw [if_pos stale] at comes
    obtain ⟨hs, entries⟩ := comes
    -- the fetch that the check starts is the latest, so what it finds is kept
    have lt := (List.getElem?_eq_some_iff.mp he).1
    have begun : e.beginFetch = { e with fetches := e.fetches + 1 } := Entry.beginFetch_css css
    have there : b.entries[id]? = some e.beginFetch := by
      rw [entries, List.getElem?_set_self lt]
    have latest : e.beginFetch.installed ≤ e.beginFetch.fetches := by
      rw [Entry.installed_beginFetch, Entry.fetches_beginFetch]
      exact Nat.le_succ_of_le ((orderly_of_run run).installed_le he)
    obtain ⟨d, second, outcome, -, entries'⟩ := run_fetchAnswers (clock_eq ▸ hs) apart there
      (by rw [begun]; exact css) (by rw [begun]; exact live) latest (config_eq ▸ small) text rules
    have lt' : id < b.entries.length := (List.getElem?_eq_some_iff.mp there).1
    have held := List.getElem?_set_self (a := { e.beginFetch with
      index := Fetch.indexOf [(text, rules)]
      installed := e.beginFetch.fetches
      timestamp := some stat.modified
      indexedAt := some b.clock }) lt'
    rw [← entries'] at held
    refine ⟨d, ⟨first.append second, outcome, _, held, rfl, rfl, by rw [clock_eq]⟩, ?_⟩
    rw [idles_iff held (Fetch.isDisposed_indexOf _), Entry.isStale]
    show (some b.clock).all (· < stat.modified) = false ↔ _
    rw [Option.all_some, decide_eq_false_iff_not, clock_eq]
    exact Int.not_lt
  · intro no
    rw [idles_iff he live]
    exact Bool.eq_false_iff.mpr fun stale => no (outdated.mpr stale)

/-- A stylesheet is fetched at the time 20, and its file is of the age 10. -/
def fetchedOnce : List Event :=
  [.addStandalone .css ⟨"/a.css"⟩, .call (.fetch 0)] ++
    fetchAnswers 0 ⟨10, 4⟩ ".a{}" [.style ".a"]

theorem fetchedOnce_checked :
    ∃ c, Run (new {} 20) fetchedOnce c ∧
      Outdated (landings 0 (new {} 20) fetchedOnce) 30 ∧
      (∃ d, c.Refetches 0 ⟨30, 4⟩ ".b{}" [.style ".b"] d ∧ (d.Idles 0 ⟨30, 4⟩ ↔ 30 ≤ c.clock)) ∧
      c.Idles 0 ⟨15, 4⟩ := by
  have facts : ((new {} 20).replay? fetchedOnce).bind (fun c => (c.entries[0]?).map fun e =>
      (e.kind, e.isDisposed, c.config.maxFileBytes)) = some (.css, false, 5242880) := by
    decide +kernel
  obtain ⟨c, hc, found⟩ := Option.bind_eq_some_iff.mp facts
  obtain ⟨e, he, eq⟩ := Option.map_eq_some_iff.mp found
  simp only [Prod.mk.injEq] at eq
  obtain ⟨css, live, limit⟩ := eq
  have run : Run (new {} 20) fetchedOnce c := run_iff_replay?.mpr hc
  have small : ∀ modified : Time, (⟨modified, 4⟩ : FileStat).size ≤ c.config.maxFileBytes := by
    intro modified
    rw [limit]
    show 4 ≤ 5242880
    decide
  have newer : Outdated (landings 0 (new {} 20) fetchedOnce) 30 := by decide +kernel
  have older : ¬Outdated (landings 0 (new {} 20) fetchedOnce) 15 := by decide +kernel
  exact ⟨c, run, newer,
    (check_fetches_iff_newer run he css live (small 30) ".b{}" [.style ".b"]).1 newer,
    (check_fetches_iff_newer run he css live (small 15) "" []).2 older⟩

/-- Whether the age of the file is another than the one that the index was built from does not
matter: a version of an age before the start of the last fetch is not noticed. -/
theorem other_age_unnoticed :
    ¬∀ (config : Config) (clock : Time) (events : List Event) (c : Catalog) (id : EntryId)
      (e : Entry) (stat : FileStat), Run (new config clock) events c → c.entries[id]? = some e →
      e.kind = .css → e.isDisposed = false → (∀ j f, c.fetch? j = some f → f.entry ≠ id) →
      stat.size ≤ c.config.maxFileBytes →
      (¬c.Idles id stat ↔
        landings id (new config clock) events = [] ∨ e.timestamp ≠ some stat.modified) := by
  intro law
  have facts : ((new {} 20).replay? fetchedOnce).bind (fun c => (c.entries[0]?).map fun e =>
      ((e.kind, e.isDisposed, c.config.maxFileBytes), e.timestamp, e.indexedAt,
        c.jobs.all Job.isDone)) = some ((.css, false, 5242880), some 10, some 20, true) := by
    decide +kernel
  obtain ⟨c, hc, found⟩ := Option.bind_eq_some_iff.mp facts
  obtain ⟨e, he, eq⟩ := Option.map_eq_some_iff.mp found
  simp only [Prod.mk.injEq] at eq
  obtain ⟨⟨css, live, limit⟩, timestamp, indexedAt, done⟩ := eq
  have idle : ∀ j f, c.fetch? j = some f → f.entry ≠ 0 := by
    intro j f hf
    cases (fetch?_of_done done j).symm.trans hf
  have small : (⟨5, 4⟩ : FileStat).size ≤ c.config.maxFileBytes := by
    rw [limit]
    decide
  have unnoticed : c.Idles 0 ⟨5, 4⟩ := by
    rw [idles_iff he live, Entry.isStale, indexedAt]
    rfl
  refine (law {} 20 fetchedOnce c 0 e ⟨5, 4⟩ (run_iff_replay?.mpr hc) he css live idle small).mpr
    (.inr ?_) unnoticed
  rw [timestamp]
  decide

end SelectorCatalog.Catalog
