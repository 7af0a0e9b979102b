import SelectorCatalog.Proofs.Catalog.Quiet
import SelectorCatalog.Proofs.Catalog.Supervise

/-!
# Saves

A save lets the entry at its path be fetched once more, or relies on the first fetch of an entry
that is under construction. Either way a fetch is under way that has read nothing yet and is the
latest, and it stays the one that counts, or is overtaken by a later one: `Awaits` says so of every
state afterwards. When all is quiet, the entry shows a text that was read after the save
(`save_is_not_lost`).

Three things are in the way of a save. An entry under construction that has its text already keeps
that text, an entry that is cleared afterwards shows nothing, and a file whose age cannot be had is
not read at all (`save_may_be_lost`).
-/

namespace SelectorCatalog

/-- Whether an answer to a fetch is a good one: the file can be read and is not too large, and the
parser has the rules of its texts. -/
def Fetch.succeeds (rulesOf : String → List Rule) (kind : EntryKind) (limit : Nat) (f : Fetch)
    (a : Answer) : Bool :=
  f.agrees rulesOf kind a &&
    match a with
    | .stat result => result.toOption.any fun stat => stat.size ≤ limit
    | .text result => result.isOk
    | .parsed _ result => result.isOk
    | .resolved _ | .listing _ | .built => true

namespace Catalog

open Job (Outcome Purpose Plan Stage Leads Act)

/-- Whether an event is no bad answer to a fetch of an entry. -/
def succeeds (rulesOf : String → List Rule) (id : EntryId) (c : Catalog) : Event → Bool
  | .answer job a => (c.fetch? job).all fun f => f.entry != id ||
    (c.entries[id]?).all fun e => f.succeeds rulesOf e.kind c.config.maxFileBytes a
  | _ => true

/-- Whether the fetches of an entry get good answers along a run. -/
def allSucceed (rulesOf : String → List Rule) (id : EntryId) (c : Catalog) : List Event → Bool
  | [] => true
  | event :: events =>
    c.succeeds rulesOf id event && (c.step? event).all (·.allSucceed rulesOf id events)

/-- A text that a fetch of an entry reads along a run, with the root that links in it are resolved
from. -/
def ReadsText (c : Catalog) (events : List Event) (id : EntryId) (text : String)
    (root : Option Path) : Prop :=
  ∃ early job late b f e, events = early ++ .answer job (.text (.ok text)) :: late ∧
    Run c early b ∧ b.fetch? job = some f ∧ f.entry = id ∧ b.entries[id]? = some e ∧
    root = b.rootOf e.scope

/-- Nothing of an entry's file has been read. -/
structure Unread (c : Catalog) (id : EntryId) : Prop where
  fetch : ∀ {j f}, c.fetch? j = some f → f.entry = id → f.stage.isUnread = true
  entry : ∀ {e : Entry}, c.entries[id]? = some e → e.indexedAt = none

/-- A job fetches an entry with a number from `first` on, or such a fetch has landed. -/
def Due (id : EntryId) (first : Nat) (job : JobId) (w : Work) : Prop :=
  (∃ f, w.fetch? job = some f ∧ f.entry = id ∧ first ≤ f.generation) ∨
    ∃ e : Entry, w.entries[id]? = some e ∧ first ≤ e.installed

/-- How far a job is that fetches for a purpose. -/
def FetchesFor (purpose : Purpose) (c : Catalog) (job : JobId) : Prop :=
  (∃ f, c.stage? job = some (.fetching f purpose)) ∨ ∃ outcome, c.stage? job = some (.done outcome)

/-- A fetch with a number from `first` on is due, and all such fetches read texts of a given
provenance. -/
structure Awaits (rulesOf : String → List Rule) (id : EntryId) (first : Nat) (job : JobId)
    (purpose : Purpose) (From : String → Option Path → Prop) (c : Catalog) : Prop where
  sound : Sound c
  supervised : Supervised c
  orderly : c.work.Orderly
  fetches : c.FetchesFor purpose job
  due : Due id first job c.work
  sourced : c.work.Sourced rulesOf id first fun _ => From

variable {rulesOf : String → List Rule} {may : JobId → Act → Prop} {event : Event}
  {events later : List Event} {v w : Work} {c d : Catalog} {id : EntryId} {first : Nat}
  {job : JobId} {purpose : Purpose} {From From' : String → Option Path → Prop}

/-! ## Good answers -/

/-- A fetch of a live entry does not fail on a good answer. -/
theorem resume_ne_error {f : Fetch} {e : Entry} {limit : Nat} {a : Answer}
    (good : f.succeeds rulesOf e.kind limit a = true) (live : e.isDisposed = false)
    (root : Option Path) (notices : List Notice) (error : Error) :
    f.resume e limit root a ≠ (e, notices, .finished (.error error)) := by
  unfold Fetch.succeeds at good
  obtain ⟨-, good⟩ := Bool.and_eq_true_iff.mp good
  intro h
  unfold Fetch.resume at h
  split at h
  case h_1 => cases good
  case h_2 stat _ =>
      rw [if_neg (by simpa [Except.toOption] using good)] at h
      cases h
  case h_3 => cases good
  case h_4 => cases h
  case h_5 i result _ _ =>
      cases result with
      | ok rules => simp [Fetch.afterParse, Fetch.fatal?] at h
      | error error => cases good
  case h_6 stat links sources _ _ =>
      obtain ⟨e', installs⟩ := install_of_live live f.generation
        ⟨Fetch.indexOf sources, links, stat.modified, f.started⟩
      rw [installs] at h
      cases h
  case h_7 => cases h

/-- All answers of a run succeed when those of both parts do. -/
theorem allSucceed_append (run : Run c events d) :
    c.allSucceed rulesOf id (events ++ later) =
      (c.allSucceed rulesOf id events && d.allSucceed rulesOf id later) := by
  induction run with
  | nil c => rfl
  | cons step run ih => simp [allSucceed, step, ih, Bool.and_assoc]

/-- An answer that succeeds does so for the fetch that it is given to. -/
theorem succeeds_answer {a : Answer} (good : c.succeeds rulesOf id (.answer job a) = true)
    {f : Fetch} {e : Entry} (hf : c.fetch? job = some f) (entry : f.entry = id)
    (he : c.entries[id]? = some e) :
    f.succeeds rulesOf e.kind c.config.maxFileBytes a = true := by
  simpa [succeeds, hf, entry, he] using good

/-- What a run has read it has read when it goes on. -/
theorem ReadsText.append {text : String} {root : Option Path} (h : c.ReadsText events id text root)
    (more : List Event) : c.ReadsText (events ++ more) id text root := by
  obtain ⟨early, job, late, b, f, e, rfl, rest⟩ := h
  exact ⟨early, job, late ++ more, b, f, e, by simp, rest⟩

/-! ## A fetch that is due -/

/-- No stride ends a fetch, or forgets what has landed. -/
theorem Due.stride (h : Due id first job v) (stride : Stride event v w) : Due id first job w := by
  rcases h with ⟨f, hf, entry, le⟩ | ⟨e, he, le⟩
  · left
    refine ⟨f, ?_, entry, le⟩
    cases stride with
    | begin none =>
        refine (Function.update_of_ne ?_ ..).trans hf
        rintro rfl
        cases none.symm.trans hf
    | time | root | add | dispose | clear => exact hf
  · right
    obtain ⟨d, hd, -⟩ := stride.ages.old he
    refine ⟨d, hd, ?_⟩
    obtain ⟨e', he', -, installed, -⟩ | ⟨new, -⟩ := stride.dates hd
    · obtain rfl := Option.some.inj (he.symm.trans he')
      rw [installed]
      exact le
    · simp [new] at he

/-- What has landed last has the largest number. -/
theorem Reply.installed_le {a : Answer} {k : JobId} (h : Reply k a v w) {e : Entry}
    (he : v.entries[id]? = some e) :
    ∃ d : Entry, w.entries[id]? = some d ∧ e.installed ≤ d.installed := by
  cases h with
  | advance | fail => exact ⟨e, he, Nat.le_refl _⟩
  | @land f x y _ _ _ _ _ _ hx installs =>
      obtain ⟨-, -, became⟩ := Entry.install_ok installs
      by_cases eq : f.entry = id
      · subst eq
        obtain rfl := Option.some.inj (he.symm.trans hx)
        refine ⟨y, List.getElem?_set_self (List.getElem?_eq_some_iff.mp he).1, ?_⟩
        obtain ⟨-, rfl⟩ | ⟨le, installed, -⟩ := became
        · exact Nat.le_refl _
        · rw [installed]
          exact le
      · exact ⟨e, (List.getElem?_set_ne eq).trans he, Nat.le_refl _⟩

/-- A fetch that is due goes on or lands, as long as its entry is live and the answer is good. -/
theorem Due.reply {a : Answer} {k : JobId} (h : Due id first job v) (reply : Reply k a v w)
    (good : ∀ (f : Fetch) (e : Entry) notices error, v.fetch? k = some f → f.entry = id →
      v.entries[id]? = some e →
      f.resume e v.limit (v.rootOf e.scope) a ≠ (e, notices, .finished (.error error))) :
    Due id first job w := by
  rcases h with ⟨g, hg, entry, le⟩ | ⟨e, he, le⟩
  -- the fetch is under way: it goes on or lands, as good answers do not fail it
  · cases reply with
    | @advance f e _ stage under =>
        left
        by_cases eq : job = k
        · subst eq
          obtain rfl := Option.some.inj (under.symm.trans hg)
          exact ⟨_, Function.update_self .., entry, le⟩
        · exact ⟨g, (Function.update_of_ne eq ..).trans hg, entry, le⟩
    | @fail f e _ error under he hr =>
        left
        refine ⟨g, (Function.update_of_ne ?_ ..).trans hg, entry, le⟩
        rintro rfl
        obtain rfl := Option.some.inj (under.symm.trans hg)
        rw [entry] at he
        exact good f e _ error under entry he hr
    | @land f e e' _ _ _ _ under _ he installs =>
        by_cases eq : job = k
        · subst eq
          obtain rfl := Option.some.inj (under.symm.trans hg)
          right
          obtain ⟨-, -, became⟩ := Entry.install_ok installs
          refine ⟨e', ?_, ?_⟩
          · rw [← entry]
            exact List.getElem?_set_self (List.getElem?_eq_some_iff.mp he).1
          · obtain ⟨early, rfl⟩ | ⟨-, installed, -⟩ := became
            · exact Nat.le_trans le (Nat.le_of_lt early)
            · rw [installed]
              exact le
        · exact .inl ⟨g, (Function.update_of_ne eq ..).trans hg, entry, le⟩
  -- it has landed, and later fetches alone replace what it installed
  · obtain ⟨d, hd, more⟩ := reply.installed_le he
    exact .inr ⟨d, hd, Nat.le_trans le more⟩

/-- A job that fetches for a purpose goes on to do so, or is over. -/
theorem Move.fetchesFor (h : Move may c d) (fetches : c.FetchesFor purpose job) :
    d.FetchesFor purpose job := by
  rcases fetches with ⟨f, hs⟩ | ⟨outcome, hs⟩
  · cases h with
    | ambient _ _ _ _ jobs => exact .inl ⟨f, by rw [stage?_congr jobs, hs]⟩
    | enlist ts => exact .inl ⟨f, stage?_append ts hs⟩
    -- the stage that was set is this job's own, or another's
    | @stage k s t _ at_ leads =>
        by_cases eq : k = job
        · subst eq
          obtain rfl := Option.some.inj (hs.symm.trans at_)
          cases leads with
          | ofOpen isOpen => cases isOpen
          | advance _ _ stage => exact .inl ⟨_, stage?_setStage_self at_ _⟩
          | finish => exact .inr ⟨_, stage?_setStage_self at_ _⟩
        · exact .inl ⟨f, by rw [stage?_setStage, if_neg eq, hs]⟩
    | @join k _ _ _ at_ =>
        refine .inl ⟨f, ?_⟩
        -- a job that joins or asks is not the one that fetches
        rw [stage?_setStage, if_neg, hs]
        rintro rfl
        cases hs.symm.trans at_
    | @claim k _ _ _ _ at_ isOpen =>
        refine .inl ⟨f, ?_⟩
        rw [stage?_opened, if_neg, hs]
        rintro rfl
        obtain rfl := Option.some.inj (hs.symm.trans at_)
        cases isOpen
    -- ended with the construction, for the same purpose
    | @conclude k g slot _ at_ =>
        by_cases eq : k = job
        · subst eq
          exact .inr ⟨_, by rw [stage?_concluded, if_pos rfl, hs]; rfl⟩
        · exact .inl ⟨f, by rw [stage?_concluded, if_neg eq, hs]⟩
    | entries | standalone | evict | hear | leave | retire => exact .inl ⟨f, hs⟩
  · exact .inr ⟨outcome, h.done hs⟩

/-- Nothing but a check gives its fetch up. -/
theorem Supervised.fetch?_stopChecker (h : Supervised c) (i : Nat) {f : Fetch}
    (hf : c.fetch? job = some f)
    (kept : c.stage? job = some (.fetching f .update) → ¬IsStylesheet c.entries f.entry) :
    (c.stopChecker i).fetch? job = some f := by
  obtain ⟨s, hs, under⟩ := Option.bind_eq_some_iff.mp hf
  rcases h.stage?_stopChecker i hs with same | ⟨check, -⟩
  · rw [fetch?, same]
    exact under
  · cases check with
    | fetch css =>
        cases under
        exact absurd css (kept hs)
    | join | ask | done => cases under

/-- A job keeps its purpose as long as it fetches. -/
theorem fetchesFor_step? (step : c.step? event = some d) (fetches : c.FetchesFor purpose job) :
    d.FetchesFor purpose job := by
  by_cases stop : ∃ i, event = .stopChecker i
  · obtain ⟨i, rfl⟩ := stop
    cases step
    rcases fetches with ⟨f, hs⟩ | ⟨outcome, hs⟩
    · rcases stage?_stopChecker hs i with same | ⟨ended, -⟩
      · exact .inl ⟨f, same⟩
      · exact .inr ⟨_, ended⟩
    · rcases stage?_stopChecker hs i with same | ⟨ended, -⟩
      · exact .inr ⟨_, same⟩
      · exact .inr ⟨_, ended⟩
  · have moves := step?_moves step fun i eq => stop ⟨i, eq⟩
    exact moves.keep (fun _ _ fetches move => move.fetchesFor fetches) fetches

namespace Awaits

/-- A fetch that is due stays so, as long as no fetch of its entry fails. -/
theorem due_step? (h : Awaits rulesOf id first job purpose From c) (step : c.step? event = some d)
    (lasting : purpose ≠ .update)
    (fails : ∀ k a (f : Fetch) (e : Entry) notices error, event = .answer k a →
      c.fetch? k = some f → f.entry = id → c.entries[id]? = some e →
      f.resume e c.config.maxFileBytes (c.rootOf e.scope) a ≠
        (e, notices, .finished (.error error))) : Due id first job d.work := by
  by_cases stop : ∃ i, event = .stopChecker i
  · obtain ⟨i, rfl⟩ := stop
    cases step
    rcases h.due with ⟨f, hf, entry, le⟩ | ⟨e, he, le⟩
    · -- only checks are given up, and those fetch for another purpose
      refine .inl ⟨f, h.supervised.fetch?_stopChecker i hf fun hs => ?_, entry, le⟩
      rcases h.fetches with ⟨g, hs'⟩ | ⟨outcome, ended⟩
      · cases hs.symm.trans hs'
        exact absurd rfl lasting
      · cases hs.symm.trans ended
    · obtain ⟨fetches, work, -⟩ := stopChecker_work c i
      refine .inr ⟨e, ?_, le⟩
      rw [work]
      exact he
  · obtain ⟨u, replied, strides⟩ := step?_passage step fun i eq => stop ⟨i, eq⟩
    refine strides.keep (fun _ _ due stride => due.stride stride) ?_
    obtain ⟨rfl, -⟩ | ⟨k, a, rfl, reply⟩ := replied
    · exact h.due
    · exact h.due.reply reply fun f e notices error => fails k a f e notices error rfl

/-- The fetch stays due, unless its entry is cleared or disposed of or an answer is bad. -/
theorem step? (h : Awaits rulesOf id first job purpose From c) (step : c.step? event = some d)
    (lasting : purpose ≠ .update) (good : c.succeeds rulesOf id event = true)
    (uncleared : event ≠ .clearEntry id)
    (live : ∀ e : Entry, d.entries[id]? = some e → e.isDisposed = false)
    (widens : ∀ text root, From text root → From' text root)
    (reads : ∀ k (f : Fetch) (e : Entry) text, event = .answer k (.text (.ok text)) →
      c.fetch? k = some f → f.entry = id → c.entries[id]? = some e →
      From' text (c.rootOf e.scope)) :
    Awaits rulesOf id first job purpose From' d := by
  -- the entry was live before
  have up : ∀ e : Entry, c.entries[id]? = some e → e.isDisposed = false := by
    intro e he
    obtain ⟨e', he', -⟩ := entry_step? step he
    exact live_of_run (.cons step (.nil d)) he he' (live e' he')
  have answers : ∀ k a (f : Fetch) (e : Entry), event = .answer k a → c.fetch? k = some f →
      f.entry = id → c.entries[id]? = some e →
      f.succeeds rulesOf e.kind c.config.maxFileBytes a = true := by
    rintro k a f e rfl hf entry he
    exact succeeds_answer good hf entry he
  have fails : ∀ k a (f : Fetch) (e : Entry) notices error, event = .answer k a →
      c.fetch? k = some f → f.entry = id → c.entries[id]? = some e →
      f.resume e c.config.maxFileBytes (c.rootOf e.scope) a ≠
        (e, notices, .finished (.error error)) := by
    intro k a f e notices error answered hf entry he
    exact resume_ne_error (answers k a f e answered hf entry he) (up e he) _ notices error
  -- what was due stays due, and what was read is of the save or later
  constructor
  · exact h.supervised.sound_step? h.sound step
  · exact h.supervised.step? h.sound step
  · exact orderly_step? h.orderly step
  · exact fetchesFor_step? step h.fetches
  · exact h.due_step? step lasting fails
  · have wider : c.work.Sourced rulesOf id first fun _ => From' := h.sourced.mono fun _ => widens
    refine sourced_step? wider h.orderly step uncleared ?_ ?_ ?_ ?_
    · rintro i rfl e he html j f hf entry
      cases step
      refine h.supervised.fetch?_stopChecker i hf ?_
      rintro - ⟨e', he', css⟩
      rw [entry] at he'
      obtain rfl := Option.some.inj (he.symm.trans he')
      cases html.symm.trans css
    · intro k a f e answered hf entry he
      exact (Bool.and_eq_true_iff.mp (answers k a f e answered hf entry he)).1
    · intro k f e stat text answered hf entry he _
      exact reads k f e text answered hf entry he
    · intro k a f e notices error answered hf entry he _ _
      exact fails k a f e notices error answered hf entry he

/-- The fetch stays due along a run. -/
theorem of_run (h : Awaits rulesOf id first job purpose (c.ReadsText [] id) c) (run : Run c later d)
    (lasting : purpose ≠ .update) (good : c.allSucceed rulesOf id later = true)
    (uncleared : .clearEntry id ∉ later)
    (live : ∀ e : Entry, d.entries[id]? = some e → e.isDisposed = false) :
    Awaits rulesOf id first job purpose (c.ReadsText later id) d := by
  induction later using List.reverseRecOn generalizing d with
  | nil =>
      cases run
      exact h
  | append_singleton early event ih =>
      obtain ⟨b, first, step⟩ := run.split_last
      rw [allSucceed_append first, Bool.and_eq_true] at good
      have before : ∀ e : Entry, b.entries[id]? = some e → e.isDisposed = false := by
        intro e he
        obtain ⟨e', he', -⟩ := entry_step? step he
        exact live_of_run (.cons step (.nil d)) he he' (live e' he')
      have awaits := ih first good.1 (fun mem => uncleared (List.mem_append_left _ mem)) before
      refine awaits.step? step lasting ?_ ?_ live (fun _ _ reads => reads.append [event]) ?_
      · simpa [allSucceed] using good.2
      · rintro rfl
        exact uncleared (by simp)
      · rintro k f e text rfl hf entry he
        exact ⟨early, k, [], b, f, e, rfl, first, hf, entry, he, rfl⟩

/-- When all is quiet the fetch has landed, and the entry shows what it has read or what a later one
has. -/
theorem shows (h : Awaits rulesOf id first job purpose From c) (quiet : c.isQuiet = true)
    (counted : 0 < first) {e : Entry} (he : c.entries[id]? = some e) (live : e.isDisposed = false) :
    ∃ text root, From text root ∧ e.Shows rulesOf root text := by
  have ended : ∀ j, c.fetch? j = none := by
    intro j
    refine fetch?_of_done ?_ j
    rw [List.all_eq_true]
    exact (isQuiet_iff.mp quiet).1
  obtain le : first ≤ e.installed := by
    rcases h.due with ⟨f, hf, -⟩ | ⟨e', he', le⟩
    · cases (ended job).symm.trans hf
    · obtain rfl := Option.some.inj (he.symm.trans he')
      exact le
  obtain ⟨started, at_⟩ : ∃ started, e.indexedAt = some started := by
    refine Option.ne_none_iff_exists'.mp fun none => ?_
    rw [h.orderly.dated he none] at le
    exact absurd counted (Nat.not_lt.mpr le)
  obtain ⟨text, root, origin, shows | ⟨-, j, f, hf, -⟩⟩ := h.sourced.entry he live le at_
  · exact ⟨text, root, origin, shows⟩
  · cases (ended j).symm.trans hf

end Awaits

/-! ## The save -/

/-- What no fetch has read and no fetch has brought in is of any provenance. -/
theorem sourced_of_unread (first : Nat)
    (fetch : ∀ {j f}, w.fetch? j = some f → f.entry = id → first ≤ f.generation →
      f.stage.isUnread = true)
    (entry : ∀ {e : Entry}, w.entries[id]? = some e → e.indexedAt ≠ none → e.installed < first)
    (From : Time → String → Option Path → Prop) : w.Sourced rulesOf id first From where
  fetch hf at_ ge _ := .inl (fetch hf at_ ge)
  entry he _ ge at_ := absurd (entry he (by rw [at_]; simp)) (Nat.not_lt.mpr ge)

/-- The save of a live entry starts a fetch of it, the latest so far. -/
theorem awaits_of_filled (rulesOf : String → List Rule) (sound : Sound c)
    (supervised : Supervised c) (orderly : c.work.Orderly) {path : Path}
    (found : c.entryAt? path = some id) {e : Entry} (he : c.entries[id]? = some e)
    (live : e.isDisposed = false) :
    Awaits rulesOf id (e.fetches + 1) c.jobs.length (.saved path)
      ((c.start (.saved path)).1.ReadsText [] id) (c.start (.saved path)).1 := by
  let begun : Fetch := ⟨id, e.beginFetch.fetches, c.clock, .stat⟩
  let added := (c.addJob { stage := .starting }).1
  let d := (added.setEntry id e.beginFetch).setStage c.jobs.length (.fetching begun (.saved path))
  have step : c.step? (.call (.saved path)) = some d := by
    have there : added.entries[id]? = some e := he
    have finds : (c.addJob ⟨.starting, none, (Call.saved path).ofCatalog⟩).1.entryAt? path =
        some id := found
    have started : (c.start (.saved path)).1 =
        added.startFetch c.jobs.length id (.saved path) := by
      simp only [start, finds]
      rfl
    exact congrArg some (started.trans (startFetch_of_live there live _ _))
  have eq : (c.start (.saved path)).1 = d := Option.some.inj step
  rw [eq]
  have hs : added.stage? c.jobs.length = some .starting := stage?_addJob c true
  have hs' : d.stage? c.jobs.length = some (.fetching begun (.saved path)) :=
    stage?_setStage_self (c := added.setEntry id e.beginFetch) hs _
  have fetches : d.work.fetch? = Function.update c.fetch? c.jobs.length (some begun) := by
    have same : added.fetch? = c.fetch? := congrArg Work.fetch? (work_addJob c true)
    rw [work_setStage (c := added.setEntry id e.beginFetch) hs, ← same]
    rfl
  have entries : d.work.entries = c.entries.set id e.beginFetch := rfl
  constructor
  · exact supervised.sound_step? sound step
  · exact supervised.step? sound step
  · exact orderly_step? orderly step
  · exact .inl ⟨begun, hs'⟩
  · refine .inl ⟨begun, ?_, rfl, ?_⟩
    · rw [fetches, Function.update_self]
    · exact Nat.le_of_eq (Entry.fetches_beginFetch e).symm
  · refine sourced_of_unread _ (fun {j f} hf at_ ge => ?_) (fun {x} hx _ => ?_) _
    -- the fetch of the save itself has read nothing yet
    · rw [fetches] at hf
      rcases update_some_cases hf with ⟨-, rfl⟩ | ⟨-, hf⟩
      · rfl
      · -- a fetch from before has a smaller number
        obtain ⟨x, hx, le⟩ := orderly.known hf
        rw [at_] at hx
        obtain rfl := Option.some.inj (hx.symm.trans he)
        exact absurd le (Nat.not_le.mpr ge)
    · rw [entries, List.getElem?_set_self (List.getElem?_eq_some_iff.mp he).1] at hx
      cases hx
      rw [Entry.installed_beginFetch]
      exact Nat.lt_succ_of_le (orderly.installed_le he)

/-- The save of an entry under construction relies on the first fetch. -/
theorem awaits_of_vacant (rulesOf : String → List Rule) (sound : Sound c)
    (supervised : Supervised c) (orderly : c.work.Orderly) {path : Path} {slot : SlotId} {s : Slot}
    (found : c.find? path = some (slot, s)) (vacant : s.entry = none)
    (own : c.owners[slot]? = some id) (unread : c.Unread id) :
    ∃ job, Awaits rulesOf id 1 job (.construct slot)
      ((c.start (.saved path)).1.ReadsText [] id) (c.start (.saved path)).1 := by
  let added := (c.addJob { stage := .starting }).1
  let d := added.setStage c.jobs.length (.done (.flag false))
  obtain ⟨-, hs, -⟩ := find?_some found
  -- the job that constructs the entry
  obtain ⟨job, x, at_, rfl⟩ := sound.built.vacant hs vacant
  obtain ⟨-, own', number⟩ := sound.built.place at_
  obtain ⟨f, builds, entry, generation⟩ :
      ∃ f, c.stage? job = some (.fetching f (.construct x.slot)) ∧ f.entry = id ∧
        f.generation = 1 := by
    obtain ⟨stage, hj, site⟩ := Option.bind_eq_some_iff.mp at_
    cases stage with
    | fetching f purpose =>
        cases purpose with
        | construct slot =>
            cases site
            exact ⟨f, hj, Option.some.inj (own'.symm.trans own), number⟩
        | refresh | saved | update | opened | direct => cases site
    | starting | resolving | awaiting | checking | scanning | joining | done => cases site
  -- the save finds no entry and comes to its end at once
  have step : c.step? (.call (.saved path)) = some d := by
    have finds :
        (c.addJob ⟨.starting, none, (Call.saved path).ofCatalog⟩).1.entryAt? path = none := by
      show (c.find? path).bind (fun x => x.2.entry) = none
      rw [found]
      exact vacant
    have ended : (c.start (.saved path)).1 = added.complete c.jobs.length (.flag false) := by
      simp only [start, finds]
      rfl
    refine congrArg some (ended.trans (complete_alone ?_ _))
    simp [added, addJob]
  have eq : (c.start (.saved path)).1 = d := Option.some.inj step
  rw [eq]
  have work : d.work = c.work := by
    have same := work_setStage_of_idle (t := .done (.flag false)) (stage?_addJob c true) rfl rfl
    exact same.trans (work_addJob c true)
  refine ⟨job, supervised.sound_step? sound step, supervised.step? sound step,
    orderly_step? orderly step, .inl ⟨f, ?_⟩, ?_, ?_⟩
  · rw [stage?_setStage, if_neg (Nat.ne_of_gt (stage?_lt builds))]
    exact stage?_append _ builds
  · rw [work]
    refine .inl ⟨f, ?_, entry, Nat.le_of_eq generation.symm⟩
    show c.fetch? job = some f
    rw [fetch?, builds]
    rfl
  · rw [work]
    refine sourced_of_unread _ (fun hf at_ _ => unread.fetch hf at_) (fun he some => ?_) _
    exact absurd (unread.entry he) some

/-- No save is lost. A save finds a slot whose entry is there, or is under construction and still to
be read. When all is quiet afterwards, the fetches of the entry have had good answers and the entry
has been neither disposed of nor cleared, it shows a text that was read after the save. -/
theorem save_is_not_lost {config : Config} {clock : Time} (run : Run (new config clock) events c)
    {path : Path} {slot : SlotId} {s : Slot} (found : c.find? path = some (slot, s))
    (own : c.owners[slot]? = some id) (unread : s.entry = none → c.Unread id)
    (after : Run (c.start (.saved path)).1 later d) (quiet : d.isQuiet = true)
    (good : (c.start (.saved path)).1.allSucceed rulesOf id later = true)
    (uncleared : .clearEntry id ∉ later) {e : Entry} (he : d.entries[id]? = some e)
    (live : e.isDisposed = false) :
    ∃ text root, (c.start (.saved path)).1.ReadsText later id text root ∧
      e.Shows rulesOf root text := by
  obtain ⟨sound, supervised⟩ := sound_of_run run
  have orderly := orderly_of_run run
  obtain ⟨-, hs, -⟩ := find?_some found
  have live' : ∀ x : Entry, d.entries[id]? = some x → x.isDisposed = false := by
    intro x hx
    obtain rfl := Option.some.inj (he.symm.trans hx)
    exact live
  -- under construction, nothing has been read yet; otherwise the save fetches
  cases filled : s.entry with
  | none =>
      obtain ⟨job, awaits⟩ := awaits_of_vacant rulesOf sound supervised orderly found
        filled own (unread filled)
      exact (awaits.of_run after (by simp) good uncleared live').shows quiet Nat.one_pos he live
  | some id' =>
      obtain rfl : id' = id := Option.some.inj ((sound.owned.filled hs filled).symm.trans own)
      obtain ⟨-, x, -, -, hx, -⟩ := sound.filled hs filled
      have saved : Run c (.call (.saved path) :: later) d := .cons rfl after
      have up := live_of_run saved hx he live
      have finds : c.entryAt? path = some id' := by
        rw [entryAt?, found]
        exact filled
      have awaits := awaits_of_filled rulesOf sound supervised orderly finds hx up
      have up_to_date := awaits.of_run after (by simp) good uncleared live'
      exact up_to_date.shows quiet (Nat.succ_pos _) he live

/-- The rules of two stylesheets. -/
def aOrB (text : String) : List Rule :=
  [.style (if text == ".a{}" then ".a" else ".b")]

/-- A stylesheet has been constructed. -/
def constructed : List Event :=
  [.call (.create .css ⟨"/a.css"⟩ false)] ++ fetchAnswers 0 ⟨0, 4⟩ ".a{}" (aOrB ".a{}")

/-- It is fetched again, and its old text is in hand. -/
def readBefore : List Event :=
  constructed ++ [.call (.fetch 0), .answer 1 (.stat (.ok ⟨0, 4⟩)), .answer 1 (.text (.ok ".a{}"))]

/-- The fetch for the save is over first. -/
def overtaking : List Event :=
  fetchAnswers 2 ⟨1, 4⟩ ".b{}" (aOrB ".b{}") ++
    [.answer 1 (.parsed 0 (.ok (aOrB ".a{}"))), .answer 1 .built]

/-- A save while an old text is in hand, and one while nothing has been read. -/
theorem readBefore_save_is_not_lost :
    (∃ c d e, Run (new {} 0) readBefore c ∧ Run (c.start (.saved ⟨"/a.css"⟩)).1 overtaking d ∧
      d.entries[0]? = some e ∧ ∃ text root,
        (c.start (.saved ⟨"/a.css"⟩)).1.ReadsText overtaking 0 text root ∧
          e.Shows aOrB root text) ∧
    ∃ c d e, Run (new {} 0) [.call (.create .css ⟨"/a.css"⟩ false)] c ∧
      Run (c.start (.saved ⟨"/a.css"⟩)).1 (fetchAnswers 0 ⟨0, 4⟩ ".a{}" (aOrB ".a{}")) d ∧
      d.entries[0]? = some e ∧ ∃ text root, (c.start (.saved ⟨"/a.css"⟩)).1.ReadsText
        (fetchAnswers 0 ⟨0, 4⟩ ".a{}" (aOrB ".a{}")) 0 text root ∧ e.Shows aOrB root text := by
  constructor
  · have facts : ((new {} 0).replay? readBefore).bind (fun c =>
        (c.find? ⟨"/a.css"⟩).bind fun x =>
        ((c.start (.saved ⟨"/a.css"⟩)).1.replay? overtaking).bind fun d =>
        (d.entries[0]?).map fun e => (x.2.entry, c.owners[x.1]?, d.isQuiet,
          (c.start (.saved ⟨"/a.css"⟩)).1.allSucceed aOrB 0 overtaking, e.isDisposed)) =
        some (some 0, some 0, true, true, false) := by
      decide +kernel
    obtain ⟨c, hc, facts⟩ := Option.bind_eq_some_iff.mp facts
    obtain ⟨⟨slot, s⟩, found, facts⟩ := Option.bind_eq_some_iff.mp facts
    obtain ⟨d, hd, facts⟩ := Option.bind_eq_some_iff.mp facts
    obtain ⟨e, he, eq⟩ := Option.map_eq_some_iff.mp facts
    simp only [Prod.mk.injEq] at eq
    obtain ⟨filled, own, quiet, good, live⟩ := eq
    have run := run_iff_replay?.mpr hc
    have after := run_iff_replay?.mpr hd
    exact ⟨c, d, e, run, after, he, save_is_not_lost run found own
      (fun vacant => by cases vacant.symm.trans filled) after quiet good
      (by simp [overtaking, fetchAnswers]) he live⟩
  -- a save while the entry is still being constructed
  · let c := ((new {} 0).start (.create .css ⟨"/a.css"⟩ false)).1
    have run : Run (new {} 0) [.call (.create .css ⟨"/a.css"⟩ false)] c := .cons rfl (.nil c)
    have found : c.find? ⟨"/a.css"⟩ = some (0, ⟨⟨"/a.css"⟩, .css, none⟩) := by decide +kernel
    -- the one fetch is that of the construction, and it waits for the size
    have unread : c.Unread 0 :=
      { fetch := by
          intro j f hf _
          cases j with
          | zero =>
              cases hf
              rfl
          | succ j => cases hf
        entry := by
          intro e he
          cases he
          rfl }
    have facts : ((c.start (.saved ⟨"/a.css"⟩)).1.replay?
        (fetchAnswers 0 ⟨0, 4⟩ ".a{}" (aOrB ".a{}"))).bind (fun d => (d.entries[0]?).map fun e =>
          (d.isQuiet, (c.start (.saved ⟨"/a.css"⟩)).1.allSucceed aOrB 0
            (fetchAnswers 0 ⟨0, 4⟩ ".a{}" (aOrB ".a{}")), e.isDisposed)) =
        some (true, true, false) := by
      decide +kernel
    obtain ⟨d, hd, facts⟩ := Option.bind_eq_some_iff.mp facts
    obtain ⟨e, he, eq⟩ := Option.map_eq_some_iff.mp facts
    simp only [Prod.mk.injEq] at eq
    obtain ⟨quiet, good, live⟩ := eq
    have after := run_iff_replay?.mpr hd
    exact ⟨c, d, e, run, after, he,
      save_is_not_lost run found rfl (fun _ => unread) after quiet good (by simp [fetchAnswers]) he
        live⟩

/-- Whether an event is no read and no parse that fails. -/
def readsWell : Event → Bool
  | .answer _ (.text result) => result.isOk
  | .answer _ (.parsed _ result) => result.isOk
  | _ => true

/-- A save that is lost: no read and no parse fails afterwards, and the entry is registered and live
when all is quiet, but it does not show what was read after the save. -/
def Loses (rulesOf : String → List Rule) (events later : List Event) (path : Path) (id : EntryId) :
    Prop :=
  ∃ c d slot s e, Run (new {} 0) events c ∧ c.find? path = some (slot, s) ∧
    c.owners[slot]? = some id ∧ Run (c.start (.saved path)).1 later d ∧ d.isQuiet = true ∧
    later.all readsWell = true ∧ d.entryAt? path = some id ∧ d.entries[id]? = some e ∧
    e.isDisposed = false ∧
    ∀ text root, (c.start (.saved path)).1.ReadsText later id text root →
      ¬e.Shows rulesOf root text

/-- A replay is enough to see that a save was lost. -/
theorem loses_of_replay {path : Path} (index : SelectorIndex)
    (replay : ((new {} 0).replay? events).bind (fun c => (c.find? path).bind fun x =>
      ((c.start (.saved path)).1.replay? later).bind fun d => (d.entries[id]?).map fun e =>
        ((c.owners[x.1]?, d.isQuiet, later.all readsWell),
          d.entryAt? path, e.isDisposed, e.kind, e.index)) =
      some ((some id, true, true), some id, false, .css, index))
    (other : ∀ job text, .answer job (.text (.ok text)) ∈ later →
      index ≠ Fetch.indexOf [(text, rulesOf text)]) : Loses rulesOf events later path id := by
  obtain ⟨c, hc, facts⟩ := Option.bind_eq_some_iff.mp replay
  obtain ⟨⟨slot, s⟩, found, facts⟩ := Option.bind_eq_some_iff.mp facts
  obtain ⟨d, hd, facts⟩ := Option.bind_eq_some_iff.mp facts
  obtain ⟨e, he, eq⟩ := Option.map_eq_some_iff.mp facts
  simp only [Prod.mk.injEq] at eq
  obtain ⟨⟨own, quiet, good⟩, finds, live, css, shown⟩ := eq
  refine ⟨c, d, slot, s, e, run_iff_replay?.mpr hc, found, own, run_iff_replay?.mpr hd, quiet, good,
    finds, he, live, ?_⟩
  rintro text root ⟨early, job, late, -, -, -, rfl, -⟩ shows
  refine other job text (by simp) ?_
  rw [← shown, shows.index, css]
  rfl

/-- A save is lost on an entry under construction that has its text already, on an entry that is
cleared afterwards, and on an entry whose file's age cannot be had for the save. -/
theorem save_may_be_lost :
    Loses aOrB [.call (.create .css ⟨"/a.css"⟩ false), .answer 0 (.stat (.ok ⟨0, 4⟩)),
        .answer 0 (.text (.ok ".a{}"))]
      [.answer 0 (.parsed 0 (.ok (aOrB ".a{}"))), .answer 0 .built] ⟨"/a.css"⟩ 0 ∧
    Loses aOrB constructed
      (fetchAnswers 1 ⟨0, 4⟩ ".a{}" (aOrB ".a{}") ++ [.clearEntry 0]) ⟨"/a.css"⟩ 0 ∧
    Loses aOrB constructed [.answer 1 (.stat (.error (.readFailed ⟨"/a.css"⟩ "busy")))]
      ⟨"/a.css"⟩ 0 := by
  refine ⟨?_, ?_, ?_⟩
  · exact loses_of_replay (Fetch.indexOf [(".a{}", aOrB ".a{}")]) (by decide +kernel) (by simp)
  · refine loses_of_replay .empty (by decide +kernel) fun job text mem => ?_
    obtain ⟨-, rfl⟩ : job = 1 ∧ text = ".a{}" := by simpa [fetchAnswers] using mem
    decide +kernel
  · exact loses_of_replay (Fetch.indexOf [(".a{}", aOrB ".a{}")]) (by decide +kernel) (by simp)

end Catalog

end SelectorCatalog
