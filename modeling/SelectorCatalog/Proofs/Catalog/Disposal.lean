import SelectorCatalog.Proofs.Catalog.Source
import SelectorCatalog.Proofs.Catalog.Supervise

/-!
# Disposal is final

An entry is told to fetch, to clear itself, to check its file and to go, any number of times and in
any order, and fetches that were started before its disposal are still on their way afterwards. None
of this brings a disposed entry back: it does not change at all any more (`Turned.eq_of_disposed`),
so its index stays empty, its times stay, and its disposal stays the last that it has told. A fetch
that ends on it ends with an error (`fetchResult?_of_disposed`), whenever it was started.

Events happen between two moments of waiting, as everywhere in a catalogue: an index, the links and
the times that belong to it are written in one step.
-/

namespace SelectorCatalog

namespace Entry

/-- An entry that is disposed of has forgotten its links. -/
def Bare (e : Entry) : Prop :=
  e.isDisposed = true → e.dependencies = []

/-- An entry that is over holds nothing, and has told its disposal once and last. -/
structure Over (e : Entry) : Prop where
  disposed : e.isDisposed = true
  searchClass : ∀ query tag ignore, e.index.searchClass query tag ignore = []
  searchId : ∀ query, e.index.searchId query = []
  size : e.index.size = 0
  dependencies : e.dependencies = []
  sent : ∃ told, e.sent = told ++ [.disposed] ∧ .disposed ∉ told

variable {e d : Entry}

/-- An entry is disposed of when its index is. -/
theorem index_eq_disposed (gone : e.isDisposed = true) : e.index = .disposed := by
  have gone : e.index.isDisposed = true := gone
  cases h : e.index with
  | live names =>
      rw [h] at gone
      cases gone
  | disposed => rfl

/-- To clear an entry that is over is to leave it as it is. -/
theorem clear_eq_self (gone : e.isDisposed = true) (bare : e.Bare) : e.clear = e := by
  have index : e.index.clear = e.index := by rw [index_eq_disposed gone]; rfl
  rw [clear, index, ← bare gone]

theorem Turn.bare (h : e.Turn d) (bare : e.Bare) : d.Bare := by
  cases h with
  | same => exact bare
  -- a disposed entry begins no fetch
  | fetch live =>
      intro gone
      rw [isDisposed_beginFetch, live] at gone
      cases gone
  -- nor is anything installed in it
  | install generation found live installs =>
      intro gone
      rw [Entry.install] at installs
      split at installs
      · cases installs
      · split at installs
        · cases installs
          exact bare gone
        · -- what was taken over is a live index
          dsimp only at installs
          split at installs <;> cases installs <;> exact absurd gone (by
            show ¬found.index.isDisposed = true
            simp [live])
  | clear => exact fun _ => rfl
  | dispose =>
      intro _
      rw [Entry.dispose]
      split
      · next gone => exact bare gone
      · rfl

/-- No turn changes an entry that is disposed of. -/
theorem Turn.eq_of_disposed (h : e.Turn d) (gone : e.isDisposed = true) (bare : e.Bare) :
    d = e := by
  cases h with
  | same => rfl
  | fetch live => cases live.symm.trans gone
  | install generation found _ installs =>
      rw [Entry.install, if_pos gone] at installs
      cases installs
  | clear => exact clear_eq_self gone bare
  | dispose => rw [Entry.dispose, if_pos gone]

/-- Along several accesses an entry that is disposed of stays bare. -/
theorem Turned.bare (h : e.Turned d) (bare : e.Bare) : d.Bare := by
  induction h with
  | refl => exact bare
  | tail _ turn ih => exact turn.bare ih

/-- No access changes a bare entry that is disposed of. -/
theorem Turned.eq_of_disposed (h : e.Turned d) (gone : e.isDisposed = true) (bare : e.Bare) :
    d = e := by
  induction h with
  | refl => rfl
  | tail _ turn ih =>
      subst ih
      exact turn.eq_of_disposed gone bare

theorem Honest.over (honest : e.Honest) (gone : e.isDisposed = true) (bare : e.Bare) : e.Over where
  disposed := gone
  searchClass query tag ignore := by rw [index_eq_disposed gone]; rfl
  searchId query := by rw [index_eq_disposed gone]; rfl
  size := by rw [index_eq_disposed gone]; rfl
  dependencies := bare gone
  sent := honest.last gone

/-- Disposal leaves the times of an entry, and is told. -/
theorem dispose_of_live (live : e.isDisposed = false) :
    e.dispose.timestamp = e.timestamp ∧ e.dispose.indexedAt = e.indexedAt ∧
      e.dispose.sent = e.sent ++ [.disposed] := by
  rw [dispose, if_neg (by simp [live])]
  exact ⟨rfl, rfl, rfl⟩

end Entry

/-- A fetch does not end well on an entry that is disposed of. -/
theorem Fetch.result_of_disposed {f : Fetch} {e : Entry} {limit : Nat} {root : Option Path}
    {a : Answer} {result : Except Error Unit} (gone : e.isDisposed = true)
    (h : (f.resume e limit root a).2.2 = .finished result) : ∃ error, result = .error error := by
  obtain ⟨notices, stage, eq⟩ | ⟨notices, error, eq⟩ | ⟨_, _, _, e', -, -, installs, -⟩ :=
    f.resume_cases e limit root a
  · rw [eq] at h
    cases h
  · rw [eq] at h
    cases h
    exact ⟨error, rfl⟩
  · cases (Entry.install_ok installs).1.symm.trans gone

namespace Catalog

open Job (Purpose Stage)

/-- What the fetch of an entry comes to with an event, if the event ends one. -/
def fetchResult? (c : Catalog) (id : EntryId) : Event → Option (Except Error Unit)
  | .answer job a => (c.fetch? job).bind fun f => (c.entries[id]?).bind fun e =>
    match f.entry == id, (f.resume e c.config.maxFileBytes (c.rootOf e.scope) a).2.2 with
    | true, .finished result => some result
    | _, _ => none
  | _ => none

/-- Whether a job was called to fetch an entry: its fetch is under way, or the event is the call. -/
def IsCalledToFetch (c : Catalog) (id : EntryId) (event : Event) (job : JobId) : Prop :=
  (∃ f : Fetch, f.entry = id ∧ c.stage? job = some (.fetching f .direct)) ∨
    event = .call (.fetch id) ∧ job = c.jobs.length

variable {event : Event} {c d : Catalog} {id : EntryId} {e : Entry} {job : JobId}

/-- The fetch of a disposed entry fails. -/
theorem fetchResult?_of_disposed (he : c.entries[id]? = some e) (gone : e.isDisposed = true)
    {result : Except Error Unit} (h : c.fetchResult? id event = some result) :
    ∃ error, result = .error error := by
  cases event with
  | answer job a =>
      obtain ⟨f, -, h⟩ := Option.bind_eq_some_iff.mp h
      rw [he, Option.bind_some] at h
      split at h
      · next ends =>
          cases h
          exact Fetch.result_of_disposed gone ends
      · cases h
  | _ => cases h

/-- A call that fetches comes to what its fetch comes to. -/
theorem finished_of_resumeFetch {f : Fetch} {a : Answer} {result : Except Error Unit}
    (hs : c.stage? job = some (.fetching f .direct)) (he : c.entries[f.entry]? = some e)
    (came : (c.resumeFetch job f .direct a).stage? job = some (.done (.fetched result))) :
    (f.resume e c.config.maxFileBytes (c.rootOf e.scope) a).2.2 = .finished result := by
  rw [resumeFetch, he] at came
  dsimp only at came
  generalize f.resume e c.config.maxFileBytes (c.rootOf e.scope) a = r at came ⊢
  obtain ⟨e', notices, progress⟩ := r
  let told := (c.setEntry f.entry e').notify notices
  have there : told.stage? job = some (.fetching f .direct) := hs
  cases progress with
  | waiting stage =>
      have goes := stage?_setStage_self there (.fetching { f with stage := stage } .direct)
      cases came.symm.trans goes
  | finished result' =>
      have ended : (told.complete job (.fetched result')).stage? job = _ :=
        stage?_complete (by rw [there]; rfl) _
      cases came.symm.trans ended
      rfl

/-- A call that fetches a disposed entry fails. -/
theorem IsCalledToFetch.fails (called : c.IsCalledToFetch id event job)
    (he : c.entries[id]? = some e) (gone : e.isDisposed = true) (step : c.step? event = some d)
    {result : Except Error Unit} (came : d.outcome? job = some (.fetched result)) :
    ∃ error, result = .error error := by
  replace came := stage?_of_outcome? came
  obtain ⟨f, rfl, hs⟩ | ⟨rfl, rfl⟩ := called
  · cases step?_fares step hs with
    | stays same => cases same.symm.trans came
    | stopped i _ ended => cases ended.symm.trans came
    | answered a _ _ resumes =>
        have goes : d = c.resumeFetch job f .direct a := by simp [resumes, resume, hs]
        exact Fetch.result_of_disposed gone (finished_of_resumeFetch hs he (goes ▸ came))
    | woken entry _ waits => cases waits
    | joins parts plan joining => cases joining
  · let added := (c.addJob { stage := .starting, ofCatalog := false }).1
    have starts : added.startFetch c.jobs.length id .direct = d := Option.some.inj step
    have there : added.entries[id]? = some e := he
    rw [startFetch_of_disposed there gone] at starts
    have ended : d.stage? c.jobs.length = some (.done (.fetched (.error .disposed))) := by
      rw [← starts]
      exact stage?_complete (by rw [stage?_addJob c false]; rfl) _
    cases came.symm.trans ended
    exact ⟨_, rfl⟩

/-- Along a run each entry that is disposed of is bare. -/
theorem bare_of_run {config : Config} {clock : Time} {events : List Event}
    (run : Run (new config clock) events c) (he : c.entries[id]? = some e) : e.Bare := by
  -- a new catalogue has no entries, so every entry was added on the way
  obtain ⟨kind, path, scope, turned⟩ := (ages_of_run run).new he rfl
  exact turned.bare fun gone => by cases gone

/-- A live entry has not told its disposal, and tells it when it is disposed of. From then on,
whatever happens in the catalogue, it does not change any more, it finds nothing, its disposal is
the last that it has told and was told once. Every fetch of it that ends, ends with an error, every
fetch of it that is asked for is refused at once, and a call to fetch it fails. -/
theorem disposal_is_final {config : Config} {clock : Time} {events : List Event}
    (run : Run (new config clock) events c) (he : c.entries[id]? = some e) :
    (e.isDisposed = false → .disposed ∉ e.sent ∧
      ∀ d, c.step? (.disposeEntry id) = some d → ∃ e', d.entries[id]? = some e' ∧
        e'.isDisposed = true ∧ e'.timestamp = e.timestamp ∧ e'.indexedAt = e.indexedAt ∧
        e'.sent = e.sent ++ [.disposed]) ∧
    (e.isDisposed = true → e.Over ∧ ∀ later d, Run c later d → d.entries[id]? = some e ∧
      (∀ event result, d.fetchResult? id event = some result → ∃ error, result = .error error) ∧
      (∀ (job : JobId) (purpose : Purpose),
        d.startFetch job id purpose = d.afterFetch job id (.error .disposed) purpose) ∧
      ∀ event d' job result, d.step? event = some d' → d.IsCalledToFetch id event job →
        d'.outcome? job = some (.fetched result) → ∃ error, result = .error error) := by
  have honest := (sound_of_run run).1.honest he
  have bare := bare_of_run run he
  constructor
  -- what a live entry has told ends with no disposal; disposing of it adds one
  · intro live
    refine ⟨honest.live live, fun d step => ⟨e.dispose, ?_, Entry.isDisposed_dispose e,
      Entry.dispose_of_live live⟩⟩
    cases step
    show (c.entries.modify id Entry.dispose)[id]? = some e.dispose
    rw [List.getElem?_modify_eq, he]
    rfl
  · intro gone
    refine ⟨honest.over gone bare, fun later d run' => ?_⟩
    -- no step changes what was disposed of
    have still : d.entries[id]? = some e := by
      obtain ⟨e', he', turned⟩ := (ages_of_run run').old he
      rw [he', turned.eq_of_disposed gone bare]
    exact ⟨still, fun _ _ ends => fetchResult?_of_disposed still gone ends,
      startFetch_of_disposed still gone,
      fun _ _ _ _ step called came => called.fails still gone step came⟩

/-- A document is fetched, and disposed of while a second fetch is about to install what it found.
-/
def disposedMidway : List Event :=
  [.addStandalone .html ⟨"/a.html"⟩, .call (.fetch 0), .answer 0 (.stat (.ok ⟨5, 1⟩)),
    .answer 0 (.text (.ok "<link rel=stylesheet href=a.css>")), .answer 0 .built,
    .call (.fetch 0), .answer 1 (.stat (.ok ⟨6, 1⟩)),
    .answer 1 (.text (.ok "<link rel=stylesheet href=b.css>")), .disposeEntry 0]

/-- What comes too late: the end of the second fetch, a third one, and another disposal. -/
def tooLate : List Event :=
  [.answer 1 .built, .call (.fetch 0), .clearEntry 0, .call (.check 0), .disposeEntry 0]

theorem disposedMidway_is_final :
    ∃ c d e, Run (new {} 0) disposedMidway c ∧ c.entries[0]? = some e ∧ e.isDisposed = true ∧
      Run c tooLate d ∧ c.fetchResult? 0 (.answer 1 .built) = some (.error .disposed) ∧
      d.entries[0]? = some e ∧ e.timestamp = some 5 ∧
      e.sent = [.fetchComplete [⟨"/a.css"⟩], .disposed] ∧ e.Over := by
  have facts : ((new {} 0).replay? disposedMidway).bind (fun c => (c.replay? tooLate).bind fun _ =>
      (c.entries[0]?).map fun e => (e.isDisposed, e.timestamp, e.sent,
        decide (c.fetchResult? 0 (.answer 1 .built) = some (.error .disposed)))) =
      some (true, some 5, [.fetchComplete [⟨"/a.css"⟩], .disposed], true) := by
    decide +kernel
  obtain ⟨c, hc, facts⟩ := Option.bind_eq_some_iff.mp facts
  obtain ⟨d, hd, facts⟩ := Option.bind_eq_some_iff.mp facts
  obtain ⟨e, he, eq⟩ := Option.map_eq_some_iff.mp facts
  simp only [Prod.mk.injEq] at eq
  obtain ⟨gone, timestamp, sent, refused⟩ := eq
  have run := run_iff_replay?.mpr hc
  have run' := run_iff_replay?.mpr hd
  obtain ⟨ended, remains⟩ := (disposal_is_final run he).2 gone
  exact ⟨c, d, e, run, he, gone, run', of_decide_eq_true refused, (remains _ _ run').1, timestamp,
    sent, ended⟩

end Catalog

end SelectorCatalog
