import SelectorCatalog.Proofs.Catalog.Probe

/-!
# What is reported of disposal

A fetch or a check that ends because its entry was disposed of meanwhile is no failure, and most of
what can end so says nothing of it. Two things do: the opening of a stylesheet that stands alone,
and the check of all stylesheets, when one of them is disposed of between the request for its age
and the end of its fetch (`disposal_is_reported_by_checks`).

`Discreet` says so of a state. It follows the checks from their beginning: `asked j id` holds of the
part `j` that has asked for the age of a live stylesheet `id`, and the part comes to a disposal only
if it has and the entry is disposed of by then. Everything that can happen keeps it.
-/

namespace SelectorCatalog

/-- The error that a notice is of. -/
def Notice.error? : Notice → Option Error
  | .blockRefused _ error | .openFailed _ error | .fetchFailed _ error | .notCreated _ error
  | .otherKind _ error | .checkFailed _ error | .listFailed _ error => some error
  | _ => none

/-- Whether a notice is not of disposal, or of that of an entry which was opened alone. -/
def Notice.IsQuiet (n : Notice) : Prop :=
  n.error? = some .disposed → ∃ path, n = .openFailed path .disposed

/-- The error that a host answers with. -/
def Answer.error? : Answer → Option Error
  | .resolved (.error error) | .stat (.error error) | .text (.error error)
  | .listing (.error error) | .parsed _ (.error error) => some error
  | _ => none

/-- How far one of all checks is, that of the entry `id`: `asked` says that it has asked for the age
of the file, and `gone` that the entry is disposed of. -/
inductive Job.Stage.Probes (asked gone : Prop) (id : EntryId) : Job.Stage → Prop where
  | ask : asked → Probes asked gone id (.checking id)
  | fetch {f : Fetch} : asked → f.entry = id → Probes asked gone id (.fetching f .update)
  | done {outcome : Job.Outcome} : (outcome = .checked (.error .disposed) → asked ∧ gone) →
      Probes asked gone id (.done outcome)

/-- Whether a job is at none of the stages of a check. -/
def Job.Stage.IsIdle (s : Job.Stage) : Prop :=
  ∀ asked gone id, ¬s.Probes asked gone id

/-- What a part of a check may be at stays possible when more has been asked and more is gone. -/
theorem Job.Stage.Probes.mono {asked asked' gone gone' : Prop} {id : EntryId} {s : Job.Stage}
    (h : s.Probes asked gone id) (le : asked → asked') (le' : gone → gone') :
    s.Probes asked' gone' id := by
  cases h with
  | ask has => exact .ask (le has)
  | fetch has own => exact .fetch (le has) own
  | done disposal => exact .done fun eq => (disposal eq).imp le le'

namespace Catalog

open Job (Outcome Purpose Plan Stage)

variable {asked asked' : JobId → EntryId → Prop} {c d : Catalog} {id entry : EntryId}
  {job j : JobId} {s t : Stage} {f : Fetch} {e e' : Entry} {n : Notice} {ns : List Notice}
  {a : Answer} {purpose : Purpose} {outcome : Outcome} {parts : List JobId} {ids : List EntryId}

/-- Whether an event is an answer that speaks of disposal, which is not for the host to say. -/
def Event.SaysDisposed : Event → Prop
  | .answer _ a => a.error? = some .disposed
  | _ => False

/-- Whether an entry is disposed of. -/
def IsGone (c : Catalog) (id : EntryId) : Prop :=
  ∃ e, c.entries[id]? = some e ∧ e.isDisposed = true

/-- What may be reported of disposal: of an entry that was opened alone, and of one that is disposed
of and was not when its check asked for its age. -/
inductive MayTell (asked : JobId → EntryId → Prop) (es : List Entry) : Notice → Prop where
  | opened (path : Path) : MayTell asked es (.openFailed path .disposed)
  | checked {j : JobId} {id : EntryId} {e : Entry} : asked j id → es[id]? = some e →
      e.isDisposed = true → MayTell asked es (.checkFailed e.path .disposed)

/-- The parts of every check of all stylesheets follow their entries, and what is reported of
disposal comes from them. -/
structure Discreet (asked : JobId → EntryId → Prop) (c : Catalog) : Prop where
  follow : ∀ {job : JobId} {parts : List JobId} {ids : List EntryId},
    c.stage? job = some (.joining parts (.checks ids)) → List.Forall₂
      (fun j id => ∃ s, c.stage? j = some s ∧ s.Probes (asked j id) (c.IsGone id) id) parts ids
  told : ∀ n ∈ c.notices, n.error? = some .disposed → MayTell asked c.entries n

/-- The stage `t` is in order for the next stage of `j`, if `j` is one of all checks. -/
def Fits (asked : JobId → EntryId → Prop) (c : Catalog) (j : JobId) (t : Stage) : Prop :=
  ∀ id s, c.stage? j = some s → s.Probes (asked j id) (c.IsGone id) id →
    t.Probes (asked j id) (c.IsGone id) id

/-- Whether a job is the part of a check of all stylesheets that checks an entry. -/
def Lists (c : Catalog) (j : JobId) (id : EntryId) : Prop :=
  ∃ job parts ids, c.stage? job = some (.joining parts (.checks ids)) ∧ (j, id) ∈ parts.zip ids

/-- Whether a part of a check of all stylesheets asks for the age of a live one. -/
def Asks (c : Catalog) (j : JobId) (id : EntryId) : Prop :=
  c.Lists j id ∧ c.stage? j = some (.checking id) ∧
    ∃ e, c.entries[id]? = some e ∧ e.kind = .css ∧ e.isDisposed = false

/-! ## Elementary changes -/

/-- A job in an idle stage is no part of a check, so it may go anywhere. -/
theorem fits_of_idle (hs : c.stage? j = some s) (idle : s.IsIdle) : c.Fits asked j t := by
  intro id s' hs' probes
  obtain rfl := Option.some.inj (hs.symm.trans hs')
  exact absurd probes (idle _ _ _)

/-- A check may come to anything but a disposal at any time. -/
theorem fits_of_ne (ne : outcome ≠ .checked (.error .disposed)) : c.Fits asked j (.done outcome) :=
  fun _ _ _ _ => .done fun eq => absurd eq ne

theorem idle_starting : Stage.starting.IsIdle := by
  rintro asked gone id ⟨⟩

theorem idle_resolving (kind : EntryKind) (path : Path) : (Stage.resolving kind path).IsIdle := by
  rintro asked gone id ⟨⟩

theorem idle_awaiting (slot : SlotId) (path : Path) (byPath : Bool) :
    (Stage.awaiting slot path byPath).IsIdle := by
  rintro asked gone id ⟨⟩

theorem idle_scanning (root : Path) (pending found : List Path) :
    (Stage.scanning root pending found).IsIdle := by
  rintro asked gone id ⟨⟩

/-- At first nothing has been said. -/
theorem discreet_new (asked : JobId → EntryId → Prop) (config : Config) (clock : Time) :
    Discreet asked (new config clock) where
  follow h := by simp [new, stage?] at h
  told n mem := by simp [new] at mem

/-- What is asked besides makes no difference. -/
theorem Discreet.mono (h : Discreet asked c) (le : ∀ j id, asked j id → asked' j id) :
    Discreet asked' c where
  follow joins := by
    refine (h.follow joins).imp ?_
    rintro j id ⟨s, hs, probes⟩
    exact ⟨s, hs, probes.mono (le j id) fun gone => gone⟩
  told n mem disposed := by
    cases h.told n mem disposed with
    | opened path => exact .opened path
    | checked has he gone => exact .checked (le _ _ has) he gone

/-- Jobs stay where they are, and no check of all stylesheets is begun. -/
theorem Discreet.change (h : Discreet asked c)
    (kept : ∀ (id : EntryId) (e : Entry), c.entries[id]? = some e →
      ∃ e', d.entries[id]? = some e' ∧ Lasts e e')
    (stay : ∀ j s, c.stage? j = some s → d.stage? j = some s)
    (old : ∀ job parts ids, d.stage? job = some (.joining parts (.checks ids)) →
      c.stage? job = some (.joining parts (.checks ids)))
    (told : ∀ n ∈ d.notices, n ∈ c.notices ∨ n.IsQuiet) : Discreet asked d where
  follow joins := by
    refine (h.follow (old _ _ _ joins)).imp ?_
    rintro j id ⟨s, hs, probes⟩
    refine ⟨s, stay j s hs, probes.mono (fun has => has) ?_⟩
    rintro ⟨e, he, gone⟩
    obtain ⟨e', he', lasts⟩ := kept id e he
    exact ⟨e', he', lasts.disposed gone⟩
  told n mem disposed := by
    rcases told n mem with before | quiet
    · cases h.told n before disposed with
      | opened path => exact .opened path
      | @checked j id e has he gone =>
          obtain ⟨e', he', lasts⟩ := kept id e he
          rw [← lasts.path]
          exact .checked has he' (lasts.disposed gone)
    · obtain ⟨path, rfl⟩ := quiet disposed
      exact .opened path

/-- Entries take turns, and something quiet is reported. -/
theorem Discreet.turn (h : Discreet asked c) (jobs : d.jobs = c.jobs)
    (turns : Entry.Turns c.entries d.entries)
    (told : ∀ n ∈ d.notices, n ∈ c.notices ∨ n.IsQuiet) : Discreet asked d := by
  have same : d.stage? = c.stage? := stage?_congr jobs
  refine h.change ?_ (fun j s hs => same ▸ hs) (fun job parts ids joins => same ▸ joins) told
  intro id e he
  obtain ⟨e', he', turn⟩ := turns.2 id e he
  exact ⟨e', he', lasts_of_turned (.single turn)⟩

/-- What is neither a job nor an entry nor reported makes no difference. -/
theorem Discreet.frame (h : Discreet asked c) (jobs : d.jobs = c.jobs)
    (entries : d.entries = c.entries) (notices : d.notices = c.notices) : Discreet asked d :=
  h.turn jobs (entries ▸ .refl _) fun _ mem => .inl (notices ▸ mem)

/-- Notices that are quiet keep a catalogue discreet. -/
theorem Discreet.notify (h : Discreet asked c) (quiet : ∀ n ∈ ns, n.IsQuiet) :
    Discreet asked (c.notify ns) :=
  h.turn rfl (.refl _) fun n mem => (List.mem_append.mp mem).imp_right (quiet n)

/-- Something is reported that is not of disposal. -/
theorem Discreet.tell (h : Discreet asked c) (ne : n.error? ≠ some .disposed) :
    Discreet asked (c.notify [n]) := by
  refine h.notify ?_
  intro n' mem disposed
  obtain rfl := List.mem_singleton.mp mem
  exact absurd disposed ne

/-- So does a turn of an entry. -/
theorem Discreet.changeEntry (h : Discreet asked c) (id : EntryId) {g : Entry → Entry}
    (turn : ∀ e : Entry, e.Turn (g e)) : Discreet asked (c.changeEntry id g) :=
  h.turn rfl (.modify _ _ turn) fun _ => .inl

theorem Discreet.setEntry (h : Discreet asked c) (he : c.entries[id]? = some e)
    (turn : e.Turn e') : Discreet asked (c.setEntry id e') :=
  h.turn rfl (.set he turn) fun _ => .inl

theorem Discreet.addEntry (h : Discreet asked c) (e : Entry) : Discreet asked (c.addEntry e).1 := by
  refine h.change ?_ (fun _ _ hs => hs) (fun _ _ _ joins => joins) fun _ => .inl
  intro id x hx
  exact ⟨x, getElem?_append_some _ hx, .refl x⟩

/-- New jobs have not begun. -/
theorem Discreet.enlist (h : Discreet asked c) {ts : List Job}
    (starting : ∀ u ∈ ts, u.stage = .starting) :
    Discreet asked { c with jobs := c.jobs ++ ts } := by
  refine h.change (fun id e he => ⟨e, he, .refl e⟩) (fun j s hs => stage?_append ts hs) ?_
    fun _ => .inl
  intro job parts ids joins
  obtain ⟨u, hu, at_⟩ := Option.map_eq_some_iff.mp joins
  rcases Nat.lt_or_ge job c.jobs.length with lt | ge
  · rw [List.getElem?_append_left lt] at hu
    rw [stage?, hu, Option.map_some, at_]
  · rw [List.getElem?_append_right ge] at hu
    cases (starting u (List.mem_of_getElem? hu)).symm.trans at_

/-- A job goes on, and does not begin to wait for checks. -/
theorem Discreet.setStage (h : Discreet asked c) (fits : c.Fits asked j t)
    (new : ∀ parts ids, t ≠ .joining parts (.checks ids)) : Discreet asked (c.setStage j t) where
  follow {job parts ids} joins := by
    rw [stage?_setStage] at joins
    split at joins
    · obtain ⟨s, -, eq⟩ := Option.map_eq_some_iff.mp joins
      exact absurd eq (new parts ids)
    · refine (h.follow joins).imp ?_
      rintro i id ⟨s, hs, probes⟩
      rw [stage?_setStage]
      split
      · next eq =>
          subst eq
          rw [hs]
          exact ⟨t, rfl, fits id s hs probes⟩
      · exact ⟨s, hs, probes⟩
  told := h.told

/-! ## The end of a job -/

/-- So does a removal, which says nothing. -/
theorem Discreet.remove (h : Discreet asked c) (path : Path) :
    Discreet asked (c.remove path).1 := by
  obtain ⟨rs, es, eq, disposals⟩ := remove_spec c path
  rw [eq]
  exact h.turn rfl disposals.turns fun _ => .inl

theorem Discreet.reset (h : Discreet asked c) : Discreet asked c.reset := by
  obtain ⟨es, eq, disposals, -⟩ := reset_spec c
  rw [eq]
  exact h.turn rfl disposals.turns fun _ => .inl

theorem Discreet.removeGone (h : Discreet asked c) (paths : List Path) :
    Discreet asked (c.removeGone paths) := by
  induction paths generalizing c with
  | nil => exact h
  | cons path rest ih =>
      have removed := h.remove path
      simp only [Catalog.removeGone, List.foldl_cons] at ih ⊢
      split
      · next d eq =>
          rw [eq] at removed
          exact ih (removed.tell (by simp [Notice.error?]))
      · next d eq =>
          rw [eq] at removed
          exact ih removed

/-- A check that has come to a disposal has asked for the age of its file, and its entry is disposed
of. -/
theorem Discreet.gone_of_joined (h : Discreet asked c)
    (joins : c.stage? job = some (.joining parts (.checks ids))) {outcomes : List Outcome}
    (ended : parts.mapM c.outcome? = some outcomes)
    (mem : (id, .checked (.error .disposed)) ∈ ids.zip outcomes) :
    ∃ j, asked j id ∧ c.IsGone id := by
  have follow := h.follow joins
  clear joins
  induction follow generalizing outcomes with
  | nil => cases mem
  | @cons j id' parts ids here _ ih =>
      rw [List.mapM_cons] at ended
      obtain ⟨outcome, came, ended⟩ := Option.bind_eq_some_iff.mp ended
      obtain ⟨rest, later, eq⟩ := Option.bind_eq_some_iff.mp ended
      obtain rfl := Option.some.inj eq
      rcases List.mem_cons.mp mem with eq | mem
      · obtain ⟨s, hs, probes⟩ := here
        obtain ⟨rfl, rfl⟩ := Prod.mk.inj eq
        obtain rfl := Option.some.inj (hs.symm.trans (stage?_of_outcome? came))
        cases probes with
        | done disposal => exact ⟨j, disposal rfl⟩
      · exact ih later mem

/-- What a job comes to with its parts is quiet, as far as the parts have asked. -/
theorem Discreet.follow_joined (h : Discreet asked c) {plan : Plan}
    (joins : c.stage? job = some (.joining parts plan)) {outcomes : List Outcome}
    (ended : parts.mapM c.outcome? = some outcomes) :
    Discreet asked (c.follow outcomes plan).1 := by
  cases plan with
  | attach => exact h
  | remove paths => exact h.removeGone paths
  | project root found => exact h.tell (by simp [Notice.error?])
  | checks ids =>
      refine { follow := h.follow, told := ?_ }
      intro n mem disposed
      rcases List.mem_append.mp mem with before | mem
      · exact h.told n before disposed
      · obtain ⟨⟨id, outcome⟩, pair, eq⟩ := List.mem_filterMap.mp mem
        split at eq
        · next id error same =>
            cases same
            obtain ⟨e, he, rfl⟩ := Option.map_eq_some_iff.mp eq
            obtain rfl := Option.some.inj disposed
            obtain ⟨j, has, x, hx, gone⟩ := h.gone_of_joined joins ended pair
            obtain rfl := Option.some.inj (he.symm.trans hx)
            exact .checked has he gone
        · cases eq

/-- A job goes on once its parts are over. -/
theorem Discreet.joinParts (h : Discreet asked c) (job : JobId) :
    Discreet asked (c.joinParts job) := by
  rw [Catalog.joinParts]
  split
  · next parts plan joins =>
      split
      · next outcomes ended =>
          have after := h.follow_joined joins ended
          have ne : (c.follow outcomes plan).2 ≠ .checked (.error .disposed) := by
            cases plan <;> simp [Catalog.follow]
          exact after.setStage (fits_of_ne ne) (by simp)
      · exact h
  · exact h

/-- A job that is over, and the one that it is a part of, keep a catalogue discreet. -/
theorem Discreet.complete (h : Discreet asked c) (fits : c.Fits asked j (.done outcome)) :
    Discreet asked (c.complete j outcome) := by
  rw [Catalog.complete]
  have ended := h.setStage fits (by simp)
  split
  · exact ended.joinParts _
  · exact ended

/-- A job may come to anything but a disposal at any time. -/
theorem Discreet.complete_of_ne (h : Discreet asked c) (j : JobId)
    (ne : outcome ≠ .checked (.error .disposed)) : Discreet asked (c.complete j outcome) :=
  h.complete (fits_of_ne ne)

/-! ## Fetching -/

/-- What is said after a fetch is quiet: of a disposal nothing is said. -/
theorem fetchNotices_isQuiet (path : Path) (result : Except Error Unit) :
    ∀ n ∈ fetchNotices path result, n.IsQuiet := by
  unfold fetchNotices
  split
  · simp
  · next error ne =>
      intro n mem disposed
      obtain rfl := List.mem_singleton.mp mem
      exact absurd (Option.some.inj disposed) ne
  · simp

theorem Discreet.afterConstruction (h : Discreet asked c) (j : JobId) (slot : SlotId)
    (entry : EntryId) : Discreet asked (c.afterConstruction j slot entry) := by
  have filled : Discreet asked (c.fill slot entry) := h.frame rfl rfl rfl
  simp only [Catalog.afterConstruction]
  split
  · exact filled.complete_of_ne j (by simp)
  · exact (filled.changeEntry entry fun _ => .dispose).complete_of_ne j (by simp)

/-- What follows a fetch says nothing of disposal, unless the fetch was one of a check. -/
theorem Discreet.afterFetch (h : Discreet asked c) {result : Except Error Unit}
    (ends : purpose = .update → result = .error .disposed →
      c.Fits asked j (.done (.checked (.error .disposed)))) :
    Discreet asked (c.afterFetch j entry result purpose) := by
  cases purpose with
  | construct slot =>
      exact (h.notify (fetchNotices_isQuiet _ result)).afterConstruction j slot entry
  | refresh path => exact (h.notify (fetchNotices_isQuiet path result)).complete_of_ne j (by simp)
  | saved path => exact (h.notify (fetchNotices_isQuiet path result)).complete_of_ne j (by simp)
  | update =>
      -- an update that fails with a disposal ends so, and says nothing of it
      cases result with
      | ok =>
          have told := h.tell (n := .stylesheetUpdated (c.pathOf entry)) (by simp [Notice.error?])
          exact told.complete_of_ne j (by simp)
      | error error =>
          by_cases disposed : error = .disposed
          · subst disposed
            exact h.complete (ends rfl rfl)
          · exact h.complete_of_ne j (by simpa using disposed)
  -- an opened stylesheet stands alone, and its failure is reported
  | opened =>
      cases result with
      | ok => exact h.complete_of_ne j (by simp)
      | error error =>
          refine (h.notify ?_).complete_of_ne j (by simp)
          intro n mem disposed
          obtain rfl := List.mem_singleton.mp mem
          obtain rfl := Option.some.inj disposed
          exact ⟨_, rfl⟩
  | direct => exact h.complete_of_ne j (by simp)

/-- A fetch starts, unless the entry is disposed of. -/
theorem Discreet.startFetch (h : Discreet asked c)
    (begins : ∀ f : Fetch, f.entry = entry → c.Fits asked j (.fetching f purpose))
    (ends : c.IsGone entry → purpose = .update →
      c.Fits asked j (.done (.checked (.error .disposed)))) :
    Discreet asked (c.startFetch j entry purpose) := by
  cases he : c.entries[entry]? with
  | none =>
      rw [Catalog.startFetch, he]
      exact h
  | some e =>
      cases live : e.isDisposed with
      | true =>
          rw [startFetch_of_disposed he live]
          exact h.afterFetch fun update _ => ends ⟨e, he, live⟩ update
      | false =>
          rw [startFetch_of_live he live]
          have fits := begins ⟨entry, e.beginFetch.fetches, c.clock, .stat⟩ rfl
          exact (h.setStage fits (by simp)).setEntry he (.fetch live)

/-- A job that is no check starts a fetch for something else. -/
theorem Discreet.startFetch_idle (h : Discreet asked c) (hs : c.stage? j = some s)
    (idle : s.IsIdle) : Discreet asked (c.startFetch j entry purpose) :=
  h.startFetch (fun _ _ => fits_of_idle hs idle) fun _ _ => fits_of_idle hs idle

/-- The parser's answer is passed on, as the end of the fetch or as what is reported. -/
theorem afterParse_of_ne {result : Except Error (List Rule)} (frank : result ≠ .error .disposed)
    (e : Entry) (stat : FileStat) (dependencies : List Path) (blocks : List Block) (i : Nat) :
    (∀ n ∈ (Fetch.afterParse e stat dependencies blocks i result).1, n.IsQuiet) ∧
      (Fetch.afterParse e stat dependencies blocks i result).2 ≠ .finished (.error .disposed) := by
  cases result with
  | ok rules => simp [Fetch.afterParse, Fetch.fatal?, Fetch.refusal]
  | error error =>
      have other : error ≠ .disposed := by simpa using frank
      unfold Fetch.afterParse
      split
      · next fatal came =>
          obtain ⟨-, rfl⟩ : _ ∧ error = fatal := by simpa [Fetch.fatal?] using came
          exact ⟨by simp, by simpa using other⟩
      · refine ⟨?_, by simp⟩
        intro n mem disposed
        obtain rfl := List.mem_singleton.mp mem
        exact absurd (Option.some.inj disposed) other

/-- What a fetch itself reports is the refusal of a style element. -/
theorem resume_isQuiet (frank : a.error? ≠ some .disposed) (f : Fetch) (e : Entry) (limit : Nat)
    (root : Option Path) : ∀ n ∈ (f.resume e limit root a).2.1, n.IsQuiet := by
  unfold Fetch.resume
  split
  case h_2 | h_6 => split <;> simp
  case h_5 i result _ =>
    have other : result ≠ .error .disposed := by
      rintro rfl
      exact frank rfl
    exact (afterParse_of_ne other e _ _ _ i).1
  all_goals simp

/-- A fetch comes to a disposal only once its entry is disposed of. -/
theorem gone_of_resume (frank : a.error? ≠ some .disposed) {limit : Nat} {root : Option Path}
    (hr : f.resume e limit root a = (e', ns, .finished (.error .disposed))) :
    e'.isDisposed = true := by
  unfold Fetch.resume at hr
  split at hr
  case h_1 | h_3 =>
    cases hr
    exact absurd rfl frank
  case h_2 => split at hr <;> cases hr
  case h_4 | h_7 => cases hr
  case h_5 i result _ =>
    have other : result ≠ .error .disposed := by
      rintro rfl
      exact frank rfl
    exact absurd (Prod.mk.inj (Prod.mk.inj hr).2).2 (afterParse_of_ne other e _ _ _ i).2
  case h_6 =>
    split at hr
    · cases hr
    · next error refused =>
        cases hr
        exact Entry.isDisposed_of_refused refused

/-- An answer to a fetch keeps a catalogue discreet unless it says of itself that an entry is
disposed of. -/
theorem Discreet.resumeFetch (h : Discreet asked c) (hs : c.stage? j = some (.fetching f purpose))
    (frank : a.error? ≠ some .disposed) : Discreet asked (c.resumeFetch j f purpose a) := by
  rw [Catalog.resumeFetch]
  split
  · exact h
  · next e he =>
      generalize hr : f.resume e c.config.maxFileBytes (c.rootOf e.scope) a = r
      obtain ⟨e', ns, progress⟩ := r
      have turn := turn_resume f e c.config.maxFileBytes (c.rootOf e.scope) a
      have quiet := resume_isQuiet frank f e c.config.maxFileBytes (c.rootOf e.scope)
      rw [hr] at turn quiet
      -- what the entry says on the way is no report of a disposal
      have told : Discreet asked ((c.setEntry f.entry e').notify ns) :=
        (h.setEntry he turn).notify quiet
      cases progress with
      | waiting stage =>
          refine told.setStage ?_ (by simp)
          intro id s hs' probes
          obtain rfl := Option.some.inj (hs.symm.trans hs')
          cases probes with
          | fetch has own => exact .fetch has own
      | finished result =>
          refine told.afterFetch ?_
          rintro rfl rfl id s hs' probes
          obtain rfl := Option.some.inj (hs.symm.trans hs')
          -- the entry that the check was for is the one found disposed of
          cases probes with
          | fetch has own =>
              subst own
              refine .done fun _ => ⟨has, e', ?_, gone_of_resume frank hr⟩
              exact List.getElem?_set_self (List.getElem?_eq_some_iff.mp he).1

/-! ## Creating entries -/

theorem Discreet.share (h : Discreet asked c) (hs : c.stage? j = some s) (idle : s.IsIdle)
    (slot : SlotId) (entry : EntryId) (path : Path) (byPath : Bool) :
    Discreet asked (c.share j slot entry path byPath) := by
  rw [Catalog.share]
  split
  · exact h.complete_of_ne j (by simp)
  · split
    · exact h.startFetch_idle hs idle
    · exact h.complete_of_ne j (by simp)

/-- To create an entry keeps a catalogue discreet. -/
theorem Discreet.createAt (h : Discreet asked c) (hs : c.stage? j = some s) (idle : s.IsIdle)
    (kind : EntryKind) (path : Path) (byPath : Bool) :
    Discreet asked (c.createAt j kind path byPath) := by
  cases found : c.find? path with
  | none =>
      rw [createAt_of_none found]
      let added : Entry := { kind := kind, path := path, scope := .registry }
      let first : Stage :=
        .fetching ⟨c.entries.length, 1, c.clock, .stat⟩ (.construct c.slots.length)
      have begun :=
        (h.addEntry added.beginFetch).setStage (t := first) (fits_of_idle hs idle) (by simp)
      exact begun.frame rfl rfl rfl
  | some found' =>
      obtain ⟨slot, x⟩ := found'
      rw [createAt_of_some found]
      split
      · cases x.entry with
        | none => exact h.setStage (fits_of_idle hs idle) (by simp)
        | some entry => exact h.share hs idle slot entry path byPath
      · have told := h.tell (n := .otherKind kind (.kindMismatch path x.kind))
          (by simp [Notice.error?])
        exact told.complete_of_ne j (by simp)

theorem Discreet.startCreate (h : Discreet asked c) (hs : c.stage? j = some s) (idle : s.IsIdle)
    (kind : EntryKind) (path : Path) (byPath : Bool) :
    Discreet asked (c.startCreate j kind path byPath) := by
  rw [Catalog.startCreate]
  split
  · exact h.setStage (fits_of_idle hs idle) (by simp)
  · exact h.createAt hs idle kind path false

/-! ## Checks -/

/-- A check of one stylesheet for itself. -/
theorem Discreet.startCheck (h : Discreet asked c) (hs : c.stage? j = some s) (idle : s.IsIdle)
    (entry : EntryId) : Discreet asked (c.startCheck j entry) := by
  rw [Catalog.startCheck]
  split
  · exact h.complete_of_ne j (by simp)
  · exact h.setStage (fits_of_idle hs idle) (by simp)

/-- So does the time that a check was told, unless it says of itself that an entry is disposed of.
-/
theorem Discreet.afterStat (h : Discreet asked c) (hs : c.stage? j = some (.checking entry))
    {result : Except Error FileStat} (frank : result ≠ .error .disposed) :
    Discreet asked (c.afterStat j entry result) := by
  cases result with
  | error error =>
      simp only [Catalog.afterStat]
      split
      · have told := h.tell (n := .stylesheetGone (c.pathOf entry)) (by simp [Notice.error?])
        exact (told.changeEntry entry fun _ => .dispose).complete_of_ne j (by simp)
      · exact h.complete_of_ne j (by simpa using frank)
  | ok stat =>
      simp only [Catalog.afterStat]
      split
      · refine h.startFetch ?_ ?_
        · intro f own id s hs' probes
          obtain rfl := Option.some.inj (hs.symm.trans hs')
          cases probes with
          | ask has => exact .fetch has own
        · intro gone _ id s hs' probes
          obtain rfl := Option.some.inj (hs.symm.trans hs')
          cases probes with
          | ask has => exact .done fun _ => ⟨has, gone⟩
      · exact h.complete_of_ne j (by simp)

/-! ## Jobs with parts -/

/-- Parts that create entries start one after another. -/
theorem Discreet.startPartsFrom_create (h : Discreet asked c) (paths : List Path) (byPath : Bool)
    {first : JobId} (starting : ∀ i < paths.length, c.stage? (first + i) = some .starting) :
    Discreet asked (c.startPartsFrom first (paths.map fun path => .create path byPath)) := by
  induction paths generalizing c first with
  | nil => exact h
  | cons path rest ih =>
      have hs : c.stage? first = some .starting := starting 0 (Nat.zero_lt_succ _)
      have first_part := h.startCreate hs idle_starting .css path byPath
      exact ih first_part (starting_startPart starting (.create path byPath))

/-- The parts of a job create entries. -/
theorem Discreet.startParts_create (h : Discreet asked c) (hs : c.stage? j = some s)
    (idle : s.IsIdle) (paths : List Path) (byPath : Bool) {plan : Plan}
    (other : ∀ ids, plan ≠ .checks ids) :
    Discreet asked (c.startParts j (paths.map fun path => .create path byPath) plan) := by
  rw [startParts_eq]
  refine Discreet.joinParts (Discreet.startPartsFrom_create ?_ paths byPath ?_) j
  · let fresh : Job := { stage := .starting, parent := some j }
    let parts : List Part := paths.map fun path => .create path byPath
    have listed : Discreet asked { c with jobs := c.jobs ++ List.replicate parts.length fresh } :=
      h.enlist fun u mem => by rw [List.eq_of_mem_replicate mem]
    refine listed.setStage (fits_of_idle (stage?_append _ hs) idle) ?_
    intro parts ids eq
    cases eq
    exact other ids rfl
  · intro i lt
    exact stage?_enlisted hs (by rwa [List.length_map])

theorem Discreet.startAttach (h : Discreet asked c) (hs : c.stage? j = some s) (idle : s.IsIdle)
    (links : List Path) : Discreet asked (c.startAttach j links) :=
  h.startParts_create hs idle (distinct links) true (by simp)

theorem Discreet.startChange (h : Discreet asked c) (hs : c.stage? j = some s) (idle : s.IsIdle)
    (change : Change) : Discreet asked (c.startChange j change) := by
  rw [Catalog.startChange]
  split
  · exact h.complete_of_ne j (by simp)
  · let added := stylesheetsAmong c.config change.added
    have told : Discreet asked (c.notify (added.map .stylesheetAdded)) :=
      h.notify (by simp [Notice.IsQuiet, Notice.error?])
    exact told.startParts_create hs idle added false (by simp)

theorem Discreet.scan (h : Discreet asked c) (hs : c.stage? j = some s) (idle : s.IsIdle)
    (root : Path) (found pending : List Path) : Discreet asked (c.scan j root found pending) := by
  cases pending with
  | nil => exact h.startParts_create hs idle found false (by simp)
  | cons dir pending => exact h.setStage (fits_of_idle hs idle) (by simp)

/-- So does a listing. -/
theorem Discreet.afterListing (h : Discreet asked c) (hs : c.stage? j = some s) (idle : s.IsIdle)
    (root dir : Path) (pending found : List Path) {result : Except Error (List DirEntry)}
    (frank : result ≠ .error .disposed) :
    Discreet asked (c.afterListing j root dir pending found result) := by
  cases result with
  | error error =>
      have other : error ≠ .disposed := by simpa using frank
      have told := h.tell (n := .listFailed dir error) fun eq => other (Option.some.inj eq)
      exact told.scan hs idle root found pending
  | ok members => exact h.scan hs idle root _ _

/-- The check of a live stylesheet begins with the request for its age. -/
theorem asks_startChecks (hs : c.stage? job = some .starting) {k : Nat}
    (at_ : c.stylesheets[k]? = some id) (sheet : IsStylesheet c.entries id)
    (live : ¬(c.entries[id]?).all Entry.isDisposed = true) :
    (c.startChecks job).Asks (c.jobs.length + k) id := by
  obtain ⟨y, js, rfl, -, eq, joins, -, stages⟩ := startChecks_eq hs
  let begun : Catalog := { c with jobs := js }
  obtain ⟨ns, joined⟩ := joinParts_checks joins
  have asks : begun.stage? (c.jobs.length + k) = some (.checking id) := by
    rw [stages k id at_, checkStage, if_neg live]
  have lt : k < c.stylesheets.length := (List.getElem?_eq_some_iff.mp at_).1
  have part : c.jobs.length + k ∈ List.range' c.jobs.length c.stylesheets.length :=
    mem_row.mpr ⟨k, lt, rfl⟩
  -- the job waits for this part
  have open_ : begun.outcome? (c.jobs.length + k) = none := outcome?_of_goes asks (by simp)
  rw [gathered, mapM_outcome?_of_goes part open_] at joined
  obtain ⟨e, he, css⟩ := sheet
  rw [he, Option.all_some, Bool.not_eq_true] at live
  rw [eq, joined]
  refine ⟨⟨job, _, _, stage?_setStage_self (c := begun.notify ns) joins _, ?_⟩, ?_, e, he, css,
    live⟩
  · refine List.mem_iff_getElem?.mpr ⟨k, List.getElem?_zip_eq_some.mpr ⟨?_, at_⟩⟩
    rw [List.getElem?_range' lt, Nat.one_mul]
  · rw [stage?_setStage, if_neg (Nat.ne_of_lt (Nat.lt_add_right k (stage?_lt hs)))]
    exact asks

/-- The checks of all stylesheets begin. -/
theorem Discreet.startChecks (h : Discreet asked c) (hs : c.stage? job = some .starting)
    (sheets : ∀ id ∈ c.stylesheets, IsStylesheet c.entries id)
    (records : ∀ j id, (c.startChecks job).Asks j id → asked j id) :
    Discreet asked (c.startChecks job) := by
  obtain ⟨y, js, rfl, length, eq, joins, same, stages⟩ := startChecks_eq hs
  let begun : Catalog := { c with jobs := js }
  -- a part has asked, or its entry was disposed of before
  have probes : ∀ k id, c.stylesheets[k]? = some id →
      (c.checkStage id).Probes (asked (c.jobs.length + k) id) (begun.IsGone id) id := by
    intro k id at_
    rw [checkStage]
    split
    · exact .done (by simp)
    · next live =>
        have sheet := sheets id (List.mem_of_getElem? at_)
        exact .ask (records _ id (asks_startChecks hs at_ sheet live))
  suffices follows : Discreet asked begun by
    rw [eq]
    exact follows.joinParts job
  refine { follow := ?_, told := h.told }
  intro job' parts ids joins'
  by_cases own : job' = job
  · subst own
    obtain ⟨rfl, rfl⟩ : _ ∧ _ := by simpa using joins.symm.trans joins'
    refine List.forall₂_iff_get.mpr ⟨List.length_range', ?_⟩
    intro k _ lt
    -- the part of a stylesheet stands at its place among the parts
    have at_ : c.stylesheets[k]? = some (c.stylesheets.get ⟨k, lt⟩) :=
      List.getElem?_eq_getElem lt
    have part : (List.range' c.jobs.length c.stylesheets.length).get ⟨k, by simpa using lt⟩ =
        c.jobs.length + k := by simp
    rw [part]
    exact ⟨_, stages k _ at_, probes k _ at_⟩
  -- a job that was there before waits for the parts that it waited for
  · by_cases old : job' < c.jobs.length
    · rw [same job' old (Ne.symm own)] at joins'
      refine (h.follow joins').imp ?_
      rintro j id ⟨s, hs', probes⟩
      refine ⟨s, ?_, probes⟩
      rw [same j (stage?_lt hs'), hs']
      rintro rfl
      obtain rfl := Option.some.inj (hs.symm.trans hs')
      cases probes
    · -- a part does not wait for checks
      obtain ⟨k, rfl⟩ := Nat.exists_eq_add_of_le (Nat.le_of_not_lt old)
      have lt : k < c.stylesheets.length := by
        have := stage?_lt joins'
        rw [length] at this
        exact Nat.lt_of_add_lt_add_left this
      have at_ := List.getElem?_eq_getElem lt
      have fits := probes k _ at_
      rw [Option.some.inj ((stages k _ at_).symm.trans joins')] at fits
      cases fits

/-! ## Every event -/

/-- A job goes on with what the host answers. -/
theorem Discreet.resume (h : Discreet asked c) (frank : a.error? ≠ some .disposed) (j : JobId) :
    Discreet asked (c.resume j a) := by
  unfold Catalog.resume
  split
  · next kind path result hs =>
      cases result with
      | ok file => exact h.createAt hs (idle_resolving kind path) kind file true
      | error error =>
          have told := h.tell (n := .notCreated path error) frank
          exact told.complete_of_ne j (by simp)
  · next hs => exact h.resumeFetch hs frank
  · next entry result hs =>
      refine h.afterStat hs ?_
      rintro rfl
      exact frank rfl
  · next root dir pending found result hs =>
      refine h.afterListing hs (idle_scanning root _ found) root dir pending found ?_
      rintro rfl
      exact frank rfl
  · exact h

/-- A job that is woken keeps a catalogue discreet. -/
theorem Discreet.wake? (h : Discreet asked c) (step : c.wake? j = some d) : Discreet asked d := by
  rw [Catalog.wake?] at step
  split at step
  · next slot path byPath hs =>
      obtain ⟨entry, -, rfl⟩ := Option.map_eq_some_iff.mp step
      exact h.share hs (idle_awaiting slot path byPath) slot entry path byPath
  · cases step

/-- A new job has not begun. -/
theorem Discreet.addJob (h : Discreet asked c) (ofCatalog : Bool) :
    Discreet asked (c.addJob { stage := .starting, ofCatalog := ofCatalog }).1 :=
  h.enlist (by simp)

/-- So does a listener. -/
theorem Discreet.listen? {i : Nat} (h : Discreet asked c) (step : c.listen? i = some d) :
    Discreet asked d := by
  obtain ⟨l, e, event, seen, -, -, -, -, rfl⟩ := listen?_some step
  cases event with
  | fetchComplete links =>
      simp only [hear]
      split
      · have added : Discreet asked ((c.addJob { stage := .starting }).1.setListener i
            { l with seen := seen, busy := some c.jobs.length }) :=
          (h.addJob true).frame rfl rfl rfl
        exact added.startAttach (stage?_addJob c true) idle_starting links
      · exact h.frame rfl rfl rfl
  | disposed =>
      simp only [hear]
      split <;> exact h.frame rfl rfl rfl

/-- So does a tick, as far as what it asks is recorded. -/
theorem Discreet.tick? {i : Nat} (h : Discreet asked c) (sound : Sound c)
    (step : c.tick? i = some d) (records : ∀ j id, d.Asks j id → asked j id) :
    Discreet asked d := by
  cases ticks_of_tick? step with
  | @begins deadline =>
      have added : Discreet asked (c.readied i deadline) := (h.addJob true).frame rfl rfl rfl
      exact added.startChecks (stage?_readied c i deadline)
        (fun _ mem => sound.isStylesheet mem) records
  | deserts | ends => exact h.frame rfl rfl rfl

/-- So does a call. -/
theorem Discreet.start (h : Discreet asked c) (sound : Sound c) (call : Call)
    (records : ∀ j id, (c.start call).1.Asks j id → asked j id) :
    Discreet asked (c.start call).1 := by
  have hs := stage?_addJob c call.ofCatalog
  have added := h.addJob call.ofCatalog
  cases call with
  | create kind path byPath => exact added.startCreate hs idle_starting kind path byPath
  | saved path =>
      dsimp only [Catalog.start]
      split
      · exact added.startFetch_idle hs idle_starting
      · exact added.complete_of_ne _ (by simp)
  | checkAll => exact added.startChecks hs (fun _ mem => sound.isStylesheet mem) records
  | change change => exact added.startChange hs idle_starting change
  | openProject root =>
      let cleared : Catalog := { (c.addJob { stage := .starting }).1.reset with root := some root }
      have rooted : Discreet asked cleared := added.reset.frame rfl rfl rfl
      have hs' : cleared.stage? c.jobs.length = some .starting :=
        (congrFun (stage?_reset _) _).trans hs
      exact rooted.scan hs' idle_starting root [] [root]
  | fetch entry => exact added.startFetch_idle hs idle_starting
  | check entry => exact added.startCheck hs idle_starting entry
  | openStandalone path =>
      have alone := added.addEntry { kind := .css, path := path, scope := .standalone }
      exact alone.startFetch_idle hs idle_starting

/-- What is given up comes to nothing. -/
theorem Discreet.stopChecker (h : Discreet asked c) (i : Nat) :
    Discreet asked (c.stopChecker i) := by
  have fares : ∀ j s, c.stage? j = some s → (c.stopChecker i).stage? j = some s ∨
      (c.stopChecker i).stage? j = some (.done .unit) :=
    fun j s hs => (stage?_stopChecker hs i).imp_right And.left
  have old : ∀ j t, (c.stopChecker i).stage? j = some t → ∃ s, c.stage? j = some s :=
    fun _ _ => stage?_of_stopChecker
  obtain ⟨js, cs, eq, -⟩ := stopChecker_frame c i
  rw [eq] at fares old ⊢
  refine { follow := ?_, told := h.told }
  intro job parts ids joins
  have joins' : c.stage? job = some (.joining parts (.checks ids)) := by
    obtain ⟨s, hs⟩ := old job _ joins
    rcases fares job s hs with stays | ended
    · rw [hs, ← stays, joins]
    · cases joins.symm.trans ended
  refine (h.follow joins').imp ?_
  rintro j id ⟨s, hs, probes⟩
  rcases fares j s hs with stays | ended
  · exact ⟨s, stays, probes⟩
  · exact ⟨_, ended, .done (by simp)⟩

/-- Every event keeps it. -/
theorem Discreet.step? {event : Event} (h : Discreet asked c) (sound : Sound c)
    (step : c.step? event = some d) (frank : ¬event.SaysDisposed)
    (records : ∀ j id, d.Asks j id → asked j id) : Discreet asked d := by
  cases event with
  | call call =>
      cases step
      exact h.start sound call records
  | answer job a =>
      simp only [Catalog.step?] at step
      split at step
      · cases step
        exact h.resume frank job
      · cases step
  | wake job => exact h.wake? step
  | listen i => exact h.listen? step
  -- a tick starts a check of its own, whose asks are recorded as any
  | tick i => exact h.tick? sound step records
  | remove path =>
      cases step
      exact h.remove path
  | reset =>
      cases step
      exact h.reset
  | disposeEntry entry =>
      cases step
      exact h.changeEntry entry fun _ => .dispose
  | clearEntry entry =>
      cases step
      exact h.changeEntry entry fun _ => .clear
  | addStandalone kind path =>
      cases step
      exact h.addEntry _
  | stopChecker i =>
      cases step
      exact h.stopChecker i
  | startChecker | drop | pass =>
      cases step
      exact h.frame rfl rfl rfl
  | clock time =>
      simp only [Catalog.step?] at step
      split at step
      · cases step
        exact h.frame rfl rfl rfl
      · cases step

/-! ## Runs -/

/-- Whether a part of a check of all stylesheets has asked for the age of a live one in the course
of some events. -/
def HasAsked (start : Catalog) (events : List Event) (j : JobId) (id : EntryId) : Prop :=
  ∃ early b, early <+: events ∧ Run start early b ∧ b.Asks j id

variable {start b : Catalog} {events early later : List Event} {config : Config} {clock : Time}

/-- What has been asked early on has been asked. -/
theorem HasAsked.mono (h : HasAsked start early j id) (le : early <+: events) :
    HasAsked start events j id := by
  obtain ⟨before, b, first, rest⟩ := h
  exact ⟨before, b, first.trans le, rest⟩

/-- Along a run a catalogue is discreet with regard to all that the run has asked. -/
theorem Discreet.run (h : Discreet (HasAsked (new config clock) early) b)
    (before : Run (new config clock) early b) (after : Run b later c)
    (frank : ∀ event ∈ later, ¬event.SaysDisposed) :
    Discreet (HasAsked (new config clock) (early ++ later)) c := by
  induction after generalizing early with
  | nil =>
      rw [List.append_nil]
      exact h
  | @cons b d c event later step _ ih =>
      obtain ⟨here, rest⟩ := List.forall_mem_cons.mp frank
      have reached : Run (new config clock) (early ++ [event]) d :=
        before.append (.cons step (.nil _))
      have grown := h.mono fun j id has => has.mono (List.prefix_append early [event])
      rw [List.append_cons]
      refine ih (grown.step? (sound_of_run before).1 step here ?_) reached rest
      intro j id asks
      exact ⟨_, d, List.prefix_rfl, reached, asks⟩

/-- As long as the host does not speak of disposal itself, what is reported of it is that of an
entry which was opened alone, or that of a stylesheet which was live when a check of all stylesheets
asked for its age and is disposed of by now. No creation, no refresh, no save and no removal reports
one. -/
theorem disposal_is_reported_by_checks (run : Run (new config clock) events c)
    (frank : ∀ event ∈ events, ¬event.SaysDisposed) (mem : n ∈ c.notices)
    (disposed : n.error? = some .disposed) :
    (∃ path, n = .openFailed path .disposed) ∨
      ∃ id e j, n = .checkFailed e.path .disposed ∧ c.entries[id]? = some e ∧
        e.isDisposed = true ∧ HasAsked (new config clock) events j id := by
  have discreet := (discreet_new _ config clock).run (.nil _) run frank
  cases discreet.told n mem disposed with
  | opened path => exact .inl ⟨path, rfl⟩
  | checked has he gone => exact .inr ⟨_, _, _, rfl, he, gone, has⟩

/-- A stylesheet is removed while the check of all stylesheets fetches its file again. -/
def removedMidway : List Event :=
  .call (.create .css ⟨"/a.css"⟩ false) :: fetchAnswers 0 ⟨10, 4⟩ ".a{}" [.style ".a"] ++
    [.call .checkAll, .answer 2 (.stat (.ok ⟨30, 4⟩)), .remove ⟨"/a.css"⟩] ++
      fetchAnswers 2 ⟨30, 4⟩ ".b{}" [.style ".b"]

theorem removedMidway_is_frank : ∀ event ∈ removedMidway, ¬event.SaysDisposed := by
  simp [removedMidway, fetchAnswers, Event.SaysDisposed, Answer.error?]

/-- The warning of the removed stylesheet is given nonetheless. -/
theorem run_removedMidway : ∃ c, Run (new {} 20) removedMidway c ∧
    .checkFailed ⟨"/a.css"⟩ .disposed ∈ c.notices := by
  have facts : ((new {} 20).replay? removedMidway).map (fun c =>
      decide (.checkFailed ⟨"/a.css"⟩ .disposed ∈ c.notices)) = some true := by decide +kernel
  obtain ⟨c, hc, told⟩ := Option.map_eq_some_iff.mp facts
  exact ⟨c, run_iff_replay?.mpr hc, of_decide_eq_true told⟩

/-- The check fails with the disposal of a stylesheet that was live when it asked. -/
theorem removedMidway_is_reported : ∃ c, Run (new {} 20) removedMidway c ∧
    ∃ id e j, e.path = ⟨"/a.css"⟩ ∧ c.entries[id]? = some e ∧ e.isDisposed = true ∧
      HasAsked (new {} 20) removedMidway j id := by
  obtain ⟨c, run, told⟩ := run_removedMidway
  obtain ⟨path, eq⟩ | ⟨id, e, j, eq, he, gone, has⟩ :=
    disposal_is_reported_by_checks run removedMidway_is_frank told rfl
  · cases eq
  · have path_eq : e.path = ⟨"/a.css"⟩ := (Notice.checkFailed.inj eq).1.symm
    exact ⟨c, run, id, e, j, path_eq, he, gone, has⟩

/-- Not every disposal meanwhile stays quiet. -/
theorem disposal_is_not_always_quiet :
    ¬∀ (config : Config) (clock : Time) (events : List Event) (c : Catalog),
      Run (new config clock) events c → (∀ event ∈ events, ¬event.SaysDisposed) →
        ∀ n ∈ c.notices, n.level = .warn → n.IsQuiet := by
  intro law
  obtain ⟨c, run, told⟩ := run_removedMidway
  obtain ⟨path, eq⟩ := law {} 20 removedMidway c run removedMidway_is_frank _ told rfl rfl
  cases eq

end Catalog

end SelectorCatalog
