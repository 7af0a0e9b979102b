import SelectorCatalog.Proofs.Catalog.Sound
import SelectorCatalog.Proofs.Catalog.Stride
import SelectorCatalog.Proofs.Entry.Reading

/-!
# Where an index comes from

Two invariants of the work of a catalogue.

* `Work.Orderly`: the fetches of an entry are numbered apart, no number is larger than the count of
  the fetches started, and no fetch was started in the future.
* `Work.Sourced`: of one entry, each fetch from some number on has read a text of a given
  provenance, or none yet, and the entry shows such a text. A document that is being fetched again
  may show nothing.

`Orderly` is kept by every event. `Sourced` is kept as long as the entry is not cleared, the texts
that its fetches read have that provenance and the parser's answers are those of its texts.
-/

namespace SelectorCatalog.Catalog

variable {event : Event} {v w : Work} {c d : Catalog} {id : EntryId}

/-- The last event of a run, and the state that it meets. -/
theorem Run.split_last {events : List Event} (run : Run c (events ++ [event]) d) :
    ∃ b, Run c events b ∧ b.step? event = some d := by
  rw [run_iff_replay?, replay?, List.foldlM_append] at run
  obtain ⟨b, hb, step⟩ := Option.bind_eq_some_iff.mp run
  exact ⟨b, run_iff_replay?.mpr hb, by simpa using step⟩

/-! ## Lists and fetches of which one is replaced -/

/-- An element after a change is the new one or was there before. -/
theorem getElem?_set_cases {xs : List α} {i j : Nat} {y z : α} (h : (xs.set i y)[j]? = some z) :
    (j = i ∧ z = y) ∨ j ≠ i ∧ xs[j]? = some z := by
  rw [List.getElem?_set] at h
  by_cases eq : i = j
  · rw [if_pos eq] at h
    split at h
    · exact .inl ⟨eq.symm, (Option.some.inj h).symm⟩
    · cases h
  · rw [if_neg eq] at h
    exact .inr ⟨Ne.symm eq, h⟩

/-- A fetch after another one has begun or gone on is that one or was there before. -/
theorem update_some_cases {fetches : JobId → Option Fetch} {job j : JobId} {x f : Fetch}
    (h : Function.update fetches job (some x) j = some f) :
    (j = job ∧ f = x) ∨ j ≠ job ∧ fetches j = some f := by
  by_cases eq : j = job
  · subst eq
    rw [Function.update_self] at h
    exact .inl ⟨rfl, (Option.some.inj h).symm⟩
  · rw [Function.update_of_ne eq] at h
    exact .inr ⟨eq, h⟩

/-- A fetch after another one has ended was there before. -/
theorem update_none_some {fetches : JobId → Option Fetch} {job j : JobId} {f : Fetch}
    (h : Function.update fetches job none j = some f) : j ≠ job ∧ fetches j = some f := by
  by_cases eq : j = job
  · subst eq
    rw [Function.update_self] at h
    cases h
  · rw [Function.update_of_ne eq] at h
    exact ⟨eq, h⟩

/-- Where all jobs are done no fetch is under way. -/
theorem fetch?_of_done (done : c.jobs.all Job.isDone = true) (job : JobId) :
    c.fetch? job = none := by
  rw [fetch?, stage?]
  cases ht : c.jobs[job]? with
  | none => rfl
  | some t =>
      have ended := List.all_eq_true.mp done t (List.mem_of_getElem? ht)
      show t.stage.fetch? = none
      rw [Job.isDone, Job.outcome?] at ended
      cases hs : t.stage with
      | fetching f purpose =>
          rw [hs] at ended
          cases ended
      | starting | resolving | awaiting | checking | scanning | joining | done => rfl

/-! ## Entries last -/

/-- What becomes of an entry in the course of time: it stays that of its file, and stays disposed of
once it is. -/
structure Lasts (e d : Entry) : Prop where
  kind : d.kind = e.kind
  path : d.path = e.path
  scope : d.scope = e.scope
  disposed : e.isDisposed = true → d.isDisposed = true

theorem Lasts.refl (e : Entry) : Lasts e e :=
  ⟨rfl, rfl, rfl, fun h => h⟩

theorem Lasts.trans {e d x : Entry} (h : Lasts e d) (h' : Lasts d x) : Lasts e x :=
  ⟨h'.kind.trans h.kind, h'.path.trans h.path, h'.scope.trans h.scope,
    fun gone => h'.disposed (h.disposed gone)⟩

/-- What lasts of an entry lasts along all accesses to it. -/
theorem lasts_of_turned {e d : Entry} (turned : e.Turned d) : Lasts e d := by
  induction turned with
  | refl => exact .refl e
  | tail _ turn ih =>
      obtain ⟨kind, path, scope⟩ := turn.file
      exact ih.trans ⟨kind, path, scope, fun gone => (turn.frozen gone).1⟩

/-- Entries some time later: each old one has taken turns, and so has each new one since it was
added. -/
structure Ages (es ds : List Entry) : Prop where
  old : ∀ {id : EntryId} {e : Entry}, es[id]? = some e → ∃ d, ds[id]? = some d ∧ e.Turned d
  new : ∀ {id : EntryId} {d : Entry}, ds[id]? = some d → es[id]? = none →
    ∃ kind path scope, Entry.Turned { kind := kind, path := path, scope := scope } d

/-- Entries that have aged twice have aged. -/
theorem Ages.trans {es ds xs : List Entry} (h : Ages es ds) (h' : Ages ds xs) : Ages es xs where
  old he := by
    obtain ⟨d, hd, turned⟩ := h.old he
    obtain ⟨x, hx, more⟩ := h'.old hd
    exact ⟨x, hx, turned.trans more⟩
  new {id x} hx none := by
    cases hd : ds[id]? with
    | none => exact h'.new hx hd
    | some d =>
        obtain ⟨kind, path, scope, turned⟩ := h.new hd none
        obtain ⟨x', hx', more⟩ := h'.old hd
        obtain rfl := Option.some.inj (hx.symm.trans hx')
        exact ⟨kind, path, scope, turned.trans more⟩

/-- Entries age with each access to one of them. -/
theorem Ages.of_turns {es ds : List Entry} (turns : Entry.Turns es ds) : Ages es ds where
  old he := by
    obtain ⟨d, hd, turn⟩ := turns.2 _ _ he
    exact ⟨d, hd, .single turn⟩
  new hd none := by
    obtain ⟨e, he, -⟩ := turns.origin hd
    cases he.symm.trans none

theorem Ages.refl (es : List Entry) : Ages es es :=
  .of_turns (.refl es)

/-- Entries age with each stride. -/
theorem Stride.ages (h : Stride event v w) : Ages v.entries w.entries := by
  cases h with
  | time | root => exact .refl _
  | add kind path scope =>
      refine ⟨fun he => ⟨_, getElem?_append_some _ he, .refl⟩, fun hd none => ?_⟩
      rcases getElem?_concat hd with hd | ⟨-, rfl⟩
      · cases hd.symm.trans none
      · exact ⟨kind, path, scope, .refl⟩
  | dispose disposals => exact .of_turns disposals.turns
  | clear entry => exact .of_turns (.modify _ _ fun _ => .clear)
  | begin _ there live => exact .of_turns (.set there (.fetch live))

/-- They do so with a reply. -/
theorem Reply.ages {job : JobId} {a : Answer} (h : Reply job a v w) :
    Ages v.entries w.entries := by
  cases h with
  | advance | fail => exact .refl _
  | land _ _ _ there installs =>
      exact .of_turns (.set there (.install _ _ (Fetch.isDisposed_indexOf _) installs))

/-- What an event does to entries. -/
theorem ages_step? (step : c.step? event = some d) : Ages c.entries d.entries := by
  by_cases stop : ∃ i, event = .stopChecker i
  · obtain ⟨i, rfl⟩ := stop
    cases step
    obtain ⟨fetches, work, -⟩ := stopChecker_work c i
    rw [show (c.stopChecker i).entries = c.entries from congrArg Work.entries work]
    exact .refl _
  · obtain ⟨u, replied, strides⟩ := step?_passage step fun i eq => stop ⟨i, eq⟩
    have hu : Ages c.entries u.entries := by
      obtain ⟨rfl, -⟩ | ⟨_, _, -, reply⟩ := replied
      · exact .refl _
      · exact reply.ages
    exact strides.keep (p := fun u => Ages c.entries u.entries)
      (fun _ _ h stride => h.trans stride.ages) hu

/-- No event takes an entry away. -/
theorem entry_step? (step : c.step? event = some d) {e : Entry} (he : c.entries[id]? = some e) :
    ∃ e', d.entries[id]? = some e' ∧ Lasts e e' := by
  obtain ⟨e', he', turned⟩ := (ages_step? step).old he
  exact ⟨e', he', lasts_of_turned turned⟩

/-- What a run does to entries. -/
theorem ages_of_run {events : List Event} (run : Run c events d) : Ages c.entries d.entries := by
  induction run with
  | nil => exact .refl _
  | cons step _ ih => exact (ages_step? step).trans ih

/-- No run takes an entry away. -/
theorem entry_of_run {events : List Event} (run : Run c events d) {e : Entry}
    (he : c.entries[id]? = some e) : ∃ e', d.entries[id]? = some e' ∧ Lasts e e' := by
  obtain ⟨e', he', turned⟩ := (ages_of_run run).old he
  exact ⟨e', he', lasts_of_turned turned⟩

/-- An entry that is live was so before. -/
theorem live_of_run {events : List Event} (run : Run c events d) {e e' : Entry}
    (he : c.entries[id]? = some e) (he' : d.entries[id]? = some e') (live : e'.isDisposed = false) :
    e.isDisposed = false := by
  obtain ⟨x, hx, lasts⟩ := entry_of_run run he
  obtain rfl := Option.some.inj (he'.symm.trans hx)
  refine Bool.eq_false_iff.mpr fun gone => ?_
  cases live.symm.trans (lasts.disposed gone)

/-! ## The order of fetches -/

/-- The fetches of each entry are numbered apart, in the order of their starts. -/
structure Work.Orderly (w : Work) : Prop where
  known : ∀ {j f}, w.fetch? j = some f →
    ∃ e : Entry, w.entries[f.entry]? = some e ∧ f.generation ≤ e.fetches
  apart : ∀ {j k f g}, w.fetch? j = some f → w.fetch? k = some g → f.entry = g.entry →
    f.generation = g.generation → j = k
  past : ∀ {j f}, w.fetch? j = some f → f.started ≤ w.clock
  installed_le : ∀ {id : EntryId} {e : Entry}, w.entries[id]? = some e → e.installed ≤ e.fetches
  dated : ∀ {id : EntryId} {e : Entry}, w.entries[id]? = some e → e.indexedAt = none →
    e.installed = 0

namespace Work.Orderly

/-- Fetches may move on, and some may be given up. -/
theorem refetch (h : v.Orderly) {fetches : JobId → Option Fetch}
    (same : ∀ j f, fetches j = some f → ∃ g, v.fetch? j = some g ∧ g.entry = f.entry ∧
      g.generation = f.generation ∧ g.started = f.started) :
    ({ v with fetch? := fetches } : Work).Orderly where
  known {j f} hf := by
    obtain ⟨g, hg, entry, generation, -⟩ := same j f hf
    obtain ⟨e, he, le⟩ := h.known hg
    exact ⟨e, entry ▸ he, generation ▸ le⟩
  apart {j k f g} hf hg entry generation := by
    obtain ⟨f', hf', entry₁, generation₁, -⟩ := same j f hf
    obtain ⟨g', hg', entry₂, generation₂, -⟩ := same k g hg
    exact h.apart hf' hg' (by rw [entry₁, entry₂, entry]) (by rw [generation₁, generation₂,
      generation])
  past {j f} hf := by
    obtain ⟨g, hg, -, -, started⟩ := same j f hf
    exact started ▸ h.past hg
  installed_le := h.installed_le
  dated := h.dated

/-- Entries may change as long as they keep count. -/
theorem recount (h : v.Orderly) {es : List Entry} (length_eq : es.length = v.entries.length)
    (same : ∀ (id : EntryId) (e d : Entry), v.entries[id]? = some e → es[id]? = some d →
      d.fetches = e.fetches ∧ d.installed ≤ d.fetches ∧
        (d.indexedAt = none → d.installed = 0)) :
    ({ v with entries := es } : Work).Orderly where
  known {j f} hf := by
    obtain ⟨e, he, le⟩ := h.known hf
    obtain ⟨lt, -⟩ := List.getElem?_eq_some_iff.mp he
    have hd : es[f.entry]? = some es[f.entry] := List.getElem?_eq_getElem (length_eq ▸ lt)
    exact ⟨_, hd, (same _ e _ he hd).1 ▸ le⟩
  apart := h.apart
  past := h.past
  installed_le {id d} hd := by
    obtain ⟨lt, -⟩ := List.getElem?_eq_some_iff.mp hd
    exact (same id _ d (List.getElem?_eq_getElem (length_eq ▸ lt)) hd).2.1
  dated {id d} hd := by
    obtain ⟨lt, -⟩ := List.getElem?_eq_some_iff.mp hd
    exact (same id _ d (List.getElem?_eq_getElem (length_eq ▸ lt)) hd).2.2

/-- The next fetch of an entry gets a number that no other has. -/
theorem begin (h : v.Orderly) {entry : EntryId} {e : Entry} (he : v.entries[entry]? = some e)
    (job : JobId) :
    ({ v with
      entries := v.entries.set entry e.beginFetch
      fetch? := Function.update v.fetch? job
        (some ⟨entry, e.beginFetch.fetches, v.clock, .stat⟩) } : Work).Orderly := by
  have le := h.installed_le he
  have there : (v.entries.set entry e.beginFetch)[entry]? = some e.beginFetch := by
    rw [List.getElem?_set_self (List.getElem?_eq_some_iff.mp he).1]
  -- no fetch has the new number
  have below : ∀ {j f}, v.fetch? j = some f → f.entry = entry →
      f.generation < e.beginFetch.fetches := by
    intro j f hf eq
    obtain ⟨x, hx, known⟩ := h.known hf
    rw [eq, he] at hx
    rw [Entry.fetches_beginFetch, Option.some.inj hx]
    exact Nat.lt_succ_of_le known
  constructor
  · intro j f hf
    rcases update_some_cases hf with ⟨-, rfl⟩ | ⟨-, hf⟩
    · exact ⟨_, there, Nat.le_refl _⟩
    -- a fetch of the same entry has a smaller number, one of another is not touched
    · by_cases eq : f.entry = entry
      · exact ⟨_, eq ▸ there, Nat.le_of_lt (below hf eq)⟩
      · obtain ⟨x, hx, le⟩ := h.known hf
        exact ⟨x, by rw [List.getElem?_set_ne (Ne.symm eq), hx], le⟩
  · intro j k f g hf hg entries generations
    -- numbers are apart: the new one exceeds all others of its entry
    rcases update_some_cases hf with ⟨hj, rfl⟩ | ⟨-, hf'⟩ <;>
      rcases update_some_cases hg with ⟨hk, rfl⟩ | ⟨-, hg'⟩
    · exact hj.trans hk.symm
    · exact absurd generations (Nat.ne_of_gt (below hg' entries.symm))
    · exact absurd generations (Nat.ne_of_lt (below hf' entries))
    · exact h.apart hf' hg' entries generations
  · intro j f hf
    rcases update_some_cases hf with ⟨-, rfl⟩ | ⟨-, hf⟩
    · exact Int.le_refl _
    · exact h.past hf
  · intro i x hx
    rcases getElem?_set_cases hx with ⟨-, rfl⟩ | ⟨-, hx⟩
    · rw [Entry.installed_beginFetch, Entry.fetches_beginFetch]
      exact Nat.le_succ_of_le le
    · exact h.installed_le hx
  · intro i x hx
    rcases getElem?_set_cases hx with ⟨-, rfl⟩ | ⟨-, hx⟩
    · rw [Entry.indexedAt_beginFetch, Entry.installed_beginFetch]
      exact h.dated he
    · exact h.dated hx

theorem stride (h : v.Orderly) (stride : Stride event v w) : w.Orderly := by
  cases stride with
  -- fetches begin in the past, and time only goes on
  | time _ le => exact { h with past := fun hf => Int.le_trans (h.past hf) le }
  | root => exact { h with }
  | add kind path scope =>
      constructor
      · intro j f hf
        obtain ⟨e, he, le⟩ := h.known hf
        exact ⟨e, getElem?_append_some _ he, le⟩
      · exact h.apart
      · exact h.past
      · intro id e he
        rcases getElem?_concat he with he | ⟨-, rfl⟩
        · exact h.installed_le he
        · exact Nat.le_refl _
      · intro id e he
        rcases getElem?_concat he with he | ⟨-, rfl⟩
        · exact h.dated he
        · exact fun _ => rfl
  | dispose disposals =>
      refine h.recount disposals.1 fun id e d he hd => ?_
      -- a disposal keeps the count and the dates of an entry
      have le := h.installed_le he
      have dated := h.dated he
      rcases disposals.2 id e he with hd' | hd' <;>
        obtain rfl := Option.some.inj (hd.symm.trans hd')
      · exact ⟨rfl, le, dated⟩
      · simp only [Entry.fetches_dispose, Entry.installed_dispose, Entry.indexedAt_dispose]
        exact ⟨trivial, le, dated⟩
  | clear entry =>
      refine h.recount (List.length_modify ..) fun id e d he hd => ?_
      have le := h.installed_le he
      have dated := h.dated he
      rw [List.getElem?_modify, he] at hd
      obtain rfl := Option.some.inj hd
      dsimp only
      split <;> exact ⟨rfl, le, dated⟩
  -- a fetch that begins has a new number
  | @begin job entry e none he live => exact h.begin he job

/-- An entry that a fetch lands in shows the number of that fetch, or a later one. -/
theorem land (h : v.Orderly) {job : JobId} {f : Fetch} {e e' : Entry} {found : Entry.Finding}
    (under : v.fetch? job = some f) (he : v.entries[f.entry]? = some e)
    (installs : e.install f.generation found = .ok e') :
    ({ v with
      entries := v.entries.set f.entry e'
      fetch? := Function.update v.fetch? job none } : Work).Orderly := by
  obtain ⟨-, fetches, became⟩ := Entry.install_ok installs
  have kept : ({ v with entries := v.entries.set f.entry e' } : Work).Orderly := by
    refine h.recount List.length_set fun id x y hx hy => ?_
    rcases getElem?_set_cases hy with ⟨rfl, rfl⟩ | ⟨-, hy⟩
    · obtain rfl := Option.some.inj (hx.symm.trans he)
      refine ⟨fetches, ?_⟩
      obtain ⟨-, rfl⟩ | ⟨-, installed, -, -, -, at_⟩ := became
      · exact ⟨h.installed_le he, h.dated he⟩
      · obtain ⟨z, hz, le⟩ := h.known under
        obtain rfl := Option.some.inj (hz.symm.trans he)
        rw [installed, fetches, at_]
        exact ⟨le, fun none => by cases none⟩
    · obtain rfl := Option.some.inj (hx.symm.trans hy)
      exact ⟨rfl, h.installed_le hx, h.dated hx⟩
  exact kept.refetch fun j g hg => ⟨g, (update_none_some hg).2, rfl, rfl, rfl⟩

theorem reply (h : v.Orderly) {job : JobId} {a : Answer} (reply : Reply job a v w) :
    w.Orderly := by
  cases reply with
  | @advance f e notices stage under he =>
      refine h.refetch fun j g hg => ?_
      rcases update_some_cases hg with ⟨rfl, rfl⟩ | ⟨-, hg⟩
      · exact ⟨f, under, rfl, rfl, rfl⟩
      · exact ⟨g, hg, rfl, rfl, rfl⟩
  | fail => exact h.refetch fun j g hg => ⟨g, (update_none_some hg).2, rfl, rfl, rfl⟩
  | land _ under _ he installs => exact h.land under he installs

end Work.Orderly

/-- A checker that is stopped gives up fetches at most. -/
theorem orderly_stopChecker (h : c.work.Orderly) (i : Nat) : (c.stopChecker i).work.Orderly := by
  obtain ⟨fetches, work, given⟩ := stopChecker_work c i
  rw [work]
  refine h.refetch fun j f hf => ⟨f, ?_, rfl, rfl, rfl⟩
  rcases given j with same | none
  · exact same.symm.trans hf
  · cases none.symm.trans hf

/-- Every event keeps fetches in order. -/
theorem orderly_step? (h : c.work.Orderly) (step : c.step? event = some d) : d.work.Orderly := by
  by_cases stop : ∃ i, event = .stopChecker i
  · obtain ⟨i, rfl⟩ := stop
    cases step
    exact orderly_stopChecker h i
  · obtain ⟨u, replied, strides⟩ := step?_passage step fun i eq => stop ⟨i, eq⟩
    have hu : u.Orderly := by
      obtain ⟨rfl, -⟩ | ⟨id, a, -, reply⟩ := replied
      · exact h
      · exact h.reply reply
    exact strides.keep (fun _ _ h stride => h.stride stride) hu

/-- The fetches of a catalogue that is reached from the empty one are in order. -/
theorem orderly_of_run {config : Config} {clock : Time} {events : List Event}
    (run : Run (new config clock) events c) : c.work.Orderly := by
  refine run.invariant (p := fun c => c.work.Orderly) (fun _ _ _ h step => orderly_step? h step) ?_
  constructor <;> simp [work, new, fetch?, stage?]

/-- The clock never goes back. -/
theorem clock_le_step? (step : c.step? event = some d) : c.clock ≤ d.clock := by
  by_cases stop : ∃ i, event = .stopChecker i
  · obtain ⟨i, rfl⟩ := stop
    cases step
    obtain ⟨fetches, work, -⟩ := stopChecker_work c i
    have same : (c.stopChecker i).clock = c.clock := congrArg Work.clock work
    exact Int.le_of_eq same.symm
  · obtain ⟨u, replied, strides⟩ := step?_passage step fun i eq => stop ⟨i, eq⟩
    have hu : c.clock ≤ u.clock := by
      obtain ⟨rfl, -⟩ | ⟨_, _, -, reply⟩ := replied
      · exact Int.le_refl _
      · cases reply <;> exact Int.le_refl _
    refine strides.keep (p := fun u => c.clock ≤ u.clock) ?_ hu
    intro v w le stride
    cases stride with
    | time _ later => exact Int.le_trans le later
    | root | add | dispose | clear | begin => exact le

/-! ## The texts behind an entry -/

/-- Of an entry's fetches from a number on, each has read a text of a given provenance, or none yet;
and what the entry shows, once one of these fetches has landed, is such a text. A document may show
nothing as long as a later fetch is under way. -/
structure Work.Sourced (rulesOf : String → List Rule) (id : EntryId) (first : Nat)
    (From : Time → String → Option Path → Prop) (w : Work) : Prop where
  fetch : ∀ {j f} {e : Entry}, w.fetch? j = some f → f.entry = id → first ≤ f.generation →
    w.entries[id]? = some e → f.stage.isUnread = true ∨
      ∃ text root, From f.started text root ∧ f.stage.HasRead rulesOf e.kind e.path root text
  entry : ∀ {e : Entry} {started : Time}, w.entries[id]? = some e → e.isDisposed = false →
    first ≤ e.installed → e.indexedAt = some started →
    ∃ text root, From started text root ∧ (e.Shows rulesOf root text ∨
      e.kind = .html ∧ ∃ j f, w.fetch? j = some f ∧ f.entry = id ∧ e.installed < f.generation)

namespace Work.Sourced

variable {rulesOf : String → List Rule} {first : Nat}
  {From From' : Time → String → Option Path → Prop}

/-- A provenance may be widened. -/
theorem mono (h : v.Sourced rulesOf id first From)
    (le : ∀ started text root, From started text root → From' started text root) :
    v.Sourced rulesOf id first From' where
  fetch hf entry ge he := by
    obtain unread | ⟨text, root, origin, read⟩ := h.fetch hf entry ge he
    · exact .inl unread
    · exact .inr ⟨text, root, le _ _ _ origin, read⟩
  entry he live ge at_ := by
    obtain ⟨text, root, origin, shows⟩ := h.entry he live ge at_
    exact ⟨text, root, le _ _ _ origin, shows⟩

/-- Fetches may go on and end, as long as each that is left has what it has read from there, and a
document that waits for one still waits for one. -/
theorem refetch (h : v.Sourced rulesOf id first From) {fetches : JobId → Option Fetch}
    (fetch : ∀ {j f} {e : Entry}, fetches j = some f → f.entry = id → first ≤ f.generation →
      v.entries[id]? = some e → f.stage.isUnread = true ∨
        ∃ text root, From f.started text root ∧ f.stage.HasRead rulesOf e.kind e.path root text)
    (waits : ∀ {j f} {e : Entry}, v.entries[id]? = some e → e.isDisposed = false → e.kind = .html →
      v.fetch? j = some f → f.entry = id →
        ∃ g, fetches j = some g ∧ g.entry = id ∧ g.generation = f.generation) :
    ({ v with fetch? := fetches } : Work).Sourced rulesOf id first From where
  fetch := fetch
  entry he live ge at_ := by
    obtain ⟨text, root, origin, shows | ⟨html, j, f, hf, entry, later⟩⟩ := h.entry he live ge at_
    · exact ⟨text, root, origin, .inl shows⟩
    · obtain ⟨g, hg, entry, generation⟩ := waits he live html hf entry
      exact ⟨text, root, origin, .inr ⟨html, j, g, hg, entry, generation ▸ later⟩⟩

/-- Fetches may be given up, those of a document apart. -/
theorem giveUp (h : v.Sourced rulesOf id first From) {fetches : JobId → Option Fetch}
    (given : ∀ j, fetches j = v.fetch? j ∨ fetches j = none)
    (kept : ∀ e : Entry, v.entries[id]? = some e → e.kind = .html →
      ∀ j f, v.fetch? j = some f → f.entry = id → fetches j = some f) :
    ({ v with fetch? := fetches } : Work).Sourced rulesOf id first From := by
  refine h.refetch (fun {j f e} hf => ?_) fun he _ html hf entry =>
    ⟨_, kept _ he html _ _ hf entry, entry, rfl⟩
  rcases given j with same | none
  · exact h.fetch (same.symm.trans hf)
  · cases none.symm.trans hf

/-- Entries may be disposed of. -/
theorem dispose (h : v.Sourced rulesOf id first From) {es : List Entry}
    (disposals : Entry.Disposals v.entries es) :
    ({ v with entries := es } : Work).Sourced rulesOf id first From := by
  have before : ∀ {d : Entry}, es[id]? = some d →
      ∃ e : Entry, v.entries[id]? = some e ∧ (d = e ∨ d = e.dispose) := by
    intro d hd
    obtain ⟨e, he, -⟩ := disposals.turns.origin hd
    refine ⟨e, he, ?_⟩
    rcases disposals.2 id e he with same | gone
    · exact .inl (Option.some.inj (hd.symm.trans same))
    · exact .inr (Option.some.inj (hd.symm.trans gone))
  constructor
  · intro j f d hf entry ge hd
    obtain ⟨e, he, rfl | rfl⟩ := before hd
    · exact h.fetch hf entry ge he
    · obtain ⟨kind, path, -⟩ := (Entry.Turn.dispose (e := e)).file
      rw [kind, path]
      exact h.fetch hf entry ge he
  · intro d started hd live ge at_
    obtain ⟨e, he, rfl | rfl⟩ := before hd
    · exact h.entry he live ge at_
    · rw [Entry.isDisposed_dispose] at live
      cases live

/-- An entry may be fetched once more. A document is emptied then, and the new fetch is the
latest. -/
theorem begin (h : v.Sourced rulesOf id first From) (orderly : v.Orderly) {entry : EntryId}
    {e : Entry} (he : v.entries[entry]? = some e) (live : e.isDisposed = false) {job : JobId}
    (idle : v.fetch? job = none) :
    ({ v with
      entries := v.entries.set entry e.beginFetch
      fetch? := Function.update v.fetch? job
        (some ⟨entry, e.beginFetch.fetches, v.clock, .stat⟩) } : Work).Sourced
          rulesOf id first From := by
  constructor
  · intro j f d hf eq ge hd
    rcases update_some_cases hf with ⟨-, rfl⟩ | ⟨-, hf'⟩
    · exact .inl rfl
    · rcases getElem?_set_cases hd with ⟨rfl, rfl⟩ | ⟨-, hd⟩
      · obtain ⟨kind, path, -⟩ := (Entry.Turn.fetch live).file
        rw [kind, path]
        exact h.fetch hf' eq ge he
      · exact h.fetch hf' eq ge hd
  -- the entry goes on showing what it showed, or is to show what the new fetch finds
  · intro d started hd live' ge at_
    rcases getElem?_set_cases hd with ⟨rfl, rfl⟩ | ⟨ne, hd⟩
    · rw [Entry.installed_beginFetch] at ge ⊢
      rw [Entry.indexedAt_beginFetch] at at_
      obtain ⟨text, root, origin, shows⟩ := h.entry he live ge at_
      refine ⟨text, root, origin, ?_⟩
      cases kind : e.kind with
      -- a stylesheet is kept while it is fetched, a document is emptied
      | css =>
          obtain shows | ⟨html, -⟩ := shows
          · rw [Entry.beginFetch_css kind]
            exact .inl ⟨shows.index, shows.links⟩
          · cases kind.symm.trans html
      | html =>
          refine .inr ⟨(Entry.Turn.fetch live).file.1.trans kind, job, _,
            Function.update_self .., rfl, ?_⟩
          show e.installed < e.beginFetch.fetches
          rw [Entry.fetches_beginFetch]
          exact Nat.lt_succ_of_le (orderly.installed_le he)
    · obtain ⟨text, root, origin, shows | ⟨html, j, f, hf, entry, later⟩⟩ :=
        h.entry hd live' ge at_
      · exact ⟨text, root, origin, .inl shows⟩
      · refine ⟨text, root, origin, .inr ⟨html, j, f, ?_, entry, later⟩⟩
        dsimp only
        rw [Function.update_of_ne, hf]
        rintro rfl
        cases idle.symm.trans hf

theorem stride (h : v.Sourced rulesOf id first From) (orderly : v.Orderly)
    (stride : Stride event v w) (uncleared : event ≠ .clearEntry id) :
    w.Sourced rulesOf id first From := by
  cases stride with
  | time | root => exact { h with }
  | add kind path scope =>
      constructor
      · intro j f e hf entry ge he
        rcases getElem?_concat he with he | ⟨new, -⟩
        · exact h.fetch hf entry ge he
        · -- no fetch is of an entry that was not there
          obtain ⟨x, hx, -⟩ := orderly.known hf
          rw [entry, new] at hx
          simp at hx
      · intro e started he live ge at_
        rcases getElem?_concat he with he | ⟨-, rfl⟩
        · exact h.entry he live ge at_
        · cases at_
  | dispose disposals => exact h.dispose disposals
  -- clearing is only seen by the entry itself, which is another one
  | clear entry cleared =>
      have ne : entry ≠ id := by
        rintro rfl
        exact uncleared cleared
      have same : (v.entries.modify entry Entry.clear)[id]? = v.entries[id]? :=
        List.getElem?_modify_ne _ _ ne
      exact
        { fetch := fun hf entry ge he => h.fetch hf entry ge (same ▸ he)
          entry := fun he live ge at_ => h.entry (same ▸ he) live ge at_ }
  | begin idle he live => exact h.begin orderly he live idle

/-- A fetch may land in its entry, which shows what the fetch has read then, or something later. -/
theorem land (h : v.Sourced rulesOf id first From) {job : JobId} {f : Fetch} {e e' : Entry}
    {stat : FileStat} {links : List Path} {sources : List (String × List Rule)}
    (under : v.fetch? job = some f) (at_stage : f.stage = .build stat links sources)
    (he : v.entries[f.entry]? = some e)
    (installs : e.install f.generation
      ⟨Fetch.indexOf sources, links, stat.modified, f.started⟩ = .ok e') :
    ({ v with
      entries := v.entries.set f.entry e'
      fetch? := Function.update v.fetch? job none } : Work).Sourced rulesOf id first From := by
  have turn : e.Turn e' := .install _ _ (Fetch.isDisposed_indexOf _) installs
  obtain ⟨kind, path, -⟩ := turn.file
  obtain ⟨live, -, became⟩ := Entry.install_ok installs
  constructor
  · intro j g d hg entry ge hd
    rcases getElem?_set_cases hd with ⟨eq, rfl⟩ | ⟨-, hd⟩
    · rw [kind, path]
      exact h.fetch (update_none_some hg).2 entry ge (eq ▸ he)
    · exact h.fetch (update_none_some hg).2 entry ge hd
  · intro d started hd live' ge at_
    -- another fetch that the entry waits for is under way still
    have others : ∀ {g : Fetch} {j : JobId}, v.fetch? j = some g → g.entry = id →
        (f.entry = id → f.generation < g.generation) →
        Function.update v.fetch? job none j = some g := by
      intro g j hg entry lt
      refine (Function.update_of_ne ?_ ..).trans hg
      rintro rfl
      obtain rfl := Option.some.inj (under.symm.trans hg)
      exact Nat.lt_irrefl _ (lt entry)
    rcases getElem?_set_cases hd with ⟨eq, rfl⟩ | ⟨ne, hd⟩
    · rw [← eq] at he
      -- a later fetch has landed before, or this one is installed
      obtain ⟨early, rfl⟩ | ⟨-, installed, index, dependencies, -, indexedAt⟩ := became
      · obtain ⟨text, root, origin, shows | ⟨html, j, g, hg, entry, later⟩⟩ :=
          h.entry he live ge at_
        · exact ⟨text, root, origin, .inl shows⟩
        · exact ⟨text, root, origin, .inr ⟨html, j, g,
            others hg entry fun _ => Nat.lt_trans early later, entry, later⟩⟩
      · rw [installed] at ge
        rw [indexedAt] at at_
        obtain rfl := Option.some.inj at_
        obtain unread | ⟨text, root, origin, read⟩ := h.fetch under eq.symm ge he
        · rw [at_stage] at unread
          cases unread
        · rw [at_stage] at read
          cases read
          refine ⟨text, root, origin, .inl ⟨by rw [index, kind], fun html => ?_⟩⟩
          rw [dependencies (kind ▸ html), kind, path]
    · obtain ⟨text, root, origin, shows | ⟨html, j, g, hg, entry, later⟩⟩ :=
        h.entry hd live' ge at_
      · exact ⟨text, root, origin, .inl shows⟩
      · exact ⟨text, root, origin, .inr ⟨html, j, g,
          others hg entry fun eq => absurd eq.symm ne, entry, later⟩⟩

/-- The answer to a fetch: its text has to be of the given provenance, what the parser says of that
text has to agree, and a document must not lose a fetch. -/
theorem reply (h : v.Sourced rulesOf id first From) {job : JobId} {a : Answer}
    (reply : Reply job a v w)
    (agrees : ∀ (f : Fetch) (e : Entry), v.fetch? job = some f → f.entry = id →
      v.entries[id]? = some e → f.agrees rulesOf e.kind a = true)
    (reads : ∀ (f : Fetch) (e : Entry) stat text, v.fetch? job = some f → f.entry = id →
      v.entries[id]? = some e → f.stage = .read stat → a = .text (.ok text) →
      From f.started text (v.rootOf e.scope))
    (lasts : ∀ (f : Fetch) (e : Entry) notices error, v.fetch? job = some f → f.entry = id →
      v.entries[id]? = some e → e.isDisposed = false → e.kind = .html →
      f.resume e v.limit (v.rootOf e.scope) a ≠ (e, notices, .finished (.error error))) :
    w.Sourced rulesOf id first From := by
  cases reply with
  -- what is read with this answer is of the time and root of the fetch
  | @advance f e notices stage under he hr =>
      refine h.refetch (fun {j g d} hg entry ge hd => ?_) fun {j g d} hd _ _ hg entry => ?_
      · rcases update_some_cases hg with ⟨-, rfl⟩ | ⟨-, hg⟩
        · have entry : f.entry = id := entry
          rw [entry] at he
          obtain rfl := Option.some.inj (he.symm.trans hd)
          obtain unread | ⟨text, root, origin, read⟩ := h.fetch under entry ge he
          · obtain unread | ⟨text, rfl, ⟨stat, at_⟩, read⟩ := Fetch.resume_unread unread hr
            · exact .inl unread
            · exact .inr ⟨text, _, reads f e stat text under entry he at_ rfl, read rulesOf⟩
          · exact .inr ⟨text, root, origin, read.advance (agrees f e under entry he) hr⟩
        · exact h.fetch hg entry ge hd
      · by_cases eq : j = job
        · subst eq
          obtain rfl := Option.some.inj (under.symm.trans hg)
          exact ⟨_, Function.update_self .., entry, rfl⟩
        · exact ⟨g, (Function.update_of_ne eq ..).trans hg, entry, rfl⟩
  -- a fetch that fails leaves a document empty, which it may not do here
  | @fail f e notices error under he hr =>
      refine h.refetch (fun hg => h.fetch (update_none_some hg).2) ?_
      intro j g d hd live html hg entry
      refine ⟨g, (Function.update_of_ne ?_ ..).trans hg, entry, rfl⟩
      rintro rfl
      obtain rfl := Option.some.inj (under.symm.trans hg)
      rw [entry] at he
      obtain rfl := Option.some.inj (he.symm.trans hd)
      exact lasts f e notices error under entry he live html hr
  | land _ under at_stage he installs => exact h.land under at_stage he installs

end Work.Sourced

/-- An event keeps the texts behind an entry when it does not clear the entry, when it gives no
fetch of a document up, and when its answer is as `Work.Sourced.reply` asks for. -/
theorem sourced_step? {rulesOf : String → List Rule} {first : Nat}
    {From : Time → String → Option Path → Prop} (h : c.work.Sourced rulesOf id first From)
    (orderly : c.work.Orderly) (step : c.step? event = some d) (uncleared : event ≠ .clearEntry id)
    (kept : ∀ i, event = .stopChecker i → ∀ e : Entry, c.entries[id]? = some e → e.kind = .html →
      ∀ j f, c.fetch? j = some f → f.entry = id → d.fetch? j = some f)
    (agrees : ∀ job a (f : Fetch) (e : Entry), event = .answer job a → c.fetch? job = some f →
      f.entry = id → c.entries[id]? = some e → f.agrees rulesOf e.kind a = true)
    (reads : ∀ job (f : Fetch) (e : Entry) stat text, event = .answer job (.text (.ok text)) →
      c.fetch? job = some f → f.entry = id → c.entries[id]? = some e → f.stage = .read stat →
      From f.started text (c.rootOf e.scope))
    (lasts : ∀ job a (f : Fetch) (e : Entry) notices error, event = .answer job a →
      c.fetch? job = some f → f.entry = id → c.entries[id]? = some e → e.isDisposed = false →
      e.kind = .html → f.resume e c.config.maxFileBytes (c.rootOf e.scope) a ≠
        (e, notices, .finished (.error error))) :
    d.work.Sourced rulesOf id first From := by
  by_cases stop : ∃ i, event = .stopChecker i
  -- stopping a checker only ends fetches, none of them of a document
  · obtain ⟨i, rfl⟩ := stop
    cases step
    obtain ⟨fetches, work, given⟩ := stopChecker_work c i
    have same : (c.stopChecker i).fetch? = fetches := congrArg Work.fetch? work
    rw [work]
    refine h.giveUp given fun e he html j f hf entry => ?_
    rw [← same]
    exact kept i rfl e he html j f hf entry
  · obtain ⟨u, replied, strides⟩ := step?_passage step fun i eq => stop ⟨i, eq⟩
    have hu : u.Orderly ∧ u.Sourced rulesOf id first From := by
      obtain ⟨rfl, -⟩ | ⟨job, a, rfl, reply⟩ := replied
      · exact ⟨orderly, h⟩
      · refine ⟨orderly.reply reply, h.reply reply (fun f e => agrees job a f e rfl) ?_
          fun f e notices error => lasts job a f e notices error rfl⟩
        rintro f e stat text hf entry he at_ rfl
        exact reads job f e stat text rfl hf entry he at_
    exact (strides.keep (p := fun u => u.Orderly ∧ u.Sourced rulesOf id first From)
      (fun _ _ ⟨orderly, h⟩ stride => ⟨orderly.stride stride, h.stride orderly stride uncleared⟩)
      hu).2

end SelectorCatalog.Catalog
