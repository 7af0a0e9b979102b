import SelectorCatalog.Proofs.Catalog.Supervise

/-!
# A job that is alone

While nobody calls, one job and its parts may be all that is under way (`Catalog.isAlone`), with no
listener that has links before it. Then a listener that goes on begins no job that lasts
(`unmoved_listen?`): it does not concern whoever looks at the entries, the slots and the job.

This lasts (`Alone.step?`). New parts are started by the job alone, as it is the only one that
scans. And new links are told of by documents that are fetched, while the job fetches stylesheets
(`LinksHeard.step?`). So it is enough to know of the start that nothing is under way and no links
are left for the listeners.
-/

namespace SelectorCatalog.Catalog

open Job (Outcome Purpose Plan Stage Act)

/-- Whether of all jobs only one and its parts are under way. -/
def isAlone (c : Catalog) (job : JobId) : Bool :=
  c.jobs.zipIdx.all fun (t, j) => t.isDone || j == job || t.parent == some job

/-- Whether an event is what follows from calls that were made already, or the passing of time. -/
def Event.isPassive : Event → Bool
  | .answer .. | .wake _ | .listen _ | .pass _ | .clock _ => true
  | _ => false

/-- Nothing is under way but a job and its parts, and no listener will begin anything. -/
structure Alone (job : JobId) (c : Catalog) : Prop where
  jobs : c.isAlone job = true
  unheard : c.LinksHeard

/-- Whether the fetches under way are all fetches of stylesheets. -/
def FetchesSheets (c : Catalog) : Prop :=
  ∀ ⦃j : JobId⦄ ⦃f : Fetch⦄ ⦃e : Entry⦄, c.fetch? j = some f → c.entries[f.entry]? = some e →
    e.kind = .css

/-- Nothing has changed but for listeners that went on, and for what has nothing to do with the job
that is alone. -/
structure Unmoved (c d : Catalog) : Prop where
  config : d.config = c.config
  root : d.root = c.root
  slots : d.slots = c.slots
  entries : d.entries = c.entries
  owners : d.owners = c.owners
  jobs : ∀ j < c.jobs.length, d.jobs[j]? = c.jobs[j]?
  ended : ∀ {j : JobId} {t : Job}, d.jobs[j]? = some t → c.jobs.length ≤ j →
    t.parent = none ∧ t.isDone = true
  registered : d.registered = c.registered ∨ ∃ n id e, c.owners[n]? = some id ∧
    c.entries[id]? = some e ∧ e.isDisposed = true ∧ d.registered = c.registered.filter (· != n)

variable {may : JobId → Act → Prop} {c d : Catalog} {job j : JobId} {event : Event} {v w : Work}

/-! ## Who is under way -/

/-- A job is alone when every other one is over or works for it. -/
theorem isAlone_iff : c.isAlone job = true ↔ ∀ j t, c.jobs[j]? = some t →
    t.isDone = true ∨ j = job ∨ t.parent = some job := by
  simp only [isAlone, List.all_eq_true, Prod.forall, List.mem_zipIdx_iff_getElem?, Bool.or_eq_true,
    beq_iff_eq, or_assoc]
  exact ⟨fun h j t => h t j, fun h t j => h j t⟩

/-- Of all jobs, only one and its parts are under way. -/
theorem own_of_isAlone (alone : c.isAlone job = true) {s : Stage} (hs : c.stage? j = some s)
    (goes : ∀ outcome, s ≠ .done outcome) :
    j = job ∨ (c.jobs[j]?).bind (·.parent) = some job := by
  obtain ⟨t, ht, rfl⟩ := Option.map_eq_some_iff.mp hs
  rcases isAlone_iff.mp alone j t ht with ended | own | part
  · obtain ⟨stage, parent, ofCatalog⟩ := t
    cases stage with
    | done outcome => exact absurd rfl (goes outcome)
    | _ => cases ended
  · exact .inl own
  · exact .inr (by rw [ht]; exact part)

/-- A job is done when its stage has an outcome. -/
theorem isDone_iff {t : Job} : t.isDone = true ↔ ∃ outcome, t.stage = .done outcome := by
  obtain ⟨stage, parent, ofCatalog⟩ := t
  cases stage <;> simp [Job.isDone, Job.outcome?]

/-- Unless a checker is stopped, a job that is done stays as it is. -/
theorem stage?_of_done {outcome : Outcome} (step : c.step? event = some d)
    (hs : c.stage? j = some (.done outcome)) : ∃ outcome, d.stage? j = some (.done outcome) := by
  cases step?_fares step hs with
  | stays same => exact ⟨outcome, same⟩
  | stopped _ _ ended => exact ⟨.unit, ended⟩
  | answered answer _ expected => simp [expects, hs] at expected
  | woken _ _ waits => cases waits
  | joins _ _ joins => cases joins

/-! ## Links that are told of -/

/-- No move takes an entry away. -/
theorem Move.entries_length_le (h : Move may c d) : c.entries.length ≤ d.entries.length := by
  cases h with
  | ambient _ entries => exact Nat.le_of_eq (congrArg List.length entries.symm)
  | entries turns => exact Nat.le_of_eq turns.1.symm
  | evict _ disposals => exact Nat.le_of_eq disposals.1.symm
  | standalone => simp [addEntry]
  | claim => simp [opened]
  | conclude =>
      rw [concluded_entries]
      split
      · exact Nat.le_refl _
      · simp
  | enlist | stage | join | hear | leave | retire => exact Nat.le_refl _

/-- An open listener was open before and has gone on, or its entry is new. -/
theorem Moves.listener (h : Moves may c d) {n : Nat} {l' : Listener}
    (hl : d.listeners[n]? = some l') (isOpen : l'.closed = false) :
    (∃ l, c.listeners[n]? = some l ∧ l.closed = false ∧ l'.entry = l.entry ∧ l.seen ≤ l'.seen) ∨
      c.entries.length ≤ l'.entry := by
  refine (h.keep (p := fun d => c.entries.length ≤ d.entries.length ∧ ∀ l' : Listener,
    d.listeners[n]? = some l' → l'.closed = false →
    (∃ l, c.listeners[n]? = some l ∧ l.closed = false ∧ l'.entry = l.entry ∧ l.seen ≤ l'.seen) ∨
      c.entries.length ≤ l'.entry) ?_
    ⟨Nat.le_refl _, fun l hl isOpen => .inl ⟨l, hl, isOpen, rfl, Nat.le_refl _⟩⟩).2 l' hl isOpen
  rintro x y ⟨le, so_far⟩ move
  refine ⟨Nat.le_trans le move.entries_length_le, fun l' hl isOpen => ?_⟩
  rcases move.listener hl isOpen with ⟨l, hl, isOpen, entry, seen⟩ | new
  · rcases so_far l hl isOpen with ⟨l₀, hl₀, isOpen₀, entry₀, seen₀⟩ | new
    · exact .inl ⟨l₀, hl₀, isOpen₀, entry.trans entry₀, Nat.le_trans seen₀ seen⟩
    · exact .inr (entry ▸ new)
  · exact .inr (new ▸ le)

/-- Apart from answers, nothing makes an entry tell of links. -/
theorem Stride.links_unheard (h : Stride event v w) {id : EntryId} {e' : Entry}
    (he : w.entries[id]? = some e') {seen : Nat} {links : List Path}
    (mem : .fetchComplete links ∈ e'.unheard seen) :
    ∃ e, v.entries[id]? = some e ∧ .fetchComplete links ∈ e.unheard seen := by
  cases h with
  | time | root => exact ⟨e', he, mem⟩
  | add kind path scope =>
      rcases getElem?_concat he with he | ⟨-, rfl⟩
      · exact ⟨e', he, mem⟩
      · simp [Entry.unheard] at mem
  | dispose disposals =>
      obtain ⟨e, old, -⟩ := disposals.turns.origin he
      -- a disposal tells of no links
      refine ⟨e, old, ?_⟩
      rcases disposals.2 id e old with same | gone
      · obtain rfl := Option.some.inj (he.symm.trans same)
        exact mem
      · obtain rfl := Option.some.inj (he.symm.trans gone)
        exact Entry.links_unheard_of_disposal (Entry.sent_dispose e) mem
  -- a cleared entry keeps its log
  | clear entry =>
      obtain ⟨e, old, rfl⟩ := Option.map_eq_some_iff.mp ((List.getElem?_modify ..).symm.trans he)
      refine ⟨e, old, ?_⟩
      split at mem <;> exact mem
  | @begin _ entry e _ there =>
      rcases Decidable.eq_or_ne entry id with rfl | ne
      · rw [List.getElem?_set_self (List.getElem?_eq_some_iff.mp there).1] at he
        obtain rfl := Option.some.inj he
        exact ⟨e, there, Entry.links_unheard_of_disposal (.inl (Entry.sent_beginFetch e)) mem⟩
      · exact ⟨e', (List.getElem?_set_ne ne).symm.trans he, mem⟩

/-- The answer to the fetch of a stylesheet does not make an entry tell of links. -/
theorem Reply.links_unheard {a : Answer} (h : Reply j a v w)
    (sheet : ∀ ⦃f e⦄, v.fetch? j = some f → v.entries[f.entry]? = some e → e.kind = .css)
    {id : EntryId} {e' : Entry} (he : w.entries[id]? = some e') {seen : Nat} {links : List Path}
    (mem : .fetchComplete links ∈ e'.unheard seen) :
    ∃ e, v.entries[id]? = some e ∧ .fetchComplete links ∈ e.unheard seen := by
  cases h with
  | advance | fail => exact ⟨e', he, mem⟩
  | @land f e _ _ _ _ _ fetches _ there installs =>
      rcases Decidable.eq_or_ne f.entry id with rfl | ne
      · rw [List.getElem?_set_self (List.getElem?_eq_some_iff.mp there).1] at he
        obtain rfl := Option.some.inj he
        have turn : e.Turn _ := .install _ _ (Fetch.isDisposed_indexOf _) installs
        have css : e.kind = .css := sheet fetches there
        exact ⟨e, there, turn.links_unheard (fun html => by cases css.symm.trans html) mem⟩
      · exact ⟨e', (List.getElem?_set_ne ne).symm.trans he, mem⟩

/-- Only documents tell of links. So while stylesheets alone are fetched there are no new links for
the listeners. -/
theorem LinksHeard.step? (heard : c.LinksHeard) (sheets : c.FetchesSheets)
    (step : c.step? event = some d) : d.LinksHeard := by
  intro n l' e' links hl isOpen he mem
  by_cases stop : ∃ i, event = .stopChecker i
  · obtain ⟨i, rfl⟩ := stop
    cases step
    obtain ⟨js, cs, eq, -⟩ := stopChecker_frame c i
    rw [eq] at hl he
    exact heard hl isOpen he mem
  -- what the entry tells of now it has told of before
  have go : ∀ i, event ≠ .stopChecker i := fun i eq => stop ⟨i, eq⟩
  obtain ⟨u, replied, strides⟩ := step?_passage step go
  have told : ∃ e, c.entries[l'.entry]? = some e ∧ .fetchComplete links ∈ e.unheard l'.seen := by
    obtain ⟨x, hx, mem⟩ : ∃ x, u.entries[l'.entry]? = some x ∧
        .fetchComplete links ∈ x.unheard l'.seen := by
      refine strides.keep (p := fun w => ∀ x : Entry, w.entries[l'.entry]? = some x →
        .fetchComplete links ∈ x.unheard l'.seen → ∃ x, u.entries[l'.entry]? = some x ∧
          .fetchComplete links ∈ x.unheard l'.seen) ?_ (fun x hx mem => ⟨x, hx, mem⟩) e' he mem
      intro v w so_far stride x hx mem
      obtain ⟨y, hy, mem⟩ := stride.links_unheard hx mem
      exact so_far y hy mem
    obtain ⟨rfl, -⟩ | ⟨j, a, -, reply⟩ := replied
    · exact ⟨x, hx, mem⟩
    · exact reply.links_unheard (@sheets j) hx mem
  obtain ⟨e, he, mem⟩ := told
  rcases (step?_moves step go).listener hl isOpen with ⟨l, hl, isOpen, entry, seen⟩ | new
  · exact heard hl isOpen (entry ▸ he) (Entry.mem_unheard_of_le seen mem)
  · exact absurd (List.getElem?_eq_some_iff.mp he).1 (Nat.not_lt.mpr new)

/-! ## Listeners that go on -/

theorem Unmoved.refl (c : Catalog) : Unmoved c c where
  config := rfl
  root := rfl
  slots := rfl
  entries := rfl
  owners := rfl
  jobs _ _ := rfl
  ended ht ge := absurd (List.getElem?_eq_some_iff.mp ht).1 (Nat.not_lt.mpr ge)
  registered := .inl rfl

/-- What is under way goes on in a catalogue that has not moved. -/
theorem Unmoved.stage? (h : Unmoved c d) {s : Stage} (hs : c.stage? j = some s) :
    d.stage? j = some s := by
  rw [← hs, Catalog.stage?, Catalog.stage?, h.jobs j (stage?_lt hs)]

/-- A listener goes on. -/
theorem Unmoved.setListener (h : Unmoved c d) {n : Nat} {l l' : Listener}
    (hl : d.listeners[n]? = some l) (same : l'.entry = l.entry) : Unmoved c (d.setListener n l') :=
  { h with owners := (owners_setListener hl same).trans h.owners }

/-- A job is added that is done at once. -/
theorem unmoved_job (c : Catalog) (outcome : Outcome) :
    Unmoved c ((c.addJob { stage := .starting }).1.setStage c.jobs.length (.done outcome)) where
  config := rfl
  root := rfl
  slots := rfl
  entries := rfl
  owners := rfl
  jobs j lt := by
    show ((c.jobs ++ [({ stage := .starting } : Job)]).modify c.jobs.length _)[j]? = _
    rw [List.getElem?_modify_ne _ _ (Nat.ne_of_gt lt), List.getElem?_append_left lt]
  ended {j t} ht ge := by
    have at_ : ((c.jobs ++ [({ stage := .starting } : Job)]).modify c.jobs.length fun t =>
        { t with stage := .done outcome })[j]? = some t := ht
    rw [List.getElem?_modify] at at_
    obtain ⟨u, hu, rfl⟩ := Option.map_eq_some_iff.mp at_
    rcases getElem?_concat hu with old | ⟨rfl, rfl⟩
    · exact absurd (List.getElem?_eq_some_iff.mp old).1 (Nat.not_lt.mpr ge)
    · rw [if_pos rfl]
      exact ⟨rfl, rfl⟩
  registered := .inl rfl

theorem setStage_setStage (c : Catalog) (id : JobId) (s t : Stage) :
    (c.setStage id s).setStage id t = c.setStage id t := by
  rw [setStage, setStage, List.modify_modify_eq]
  rfl

/-- Without links there is nothing to attach. -/
theorem startAttach_nil {s : Stage} (hs : c.stage? j = some s) :
    c.startAttach j [] = c.setStage j (.done .unit) := by
  have enlisted : c.enlisted j [] .attach = c.setStage j (.joining [] .attach) := by
    rw [enlisted]
    simp
  show (c.enlisted j [] .attach).joinParts j = _
  rw [enlisted, joinParts, stage?_setStage_self hs]
  exact setStage_setStage c j _ _

/-- A listener that has no links before it begins nothing that lasts. -/
theorem unmoved_listen? (sound : Sound c) (heard : c.LinksHeard) {n : Nat}
    (step : c.listen? n = some d) : Unmoved c d := by
  obtain ⟨l, e, event, seen, hl, isOpen, he, hr, rfl⟩ := listen?_some step
  cases event with
  | disposed =>
      have gone := (sound.honest he).isDisposed_of_receive? hr
      have own : c.owners[n]? = some l.entry := by
        rw [owners, List.getElem?_map, hl]
        rfl
      have goes : Unmoved c (c.setListener n { l with seen := seen, closed := true }) :=
        (Unmoved.refl c).setListener hl rfl
      simp only [hear]
      split
      · exact { goes with
          registered := .inr ⟨n, l.entry, e, own, he, gone, by rw [← sound.heard.slot_eq hl]; rfl⟩ }
      · exact goes
  | fetchComplete links =>
      obtain rfl : links = [] := heard hl isOpen he (Entry.receive?_mem_unheard hr)
      simp only [hear]
      split
      · -- there is nothing to attach, so the new job is done at once
        have nothing := startAttach_nil (c := (c.addJob { stage := .starting }).1.setListener n
          { l with seen := seen, busy := some c.jobs.length }) (stage?_addJob c true)
        -- the attachment of no links is the outcome of its job
        rw [show (c.addJob { stage := .starting }).2 = c.jobs.length from rfl, nothing]
        exact (unmoved_job c .unit).setListener hl rfl
      · exact (Unmoved.refl c).setListener hl rfl

/-! ## A job stays alone -/

/-- A listener that goes on leaves a job alone. -/
theorem Unmoved.isAlone (h : Unmoved c d) (alone : c.isAlone job = true) :
    d.isAlone job = true := by
  refine isAlone_iff.mpr fun j t ht => ?_
  rcases Nat.lt_or_ge j c.jobs.length with lt | ge
  · exact isAlone_iff.mp alone j t (h.jobs j lt ▸ ht)
  · exact .inl (h.ended ht ge).2

/-- New jobs leave a job alone that are parts of it or the job itself. -/
theorem isAlone_step? (alone : c.isAlone job = true) (step : c.step? event = some d)
    {ps : List (Option JobId)} (crew_eq : d.crew.1 = c.crew.1 ++ ps)
    (own : ∀ {k p}, ps[k]? = some p → c.jobs.length + k = job ∨ p = some job) :
    d.isAlone job = true := by
  refine isAlone_iff.mpr fun j t ht => ?_
  have at_ : (c.crew.1 ++ ps)[j]? = some t.parent := by
    rw [← crew_eq, crew, List.getElem?_map, ht]
    rfl
  rcases Nat.lt_or_ge j c.jobs.length with lt | ge
  · rw [List.getElem?_append_left (by rwa [length_crew]), crew, List.getElem?_map] at at_
    obtain ⟨t₀, ht₀, same⟩ := Option.map_eq_some_iff.mp at_
    rcases isAlone_iff.mp alone j t₀ ht₀ with ended | eq | part
    · obtain ⟨outcome, hs⟩ := isDone_iff.mp ended
      obtain ⟨outcome, hs⟩ := stage?_of_done step (by rw [Catalog.stage?, ht₀, Option.map_some, hs])
      rw [Catalog.stage?, ht, Option.map_some, Option.some.injEq] at hs
      exact .inl (isDone_iff.mpr ⟨outcome, hs⟩)
    · exact .inr (.inl eq)
    · exact .inr (.inr (same.symm.trans part))
  · obtain ⟨k, rfl⟩ := Nat.exists_eq_add_of_le ge
    rw [List.getElem?_append_right (by rwa [length_crew]), length_crew,
      Nat.add_sub_cancel_left] at at_
    exact .inr (own at_)

/-- Where nothing is under way and no links are left for the listeners, the job of a call is alone.
-/
theorem alone_start (done : c.jobs.all Job.isDone = true) (heard : c.LinksHeard) (call : Call) :
    (c.start call).1.Alone c.jobs.length where
  jobs := by
    obtain ⟨n, crew_eq⟩ := crew_start c call
    have started : c.step? (.call call) = some (c.start call).1 := rfl
    have alone : c.isAlone c.jobs.length = true := isAlone_iff.mpr fun j t ht =>
      .inl (List.all_eq_true.mp done t (List.mem_of_getElem? ht))
    refine isAlone_step? alone started (congrArg Prod.fst crew_eq) ?_
    intro k p at_
    cases k with
    | zero => exact .inl rfl
    | succ k => exact .inr (List.eq_of_mem_replicate (List.mem_of_getElem? at_))
  unheard := by
    have started : c.step? (.call call) = some (c.start call).1 := rfl
    refine heard.step? (fun _ _ _ fetches _ => ?_) started
    cases (fetch?_of_done done _).symm.trans fetches

/-- A job stays alone as long as nobody calls, if it fetches stylesheets alone and no part of it
scans. -/
theorem Alone.step? (alone : c.Alone job) (sound : Sound c) (sheets : c.FetchesSheets)
    (scans : ∀ {j}, c.IsScanning j → j = job) (step : c.step? event = some d)
    (passive : event.isPassive = true) : d.Alone job where
  unheard := alone.unheard.step? sheets step
  jobs := by
    -- nothing new begins
    have none (same : d.crew = c.crew) : d.isAlone job = true := by
      have kept : d.crew.1 = c.crew.1 ++ [] := by rw [same, List.append_nil]
      exact isAlone_step? alone.jobs step kept nofun
    cases event with
    | answer j a =>
        have happens := step
        simp only [Catalog.step?] at happens
        split at happens
        · cases happens
          obtain ⟨n, crew_eq, scanning⟩ := crew_resume c j a
          refine isAlone_step? alone.jobs step (congrArg Prod.fst crew_eq) fun at_ => .inr ?_
          have part := List.mem_replicate.mp (List.mem_of_getElem? at_)
          rw [part.2, scans (scanning.resolve_left part.1)]
        · cases happens
    | wake j =>
        have happens := step
        simp only [Catalog.step?, wake?] at happens
        split at happens
        · obtain ⟨entry, -, rfl⟩ := Option.map_eq_some_iff.mp happens
          exact none (crew_share c j _ entry _ _)
        · cases happens
    | listen n => exact (unmoved_listen? sound alone.unheard step).isAlone alone.jobs
    | pass ms =>
        cases step
        exact none rfl
    | clock time =>
        simp only [Catalog.step?] at step
        split at step
        · cases step
          exact alone.jobs
        · cases step
    | _ => cases passive

end SelectorCatalog.Catalog
