import SelectorCatalog.Proofs.Catalog.Supervise

/-!
# What a reset holds back

After a reset no slot claimed before is registered again, and whatever the work under way brings
into such a slot is disposed of. What may be registered without a further call comes from jobs that
had not claimed anything yet: a job that waits for where a path leads, a scan, or the links of a
document that a listener attaches later.

`Inert` says that there is none of these but the scans that are let through. It lasts as long as no
call is made that asks for entries, so that the reset of an inert catalogue is a barrier. Saves,
checks and fetches ask for none: they may go on as before, and so may checkers and those who stop
them.
-/

namespace SelectorCatalog.Catalog

open Job (Outcome Purpose Plan Stage Leads Act)

/-- Whether an event is none of the calls that ask for entries: to create one, to follow a change of
a directory, and to open a project. -/
def Event.isCalm : Event → Bool
  | .call (.create ..) | .call (.change _) | .call (.openProject _) => false
  | _ => true

/-- Whether a job is begun by a listener in the course of a run. -/
def IsListenerJob (c : Catalog) (events : List Event) (job : JobId) : Prop :=
  ∃ early n late b b', events = early ++ .listen n :: late ∧ Run c early b ∧
    b.step? (.listen n) = some b' ∧
    b.jobs.length ≤ job ∧ job < b'.jobs.length

/-- The reset of a catalogue, by itself or for a project that is opened. -/
def resetFor (c : Catalog) : Option Path → Catalog
  | none => c.reset
  | some root => (c.start (.openProject root)).1

/-- The scan of the project that is opened. -/
def IsProjectScan (c : Catalog) (project : Option Path) (job : JobId) : Prop :=
  project.isSome = true ∧ job = c.jobs.length

/-- No job is on its way to a claim: none waits for where a path leads, none scans, no document is
under construction, and no listener has links before it. -/
structure Unasking (c : Catalog) : Prop where
  asking : ∀ j, ¬c.IsAsking j
  scanning : ∀ j, ¬c.IsScanning j
  documents : ∀ {j : JobId} {f : Fetch} {i : SlotId} {s : Slot},
    c.stage? j = some (.fetching f (.construct i)) → c.slots[i]? = some s → s.kind = .css
  unheard : c.LinksHeard

/-- Only jobs that are let through are on their way to a claim, and no document is live. -/
structure Inert (own : JobId → Prop) (c : Catalog) : Prop where
  asking : ∀ {j s}, c.stage? j = some s → s.act ≠ .ask
  scanning : ∀ {j s}, c.stage? j = some s → s.act = .scan → own j
  documents : ∀ {id : EntryId} {e : Entry}, c.entries[id]? = some e → e.scope = .registry →
    e.kind = .html → e.isDisposed = true
  unheard : c.LinksHeard

variable {may : JobId → Act → Prop} {own : JobId → Prop} {c d : Catalog} {j : JobId}
  {event : Event} {events : List Event}

/-- A calm call asks for nothing and claims nothing. -/
theorem acts_of_calm {call : Call} (calm : (Event.call call).isCalm = true) : call.acts = [] := by
  cases call with
  | create | change | openProject => cases calm
  | _ => rfl

/-! ## Inert catalogues -/

/-- Moves that neither ask nor claim for a document, and scan only where that is let through, keep a
catalogue inert. -/
theorem Move.inert (h : Move may c d) (sound : Sound c) (inert : Inert own c)
    (asks : ∀ j, ¬may j .ask) (scans : ∀ j, may j .scan → own j)
    (claims : ∀ j, ¬may j (.claim .html)) : Inert own d where
  asking {j t} ht act := by
    rcases h.act ht (by rw [act]; simp) with ⟨s, hs, same⟩ | leave
    · exact inert.asking hs (same.trans act)
    · exact asks j (act ▸ leave)
  scanning {j t} ht act := by
    rcases h.act ht (by rw [act]; simp) with ⟨s, hs, same⟩ | leave
    · exact inert.scanning hs (same.trans act)
    · exact scans j (act ▸ leave)
  documents he scope html := by
    -- an old entry changes by a turn, and turns keep an entry frozen
    rcases h.entry he with ⟨e, he, turn⟩ | ⟨-, -, alone | ⟨j, leave⟩⟩
    · obtain ⟨kind, -, scope'⟩ := turn.file
      exact (turn.frozen (inert.documents he (scope'.symm.trans scope) (kind.symm.trans html))).1
    · cases alone.symm.trans scope
    · exact absurd (html ▸ leave) (claims j)
  unheard n l' e' links hl isOpen he mem := by
    rcases h.listener hl isOpen with ⟨l, hl, wasOpen, entry, le⟩ | new
    -- an open listener of before is of an entry that was there before
    · have lt := sound.owner_lt (List.mem_of_getElem? hl)
      rcases h.entry he with ⟨e, he, turn⟩ | ⟨ge, -⟩
      · rw [entry] at he
        have live := inert.documents he (sound.registry_of_listener hl he)
        exact inert.unheard hl wasOpen he (turn.links_unheard live (Entry.mem_unheard_of_le le mem))
      · exact absurd lt (Nat.not_lt_of_le (entry ▸ ge))
    · -- the listener of a new entry, which has told nothing
      rcases h.entry he with ⟨e, he, -⟩ | ⟨-, sent, -⟩
      · exact absurd (List.getElem?_eq_some_iff.mp he).1 (by rw [new]; exact Nat.lt_irrefl _)
      · rw [Entry.unheard, sent, List.drop_nil] at mem
        cases mem

/-- Several such moves keep a catalogue inert. -/
theorem Moves.inert (h : Moves may c d) (sound : Sound c) (inert : Inert own c)
    (asks : ∀ j, ¬may j .ask) (scans : ∀ j, may j .scan → own j)
    (claims : ∀ j, ¬may j (.claim .html)) : Inert own d := by
  refine (h.keep (p := fun d => Sound d ∧ Inert own d) ?_ ⟨sound, inert⟩).2
  rintro d e ⟨sound, inert⟩ move
  exact ⟨move.sound sound, move.inert sound inert asks scans claims⟩

/-- A checker that is stopped leaves a catalogue inert. -/
theorem Inert.stopChecker (inert : Inert own c) (supervised : Supervised c) (n : Nat) :
    Inert own (c.stopChecker n) := by
  -- what is given up has neither asked nor scanned, and is done now
  have back : ∀ {j s}, (c.stopChecker n).stage? j = some s → s.act ≠ .proceed →
      c.stage? j = some s := by
    intro j s hs acts
    obtain ⟨t, ht⟩ := stage?_of_stopChecker hs
    rcases supervised.stage?_stopChecker n ht with same | ⟨-, ended⟩
    · obtain rfl := Option.some.inj (same.symm.trans hs)
      exact ht
    · obtain rfl := Option.some.inj (ended.symm.trans hs)
      exact absurd rfl acts
  obtain ⟨js, cs, eq, -⟩ := stopChecker_frame c n
  rw [eq] at back ⊢
  exact
    { asking := fun hs act => inert.asking (back hs (by simp [act])) act
      scanning := fun hs act => inert.scanning (back hs (by simp [act])) act
      documents := inert.documents
      unheard := inert.unheard }

/-- An inert catalogue stays inert as long as nobody asks for an entry. -/
theorem Inert.step? (inert : Inert own c) (sound : Sound c) (supervised : Supervised c)
    (calm : event.isCalm = true) (h : c.step? event = some d) : Inert own d := by
  by_cases stop : ∃ n, event = .stopChecker n
  · obtain ⟨n, rfl⟩ := stop
    cases h
    exact inert.stopChecker supervised n
  have moves := step?_moves h fun n eq => stop ⟨n, eq⟩
  cases event with
  | call call =>
      have none : call.acts = [] := acts_of_calm calm
      refine moves.inert sound inert (fun j leave => ?_) (fun j leave => ?_) fun j leave => ?_ <;>
        simp [Event.leave, none] at leave
  | answer job a =>
      refine moves.inert sound inert (fun j leave => ?_) (fun j leave => ?_) fun j leave => ?_ <;>
        simp only [Event.leave] at leave <;> split at leave
      · simp at leave
      · simp at leave
      · simp at leave
      · simp at leave
      -- an answer to a listing: the scan may go on to claim
      · next hs =>
          obtain rfl : j = job := by simpa using leave
          exact inert.scanning hs rfl
      · simp at leave
      -- an answer to a lookup: nobody asked
      · next hs => exact absurd rfl (inert.asking hs)
      · simp at leave
      · simp at leave
  | listen n =>
      refine moves.inert sound inert (fun j leave => ?_)
        (fun j leave => by simp [Event.leave] at leave)
        fun j leave => by simp [Event.leave] at leave
      obtain ⟨-, leave | ⟨-, links, heard, some⟩⟩ := leave
      · cases leave
      -- the links are left from before, and there were none
      · obtain ⟨l, e, hl, isOpen, he, mem⟩ := listen?_unheard h heard
        exact some (inert.unheard hl isOpen he mem)
  | _ =>
      exact moves.inert sound inert (fun j leave => by simp [Event.leave] at leave)
        (fun j leave => by simp [Event.leave] at leave)
          fun j leave => by simp [Event.leave] at leave

/-- A whole run in which nobody asks for an entry keeps a catalogue inert. -/
theorem Inert.run (inert : Inert own c) (sound : Sound c) (supervised : Supervised c)
    (run : Run c events d) (calm : ∀ event ∈ events, event.isCalm = true) : Inert own d := by
  induction run with
  | nil => exact inert
  | cons step _ ih =>
      obtain ⟨calm', calm⟩ := List.forall_mem_cons.mp calm
      exact ih (inert.step? sound supervised calm' step) (supervised.sound_step? sound step)
        (supervised.step? sound step) calm

/-! ## Where a claim comes from -/

/-- Apart from those who ask for entries, slots are claimed on answers to jobs that ask or scan. -/
theorem claim_leave (calm : event.isCalm = true) {kind : EntryKind}
    (leave : event.leave c j (.claim kind)) :
    ∃ job answer, event = .answer job answer ∧ (c.IsAsking job ∨ c.IsScanning job) := by
  cases event with
  | call call => simp [Event.leave, acts_of_calm calm] at leave
  | answer job answer =>
      refine ⟨job, answer, rfl, ?_⟩
      simp only [Event.leave] at leave
      split at leave
      · next hs => exact .inl ⟨_, _, hs⟩
      · next hs => exact .inr ⟨_, _, _, hs⟩
      · cases leave.2
  | _ => simp [Event.leave] at leave

/-- A slot that a calm event brings is claimed on the answer to a job that asks or scans. -/
theorem step?_claim (step : c.step? event = some d) (calm : event.isCalm = true)
    (more : c.slots.length < d.slots.length) :
    ∃ job answer, event = .answer job answer ∧ (c.IsAsking job ∨ c.IsScanning job) := by
  have go : ∀ n, event ≠ .stopChecker n := by
    rintro n rfl
    cases step
    obtain ⟨js, cs, eq, -⟩ := stopChecker_frame c n
    rw [eq] at more
    exact Nat.lt_irrefl _ more
  obtain ⟨j, kind, leave⟩ : ∃ j kind, event.leave c j (.claim kind) := by
    -- without leave to claim, the event would have left the number of slots as it was
    refine Classical.byContradiction fun no => ?_
    have quiet : Moves unclaiming c d :=
      (step?_moves step go).mono fun j a leave kind eq => no ⟨j, kind, eq ▸ leave⟩
    rw [quiet.slots_length_eq] at more
    exact Nat.lt_irrefl _ more
  exact claim_leave calm leave

/-- Every slot that a calm run brings is claimed on the answer to a job that asks or scans. -/
theorem run_claim (run : Run c events d) (calm : ∀ event ∈ events, event.isCalm = true) {i : SlotId}
    (ge : c.slots.length ≤ i) (lt : i < d.slots.length) :
    ∃ before job answer rest b b', events = before ++ .answer job answer :: rest ∧ Run c before b ∧
      b.step? (.answer job answer) = some b' ∧ b.slots.length ≤ i ∧ i < b'.slots.length ∧
      (b.IsAsking job ∨ b.IsScanning job) := by
  induction run with
  | nil => exact absurd lt (Nat.not_lt_of_le ge)
  | @cons c b _ event events step _ ih =>
      obtain ⟨calm', calm⟩ := List.forall_mem_cons.mp calm
      by_cases new : i < b.slots.length
      · obtain ⟨job, answer, rfl, asks⟩ := step?_claim step calm' (Nat.lt_of_le_of_lt ge new)
        exact ⟨[], job, answer, events, c, b, rfl, .nil c, step, ge, new, asks⟩
      · obtain ⟨before, job, answer, rest, x, y, rfl, first, claims⟩ :=
          ih calm (Nat.le_of_not_lt new) lt
        exact ⟨event :: before, job, answer, rest, x, y, rfl, .cons step first, claims⟩

/-- A job that asks or scans after an event did so before, or the event lets it begin. -/
theorem step?_act (step : c.step? event = some d) {t : Stage} (ht : d.stage? j = some t)
    (acts : t.act ≠ .proceed) :
    (∃ s, c.stage? j = some s ∧ s.act = t.act) ∨ event.leave c j t.act := by
  by_cases stop : ∃ n, event = .stopChecker n
  · obtain ⟨n, rfl⟩ := stop
    cases step
    obtain ⟨s, hs⟩ := stage?_of_stopChecker ht
    rcases stage?_stopChecker hs n with same | ⟨ended, -⟩
    · obtain rfl := Option.some.inj (same.symm.trans ht)
      exact .inl ⟨s, hs, rfl⟩
    · obtain rfl := Option.some.inj (ended.symm.trans ht)
      exact absurd rfl acts
  · exact (step?_moves step fun n eq => stop ⟨n, eq⟩).act ht acts

/-- As long as nobody else asks for an entry, only listeners begin jobs that do. -/
theorem run_asking (run : Run c events d) (calm : ∀ event ∈ events, event.isCalm = true)
    (asking : d.IsAsking j) : c.IsAsking j ∨ IsListenerJob c events j := by
  induction run with
  | nil => exact .inl asking
  | @cons c b _ event events step _ ih =>
      obtain ⟨calm', calm⟩ := List.forall_mem_cons.mp calm
      rcases ih calm asking with asking | begun
      · obtain ⟨s, hs, act⟩ := isAsking_iff.mp asking
        rcases step?_act step hs (by simp [act]) with ⟨t, ht, same⟩ | leave
        · exact .inl (isAsking_iff.mpr ⟨t, ht, same.trans act⟩)
        · rw [act] at leave
          cases event with
          | call call => simp [Event.leave, acts_of_calm calm'] at leave
          | answer job answer =>
              simp only [Event.leave] at leave
              split at leave <;> simp at leave
          | listen n => exact .inr ⟨[], n, events, c, b, rfl, .nil c, step, leave.1, stage?_lt hs⟩
          | _ => simp [Event.leave] at leave
      · obtain ⟨early, n, late, x, y, rfl, first, begun⟩ := begun
        exact .inr ⟨event :: early, n, late, x, y, rfl, .cons step first, begun⟩

/-- As long as no project is opened, no scan is begun. -/
theorem run_scanning (run : Run c events d) (calm : ∀ event ∈ events, event.isCalm = true)
    (scanning : d.IsScanning j) : c.IsScanning j := by
  induction run with
  | nil => exact scanning
  | @cons c b _ event events step _ ih =>
      obtain ⟨calm', calm⟩ := List.forall_mem_cons.mp calm
      obtain ⟨s, hs, act⟩ := isScanning_iff.mp (ih calm scanning)
      rcases step?_act step hs (by simp [act]) with ⟨t, ht, same⟩ | leave
      · exact isScanning_iff.mpr ⟨t, ht, same.trans act⟩
      · rw [act] at leave
        cases event with
        | call call => simp [Event.leave, acts_of_calm calm'] at leave
        | answer job answer =>
            simp only [Event.leave] at leave
            split at leave
            · simp at leave
            · next hs =>
                obtain rfl : j = job := by simpa using leave
                exact ⟨_, _, _, hs⟩
            · simp at leave
        | _ => simp [Event.leave] at leave

/-! ## The reset -/

/-- What a reset leaves. -/
structure AfterReset (c : Catalog) (project : Option Path) (d : Catalog) : Prop where
  registered : d.registered = []
  slots : d.slots = c.slots
  listeners : d.listeners = c.listeners
  disposals : Entry.Disposals c.entries d.entries
  stages : ∀ {j s}, d.stage? j = some s →
    c.stage? j = some s ∨ c.IsProjectScan project j ∧ s.act = .scan

theorem afterReset (c : Catalog) (project : Option Path) :
    AfterReset c project (c.resetFor project) := by
  cases project with
  | none =>
      obtain ⟨es, eq, disposals, -⟩ := reset_spec c
      rw [resetFor, eq]
      exact ⟨rfl, rfl, rfl, disposals, .inl⟩
  | some root =>
      obtain ⟨es, eq, disposals, -⟩ := reset_spec (c.addJob { stage := .starting }).1
      -- the scan begins after the registry was emptied
      have scanning : c.resetFor (some root) =
          { (c.addJob { stage := .starting }).1.reset with root := some root }.setStage
            c.jobs.length (.scanning root [root] []) := rfl
      rw [scanning, eq]
      refine ⟨rfl, rfl, rfl, disposals, fun {j s} hs => ?_⟩
      rw [stage?_setStage] at hs
      split at hs
      -- the new job is the only one whose stage was set
      · next own =>
          obtain ⟨-, -, rfl⟩ := Option.map_eq_some_iff.mp hs
          exact .inr ⟨⟨rfl, own.symm⟩, rfl⟩
      · next other =>
          refine .inl ?_
          obtain ⟨t, ht, rfl⟩ := Option.map_eq_some_iff.mp hs
          rcases getElem?_concat ht with ht | ⟨own, -⟩
          · rw [stage?, ht]
            rfl
          · exact absurd own.symm other

/-- What holds of every catalogue holds after a reset. -/
theorem Sound.resetFor (sound : Sound c) (supervised : Supervised c) (project : Option Path) :
    Sound (c.resetFor project) ∧ Supervised (c.resetFor project) := by
  obtain ⟨event, step⟩ : ∃ event, c.step? event = some (c.resetFor project) := by
    cases project with
    | none => exact ⟨.reset, rfl⟩
    | some root => exact ⟨.call (.openProject root), rfl⟩
  exact ⟨supervised.sound_step? sound step, supervised.step? sound step⟩

/-- The reset of a catalogue in which no job is on its way to a claim leaves an inert one. -/
theorem Unasking.inert {project : Option Path} (unasking : Unasking c) (sound : Sound c)
    (reset : AfterReset c project d) (sound' : Sound d) : Inert (c.IsProjectScan project) d where
  asking hs act := by
    rcases reset.stages hs with hs | ⟨-, scan⟩
    · exact unasking.asking _ (isAsking_iff.mpr ⟨_, hs, act⟩)
    · cases act.symm.trans scan
  scanning hs act := by
    rcases reset.stages hs with hs | ⟨own, -⟩
    · exact absurd (isScanning_iff.mpr ⟨_, hs, act⟩) (unasking.scanning _)
    · exact own
  documents {id e} he scope html := by
    obtain ⟨i, s, own, hs, kind, -⟩ := sound'.slot_of_entry he scope
    cases filled : s.entry with
    | some id' =>
        obtain rfl : id' = id := Option.some.inj ((sound'.owned.filled hs filled).symm.trans own)
        exact sound'.evicted.gone hs filled (by simp [reset.registered]) he
    | none =>
        -- a document under construction would have been so before
        rw [reset.slots] at hs
        obtain ⟨j, x, hx, rfl⟩ := sound.built.vacant hs filled
        obtain ⟨stage, hj, at_⟩ := Option.bind_eq_some_iff.mp hx
        cases stage with
        | fetching f purpose =>
            cases purpose with
            | construct i =>
                cases at_
                cases (html.symm.trans kind).trans (unasking.documents hj hs)
            | _ => cases at_
        | _ => cases at_
  unheard {n l e links} hl isOpen he mem := by
    rw [reset.listeners] at hl
    obtain ⟨x, hx, turn⟩ := reset.disposals.turns.origin he
    refine unasking.unheard hl isOpen hx (Entry.links_unheard_of_disposal ?_ mem)
    rcases reset.disposals.2 _ x hx with same | gone
    · obtain rfl := Option.some.inj (he.symm.trans same)
      exact .inl rfl
    · obtain rfl := Option.some.inj (he.symm.trans gone)
      rw [Entry.dispose]
      split
      · exact .inl rfl
      · exact .inr rfl

/-- A reset as a barrier. Slots claimed before it are not registered again, and what they come to
hold is disposed of. As long as nobody asks for an entry, a slot is claimed afterwards only on the
answer to a job that asked or scanned at the reset already, to the scan of the project that is
opened, or to a job that a listener has begun; and only to the scan of the project if no job was on
its way to a claim at the reset. -/
theorem reset_is_barrier {config : Config} {clock : Time} {events later : List Event}
    (run : Run (new config clock) events c) (project : Option Path)
    (after : Run (c.resetFor project) later d) (calm : ∀ event ∈ later, event.isCalm = true) :
    (∀ i < c.slots.length, i ∉ d.registered ∧ ∀ (s : Slot) (id : EntryId) (e : Entry),
      d.slots[i]? = some s → s.entry = some id → d.entries[id]? = some e → e.isDisposed = true) ∧
    ∀ i ∈ d.registered, ∃ before job answer rest b b',
      later = before ++ .answer job answer :: rest ∧ Run (c.resetFor project) before b ∧
      b.step? (.answer job answer) = some b' ∧ b.slots.length ≤ i ∧ i < b'.slots.length ∧
      (c.IsAsking job ∨ c.IsScanning job ∨ c.IsProjectScan project job ∨
        IsListenerJob (c.resetFor project) before job) ∧
      (c.Unasking → c.IsProjectScan project job) := by
  obtain ⟨sound, supervised⟩ := sound_of_run run
  have reset := afterReset c project
  obtain ⟨sound', supervised'⟩ := sound.resetFor supervised project
  obtain ⟨sound_d, -⟩ := sound_along after sound' supervised'
  have old : ∀ i < c.slots.length, i ∉ d.registered := by
    intro i lt mem
    have before := mem_registered_of_run after mem (by rwa [reset.slots])
    rw [reset.registered] at before
    cases before
  refine ⟨fun i lt => ⟨old i lt, fun s id e hs filled he => ?_⟩, fun i mem => ?_⟩
  · exact sound_d.evicted.gone hs filled (old i lt) he
  have lt : i < d.slots.length := by
    have := sound_d.registered.lt i mem
    rwa [keys, List.length_map] at this
  have new : c.slots.length ≤ i := Nat.le_of_not_lt fun lt => old i lt mem
  -- a slot that is registered was claimed on an answer; the job that took it asked or scanned
  obtain ⟨before, job, answer, rest, b, b', rfl, first, step, ge, lt, claims⟩ :=
    run_claim after calm (by rwa [reset.slots]) lt
  have calm' : ∀ event ∈ before, event.isCalm = true :=
    fun event mem => calm event (List.mem_append_left _ mem)
  refine ⟨before, job, answer, rest, b, b', rfl, first, step, ge, lt, ?_, fun unasking => ?_⟩
  · rcases claims with asking | scanning
    · rcases run_asking first calm' asking with asking | begun
      · obtain ⟨s, hs, act⟩ := isAsking_iff.mp asking
        rcases reset.stages hs with hs | ⟨-, scan⟩
        · exact .inl (isAsking_iff.mpr ⟨s, hs, act⟩)
        · cases act.symm.trans scan
      · exact .inr (.inr (.inr begun))
    · obtain ⟨s, hs, act⟩ := isScanning_iff.mp (run_scanning first calm' scanning)
      rcases reset.stages hs with hs | ⟨own, -⟩
      · exact .inr (.inl (isScanning_iff.mpr ⟨s, hs, act⟩))
      · exact .inr (.inr (.inl own))
  · -- if no job was on its way to a claim, only the scan of the project is let through
    have inert := (unasking.inert sound reset sound').run sound' supervised' first calm'
    rcases claims with asking | scanning
    · obtain ⟨s, hs, act⟩ := isAsking_iff.mp asking
      exact absurd act (inert.asking hs)
    · obtain ⟨s, hs, act⟩ := isScanning_iff.mp scanning
      exact inert.scanning hs act

/-- A stylesheet is under construction when a project is opened. Its file turns out to be missing,
while the scan of the project finds another. -/
def constructionOvertaken : List Event :=
  [.answer 0 (.stat (.error (.notFound ⟨"/p/a.css"⟩))), .listen 0,
    .answer 1 (.listing (.ok [⟨⟨"/p/b.css"⟩, "b.css", true, false⟩]))] ++ emptyFile 2

/-- What is registered then was claimed for the scan. -/
theorem constructionOvertaken_by_scan :
    ∃ c d, Run (new {} 0) [.call (.create .css ⟨"/p/a.css"⟩ false)] c ∧ c.Unasking ∧
      Run (c.resetFor (some ⟨"/p"⟩)) constructionOvertaken d ∧ d.registered = [1] ∧
      (∀ i < c.slots.length, i ∉ d.registered) ∧
      ∃ before job answer rest b b', constructionOvertaken = before ++ .answer job answer :: rest ∧
        Run (c.resetFor (some ⟨"/p"⟩)) before b ∧ b.step? (.answer job answer) = some b' ∧
        b.slots.length ≤ 1 ∧ 1 < b'.slots.length ∧ c.IsProjectScan (some ⟨"/p"⟩) job := by
  let c := ((new {} 0).start (.create .css ⟨"/p/a.css"⟩ false)).1
  have run : Run (new {} 0) [.call (.create .css ⟨"/p/a.css"⟩ false)] c := .cons rfl (.nil c)
  -- the only job under way is the construction that is overtaken
  have only : ∀ {j s}, c.stage? j = some s → s = .fetching ⟨0, 1, 0, .stat⟩ (.construct 0) := by
    intro j s hs
    cases j with
    | zero => exact (Option.some.inj hs).symm
    | succ j => cases hs
  have unasking : c.Unasking :=
    { asking := by
        rintro j ⟨kind, path, hs⟩
        cases only hs
      scanning := by
        rintro j ⟨root, pending, found, hs⟩
        cases only hs
      documents := by
        intro j f i s hj hs
        cases only hj
        cases hs
        rfl
      unheard := by
        intro n l e links hl _ he mem
        cases n with
        | zero =>
            cases hl
            cases he
            cases mem
        | succ n => cases hl }
  have replay : ((c.resetFor (some ⟨"/p"⟩)).replay? constructionOvertaken).map (·.registered) =
      some [1] := by decide +kernel
  obtain ⟨d, hd, registered⟩ := Option.map_eq_some_iff.mp replay
  have after := run_iff_replay?.mpr hd
  obtain ⟨old, claimed⟩ := reset_is_barrier run (some ⟨"/p"⟩) after
    (by simp [constructionOvertaken, emptyFile, Event.isCalm])
  obtain ⟨before, job, answer, rest, b, b', split, first, step, ge, lt, -, own⟩ :=
    claimed 1 (by simp [registered])
  exact ⟨c, d, run, unasking, after, registered, fun i lt => (old i lt).1,
    before, job, answer, rest, b, b', split, first, step, ge, lt, own unasking⟩

/-- Events after which a reset has not emptied the registry for good: without any further call,
something is registered once all is quiet. -/
def LetsIn (events later : List Event) : Prop :=
  ∃ c d, Run (new {} 0) events c ∧ Run c.reset later d ∧ (∀ call, .call call ∉ later) ∧
    d.isQuiet = true ∧ d.registered ≠ []

/-- A replay is enough to see that something was let in. -/
theorem letsIn_of_replay {later : List Event} (none : ∀ call, .call call ∉ later)
    (replay : (((new {} 0).replay? events).bind fun c => c.reset.replay? later).map
      (fun d => (d.isQuiet, d.registered.isEmpty)) = some (true, false)) : LetsIn events later := by
  obtain ⟨d, hd, facts⟩ := Option.map_eq_some_iff.mp replay
  obtain ⟨c, hc, hd⟩ := Option.bind_eq_some_iff.mp hd
  obtain ⟨quiet, some⟩ := Prod.mk.inj facts
  refine ⟨c, d, run_iff_replay?.mpr hc, run_iff_replay?.mpr hd, none, quiet, fun empty => ?_⟩
  rw [empty] at some
  cases some

/-- A document is under construction. It is read and disposed of after the reset, but its listener
hears of the links first and attaches them. -/
theorem reset_lets_in :
    LetsIn [.call (.create .html ⟨"/p/i.html"⟩ false), .answer 0 (.stat (.ok ⟨0, 32⟩))]
      ([.answer 0 (.text (.ok "<link rel=stylesheet href=a.css>")), .answer 0 .built, .listen 0,
        .answer 2 (.resolved (.ok ⟨"/p/a.css"⟩))] ++ emptyFile 2 ++ [.listen 0]) ∧
    -- a call waits for where its path leads
    LetsIn [.call (.create .css ⟨"/p/a.css"⟩ true)]
    (.answer 0 (.resolved (.ok ⟨"/p/a.css"⟩)) :: emptyFile 0) ∧
    -- a project is scanned
    LetsIn [.call (.openProject ⟨"/p"⟩)]
      (.answer 0 (.listing (.ok [⟨⟨"/p/a.css"⟩, "a.css", true, false⟩])) :: emptyFile 1) := by
  refine ⟨letsIn_of_replay ?_ ?_, letsIn_of_replay ?_ ?_, letsIn_of_replay ?_ ?_⟩
  · simp [emptyFile]
  · decide +kernel
  · simp [emptyFile]
  · decide +kernel
  · simp [emptyFile]
  · decide +kernel

end SelectorCatalog.Catalog
