import SelectorCatalog.Proofs.Catalog.Quiet
import SelectorCatalog.Proofs.Catalog.Supervise

/-!
# What is handed out

A job that got a slot comes to the entry that the slot holds, an entry of the kind and path that it
asked for (`Pursues`, kept by every event). Whether that entry is any good when it is handed out
depends on what the job looked at last. A job that made the entry, or found it made, has just seen
its slot registered. A job that has waited for a refresh saw that before the wait, and does not look
again.

`handed_out` says what is certain: the entry is the one found at the path, unless it is disposed of
and the job has waited for a refresh; and an entry that is found there although it is disposed of
has a listener that is yet to hear of it. `disposed_is_handed_out` shows that both happen.
-/

namespace SelectorCatalog.Catalog

open Job (Outcome Purpose Plan Stage Leads Act)

/-- A job has got a slot of the kind and path that it asked for. -/
structure Pursues (c : Catalog) (a : Ask) (i : SlotId) : Prop where
  slot : ∃ s, c.slots[i]? = some s ∧ s.kind = a.kind ∧ s.key.same a.path = true
  stage : ∃ t, c.stage? a.job = some t ∧ Serves c i t

/-- A job that asked has got a slot, or is over. -/
def Tends (c : Catalog) (a : Ask) : Prop :=
  (∃ outcome, c.stage? a.job = some (.done outcome)) ∨ ∃ i, c.Pursues a i

/-- The entry that a job has come to. -/
def handed? (c : Catalog) (job : JobId) : Option EntryId :=
  match c.outcome? job with
  | some (.entry id) => id
  | _ => none

/-- A job waits for the refresh of the entry that it asked for. -/
def Refreshes (c : Catalog) (job : JobId) : Prop :=
  ∃ f path, c.stage? job = some (.fetching f (.refresh path))

/-- What is certain of an entry that is handed out to a job. -/
structure HandsOut (c : Catalog) (a : Ask) (id : EntryId) (e : Entry) (waited : Prop) : Prop where
  entry : c.entries[id]? = some e
  kind : e.kind = a.kind
  path : e.path.same a.path = true
  found : c.entryAt? a.path = some id ∨ e.isDisposed = true ∧ waited
  unheard : c.entryAt? a.path = some id → e.isDisposed = true → c.held = true →
    ∃ l ∈ c.listeners, l.entry = id ∧ l.closed = false ∧ l.seen < e.sent.length

variable {may : JobId → Act → Prop} {of : JobId → Prop} {event : Event} {events : List Event}
  {c d : Catalog} {a : Ask} {i : SlotId} {id : EntryId} {job : JobId} {s : Stage}

/-! ## Who asked -/

/-- A job that gets a slot gets one of the kind and path that it asks for. -/
theorem Ask.pursues_next (sound : Sound a.state) (hs : a.state.stage? a.job = some s)
    (isOpen : s.isOpen = true) (gets : a.Gets i) : a.next.Pursues a i := by
  refine ⟨?_, Ask.serves_next sound hs isOpen gets⟩
  rcases gets with fresh | ⟨x, shared⟩
  · refine ⟨⟨a.path, a.kind, none⟩, ?_, rfl, Path.same_iff.mpr rfl⟩
    rw [(Ask.fresh_next hs fresh).1, ← (Ask.claim_fresh_iff.mp fresh).2]
    simp [opened]
  · obtain ⟨found, kind⟩ := Ask.claim_shared_iff.mp shared
    obtain ⟨-, hx, path⟩ := find?_some found
    obtain ⟨t, ht, later⟩ := ((Ask.moves hs isOpen).slotsLast sound).slot hx
    exact ⟨t, ht, later.kind.trans kind, later.key ▸ path⟩

/-- A job gets a slot, or is refused and over. -/
theorem Ask.gets_or_refused (hs : a.state.stage? a.job = some s) :
    (∃ i, a.Gets i) ∨ a.next.stage? a.job = some (.done (.entry none)) := by
  cases found : a.state.find? a.path with
  | none => exact .inl ⟨_, .inl (claim_of_none found a.kind)⟩
  | some found' =>
      obtain ⟨slot, x⟩ := found'
      by_cases same : x.kind = a.kind
      · exact .inl ⟨slot, .inr ⟨x, Ask.claim_shared_iff.mpr ⟨found, same⟩⟩⟩
      · exact .inr (Ask.refused_next hs found same).1

theorem Pursues.moves (h : c.Pursues a i) (sound : Sound c) (moves : Moves may c d) :
    d.Pursues a i := by
  obtain ⟨⟨x, hx, kind, path⟩, t, ht, serves⟩ := h
  obtain ⟨y, hy, later⟩ := (moves.slotsLast sound).slot hx
  exact ⟨⟨y, hy, later.kind.trans kind, later.key ▸ path⟩, moves.serves sound ht serves⟩

/-- Slots last through every event, also when a checker is stopped. -/
theorem slotsLast_step? (sound : Sound c) (supervised : Supervised c)
    (step : c.step? event = some d) : SlotsLast c d := by
  by_cases stop : ∃ n, event = .stopChecker n
  · obtain ⟨n, rfl⟩ := stop
    cases step
    obtain ⟨js, cs, eq, -⟩ := stopChecker_frame c n
    have site := supervised.site?_stopChecker n
    rw [eq] at site ⊢
    exact { SlotsLast.refl c with site := fun hx => .inl (by rwa [site] at hx) }
  · exact (step?_moves step fun n eq => stop ⟨n, eq⟩).slotsLast sound

/-- Slots keep their places along a run. -/
theorem slotsLast_of_run (run : Run c events d) (sound : Sound c) (supervised : Supervised c) :
    SlotsLast c d := by
  induction run with
  | nil => exact .refl _
  | cons step _ ih =>
      exact (slotsLast_step? sound supervised step).trans
        (ih (supervised.sound_step? sound step) (supervised.step? sound step))

/-- A job with a slot stays with it, unless it is given up. -/
theorem Pursues.step? (h : c.Pursues a i) (sound : Sound c) (step : c.step? event = some d) :
    d.Pursues a i ∨ d.stage? a.job = some (.done .unit) := by
  by_cases stop : ∃ n, event = .stopChecker n
  · obtain ⟨n, rfl⟩ := stop
    cases step
    have slots : (c.stopChecker n).slots = c.slots := by
      rw [stopChecker]
      split <;> rfl
    obtain ⟨⟨x, hx, file⟩, t, ht, serves⟩ := h
    rcases stage?_stopChecker ht n with same | ⟨ended, -⟩
    · refine .inl ⟨⟨x, by rw [slots, hx], file⟩, t, same, serves.later fun entry holds => ?_⟩
      rw [held?, slots]
      exact holds
    · exact .inr ended
  · exact .inl (h.moves sound (step?_moves step fun n eq => stop ⟨n, eq⟩))

/-- What an ask tends to is tended to after further moves. -/
theorem Tends.moves (h : c.Tends a) (sound : Sound c) (moves : Moves may c d) : d.Tends a := by
  rcases h with ⟨outcome, ended⟩ | ⟨i, pursues⟩
  · exact .inl ⟨outcome, moves.done ended⟩
  · exact .inr ⟨i, pursues.moves sound moves⟩

/-- A job that is done stays done; if it is given up, what it came to is lost. -/
theorem done_step? (step : c.step? event = some d) {outcome : Outcome}
    (ended : c.stage? job = some (.done outcome)) :
    d.stage? job = some (.done outcome) ∨ d.stage? job = some (.done .unit) := by
  cases step?_fares step ended with
  | stays same => exact .inl same
  | stopped n _ given => exact .inr given
  | answered answer _ expected => simp [expects, ended] at expected
  | woken entry _ waits => cases waits
  | joins parts plan joining => cases joining

/-- No event takes from an ask what it tends to; if its job is given up, it is over. -/
theorem Tends.step? (h : c.Tends a) (sound : Sound c) (step : c.step? event = some d) :
    d.Tends a := by
  rcases h with ⟨outcome, ended⟩ | ⟨i, pursues⟩
  · exact .inl ((done_step? step ended).elim (⟨_, ·⟩) (⟨_, ·⟩))
  · rcases pursues.step? sound step with pursues | given
    · exact .inr ⟨i, pursues⟩
    · exact .inl ⟨.unit, given⟩

/-- An ask of an event meets a sound state, in which its job can go on. -/
theorem meets_of_asks (sound : Sound c) (step : c.step? event = some d) (mem : a ∈ c.asks event) :
    Sound a.state ∧ (∃ s, a.state.stage? a.job = some s ∧ s.isOpen = true) ∧
      Sound a.next ∧ Moves (fun _ _ => True) a.next d := by
  have go : ∀ n, event ≠ .stopChecker n := by
    rintro n rfl
    cases mem
  obtain ⟨xs, ys, split⟩ := List.append_of_mem mem
  have through := step?_through step go
  rw [split] at through
  obtain ⟨before, ⟨s, hs, isOpen⟩, after⟩ := through.split
  have sound_a := before.moves.sound sound
  exact ⟨sound_a, ⟨s, hs, isOpen⟩, (Ask.moves hs isOpen).sound sound_a, after.moves⟩

/-- Whoever asks in an event has got a slot after it, or is over. -/
theorem tends_of_asks (sound : Sound c) (step : c.step? event = some d) (mem : a ∈ c.asks event) :
    d.Tends a := by
  obtain ⟨sound_a, ⟨s, hs, isOpen⟩, sound_next, after⟩ := meets_of_asks sound step mem
  have next : a.next.Tends a := by
    rcases Ask.gets_or_refused hs with ⟨i, gets⟩ | refused
    · exact .inr ⟨i, Ask.pursues_next sound_a hs isOpen gets⟩
    · exact .inl ⟨_, refused⟩
  exact next.moves sound_next after

/-- Each ask of a run tends to its slot in the end. -/
theorem tends_of_run (run : Run c events d) (sound : Sound c) (supervised : Supervised c)
    (mem : a ∈ c.asksAlong events) : d.Tends a := by
  induction run with
  | nil => cases mem
  | @cons c c' _ event events step run ih =>
      have sound' := supervised.sound_step? sound step
      have supervised' := supervised.step? sound step
      rw [asksAlong, step] at mem
      rcases List.mem_append.mp mem with now | later
      · -- what the ask comes to is kept by the rest of the run
        refine (run.invariant (p := fun b => Sound b ∧ Supervised b ∧ b.Tends a) ?_
          ⟨sound', supervised', tends_of_asks sound step now⟩).2.2
        rintro b event b' ⟨sound, supervised, tends⟩ step
        exact ⟨supervised.sound_step? sound step, supervised.step? sound step,
          tends.step? sound step⟩
      · exact ih sound' supervised' later

/-! ## Jobs that are no parts -/

/-- A job stands apart when it has no parent. -/
theorem isApart_iff : c.IsApart job ↔ (c.crew.1[job]?).join = none := by
  rw [IsApart, crew, List.getElem?_map]
  cases c.jobs[job]? <;> rfl

/-- Whether a job stands apart is a matter of the crew alone. -/
theorem isApart_congr (same : d.crew = c.crew) : d.IsApart job ↔ c.IsApart job := by
  rw [isApart_iff, isApart_iff, same]

/-- A job that stands apart did so before further jobs were enlisted. -/
theorem IsApart.of_enlists (h : Enlists of c d) (lt : job < c.jobs.length)
    (apart : d.IsApart job) : c.IsApart job := by
  obtain ⟨ps, crew_eq, -⟩ := h
  rw [isApart_iff, crew_eq, List.getElem?_append_left (by rwa [length_crew])] at apart
  exact isApart_iff.mpr apart

/-- What parts ask for, they ask for themselves. -/
theorem job_of_partAsks {parts : List Part} {first : JobId} (mem : a ∈ c.partAsks first parts) :
    first ≤ a.job ∧ a.job < first + parts.length := by
  induction parts generalizing c first with
  | nil => cases mem
  | cons part rest ih =>
      have later : ∀ {b : Catalog}, a ∈ b.partAsks (first + 1) rest →
          first ≤ a.job ∧ a.job < first + (part :: rest).length := by
        intro b mem
        obtain ⟨ge, lt⟩ := ih mem
        refine ⟨Nat.le_of_succ_le ge, ?_⟩
        rwa [List.length_cons, Nat.add_comm rest.length, ← Nat.add_assoc]
      rcases part with ⟨path, _ | _⟩ | entry
      · rcases List.mem_cons.mp mem with rfl | mem
        · exact ⟨Nat.le_refl _, Nat.lt_add_of_pos_right (Nat.succ_pos _)⟩
        · exact later mem
      · exact later mem
      · exact later mem

/-- What a part asks for is not asked for by a job of its own. -/
theorem not_isApart_of_startPartsAsks {parts : List Part} {plan : Plan}
    (mem : a ∈ c.startPartsAsks job parts plan) :
    ¬(c.startParts job parts plan).IsApart a.job := by
  obtain ⟨ge, lt⟩ := job_of_partAsks mem
  have part : ((c.startParts job parts plan).crew.1[a.job]?).join = some job := by
    rw [crew_startParts, List.getElem?_append_right (by rwa [length_crew]), length_crew,
      List.getElem?_replicate, if_pos (Nat.sub_lt_left_of_lt_add ge lt)]
    rfl
  intro apart
  cases part.symm.trans (isApart_iff.mp apart)

/-- What a scan asks for is asked for by parts. -/
theorem not_isApart_of_scanAsks {root : Path} {found pending : List Path}
    (mem : a ∈ c.scanAsks job root found pending) :
    ¬(c.scan job root found pending).IsApart a.job := by
  cases pending with
  | nil => exact not_isApart_of_startPartsAsks mem
  | cons dir pending => cases mem

/-- All that a job of its own does in the event in which it asks is to ask. -/
theorem next_of_apart (sound : Sound c) (step : c.step? event = some d) (mem : a ∈ c.asks event)
    (apart : d.IsApart a.job) :
    d = a.next ∧ Sound a.state ∧ ∃ s, a.state.stage? a.job = some s ∧ s.isOpen = true := by
  cases event with
  | call call =>
      cases step
      cases call with
      | create kind path byPath =>
          cases byPath with
          | true => cases mem
          | false =>
              rw [asks, List.mem_singleton] at mem
              subst mem
              have added : Moves (fun _ _ => True) c (c.addJob { stage := .starting }).1 :=
                moves_addJob c true
              exact ⟨rfl, added.sound sound, _, stage?_addJob c true, rfl⟩
      | change change =>
          -- what is asked for then is asked for by parts
          refine absurd apart ?_
          show ¬((c.addJob { stage := .starting }).1.startChange c.jobs.length change).IsApart a.job
          rw [asks, changeAsks] at mem
          rw [startChange]
          split at mem
          · cases mem
          · next directory =>
              rw [if_neg directory]
              exact not_isApart_of_startPartsAsks mem
      | _ => cases mem
  | answer j answer =>
      have resumed : c.resume j answer = d := by
        simp only [Catalog.step?] at step
        split at step
        · exact Option.some.inj step
        · cases step
      subst resumed
      simp only [asks] at mem
      split at mem
      · next kind path file hs =>
          rw [List.mem_singleton] at mem
          subst mem
          refine ⟨?_, sound, _, hs, rfl⟩
          simp only [resume, hs]
          rfl
      -- nor does a scan ask by itself
      · next root dir pending found result hs =>
          refine absurd apart ?_
          simp only [resume, hs]
          cases result with
          | error error => exact not_isApart_of_scanAsks (c := c.notify _) mem
          | ok members => exact not_isApart_of_scanAsks mem
      · cases mem
  | _ => cases mem

/-! ## What is seen last -/

/-- The end of a job that stands apart unregisters nothing. -/
theorem registered_complete (apart : c.IsApart job) (outcome : Outcome) :
    (c.complete job outcome).registered = c.registered := by
  rw [complete_alone apart]
  rfl

/-- Nor does the refresh that it starts. -/
theorem registered_startFetch_refresh (apart : c.IsApart job) (entry : EntryId) (path : Path) :
    (c.startFetch job entry (.refresh path)).registered = c.registered := by
  rw [startFetch]
  split
  · rfl
  · split
    · exact registered_complete (c := c.notify _) apart _
    · rfl

/-- An entry that is shared is in a registered slot. -/
theorem registered_of_share {entry : EntryId} {path : Path} {byPath : Bool}
    (hs : c.stage? job = some s) (apart : c.IsApart job)
    (came : (c.share job i entry path byPath).stage? job = some (.done (.entry (some id)))) :
    i ∈ (c.share job i entry path byPath).registered := by
  by_cases mem : c.isRegistered i = true
  · have same : (c.share job i entry path byPath).registered = c.registered := by
      rw [share, mem]
      cases byPath with
      | true => exact registered_startFetch_refresh apart entry path
      | false => exact registered_complete apart _
    rw [same]
    exact List.contains_iff_mem.mp mem
  · -- who finds the slot gone comes to nothing
    rw [Bool.not_eq_true] at mem
    rw [share, mem] at came
    cases came.symm.trans (stage?_complete (by rw [hs]; rfl) _)

/-- An entry that is handed out by the job that made it is in a registered slot. -/
theorem registered_of_afterConstruction {entry : EntryId} (hs : c.stage? job = some s)
    (apart : c.IsApart job)
    (came : (c.afterConstruction job i entry).stage? job = some (.done (.entry (some id)))) :
    i ∈ (c.afterConstruction job i entry).registered := by
  rw [afterConstruction] at came ⊢
  split at came
  · next mem =>
      rw [if_pos mem, registered_complete (c := c.fill i entry) apart]
      exact List.contains_iff_mem.mp mem
  · have there : (((c.fill i entry).disposeEntry entry).stage? job).isSome := by
      show (c.stage? job).isSome
      rw [hs]
      rfl
    cases came.symm.trans (stage?_complete there _)

theorem registered_of_resumeFetch {f : Fetch} {answer : Answer}
    (hs : c.stage? job = some (.fetching f (.construct i))) (apart : c.IsApart job)
    (came : (c.resumeFetch job f (.construct i) answer).stage? job =
      some (.done (.entry (some id)))) :
    i ∈ (c.resumeFetch job f (.construct i) answer).registered := by
  rw [resumeFetch] at came ⊢
  split at came
  · cases hs.symm.trans came
  · dsimp only at came ⊢
    split at came
    · rw [stage?_setStage_self (c := (c.setEntry f.entry _).notify _) hs] at came
      cases came
    · exact registered_of_afterConstruction (c := ((c.setEntry f.entry _).notify _).notify _) hs
        apart came

/-- An entry that is there when it is asked for is in a registered slot. -/
theorem Ask.registered_next (hs : a.state.stage? a.job = some s) (gets : a.Gets i)
    (apart : a.state.IsApart a.job)
    (came : a.next.stage? a.job = some (.done (.entry (some id)))) : i ∈ a.next.registered := by
  rcases gets with fresh | ⟨x, shared⟩
  · cases came.symm.trans (Ask.fresh_next hs fresh).2
  obtain ⟨found, same⟩ := Ask.claim_shared_iff.mp shared
  rw [Ask.next, createAt_of_some found, if_pos (beq_iff_eq.mpr same)] at came ⊢
  split at came
  · exact registered_of_share hs apart came
  · rw [stage?_setStage_self hs] at came
    cases came

/-- A job with a slot that comes to an entry has waited for a refresh, or its slot is registered. -/
theorem Pursues.registered (h : c.Pursues a i) (step : c.step? event = some d)
    (waits : c.outcome? a.job = none) (apart : d.IsApart a.job)
    (came : d.stage? a.job = some (.done (.entry (some id)))) :
    c.Refreshes a.job ∨ i ∈ d.registered := by
  obtain ⟨t, ht, serves⟩ := h.stage
  cases step?_fares step ht with
  | stays same =>
      obtain rfl := Option.some.inj (same.symm.trans came)
      cases (outcome?_of_done ht).symm.trans waits
  | stopped n _ given => cases given.symm.trans came
  | answered answer _ expected eq =>
      subst eq
      have apart' := IsApart.of_enlists (enlists_resume answer) (stage?_lt ht) apart
      cases serves with
      | construct f =>
          have eq : c.resume a.job answer = c.resumeFetch a.job f (.construct i) answer := by
            simp only [resume, ht]
          rw [eq] at came ⊢
          exact .inr (registered_of_resumeFetch ht apart' came)
      | refresh path =>
          -- the slot was looked at before the refresh, and is not looked at again
          exact .inl ⟨_, path, ht⟩
      | await path byPath => simp [expects, ht] at expected
      | got | missed => cases (outcome?_of_done ht).symm.trans waits
  | woken entry _ awaits eq =>
      subst awaits
      subst eq
      cases serves
      have apart' := (isApart_congr (crew_share c a.job i entry _ _)).mp apart
      exact .inr (registered_of_share ht apart' came)
  | joins parts plan joining =>
      subst joining
      cases serves

/-! ## What is handed out -/

/-- A job that hands an entry out is done. -/
theorem stage?_of_handed? (came : c.handed? job = some id) :
    c.stage? job = some (.done (.entry (some id))) := by
  rw [handed?] at came
  split at came
  · next ended =>
      subst came
      exact stage?_of_outcome? ended
  · cases came

/-- The slot that a job got holds what the job comes to. -/
theorem Pursues.handsOut (h : c.Pursues a i) (sound : Sound c)
    (came : c.stage? a.job = some (.done (.entry (some id)))) {waited : Prop}
    (seen : waited ∨ i ∈ c.registered) : ∃ e, c.HandsOut a id e waited := by
  obtain ⟨⟨x, hx, kind, path⟩, t, ht, serves⟩ := h
  obtain ⟨y, hy, filled⟩ :=
    Option.bind_eq_some_iff.mp (serves.held?_of_outcome ht (outcome?_of_done came))
  obtain rfl := Option.some.inj (hx.symm.trans hy)
  obtain ⟨l, e, hl, own, he, -, kind', path'⟩ := sound.filled hx filled
  -- a registered slot is the one found at the path
  have finds : i ∈ c.registered → c.entryAt? a.path = some id := by
    intro mem
    rw [entryAt?, sound.find? mem hx path]
    exact filled
  refine ⟨e, he, kind'.trans kind, path' ▸ path, ?_, fun found gone held => ?_⟩
  · cases live : e.isDisposed with
    | false =>
        refine .inl (finds (Classical.byContradiction fun out => ?_))
        cases live.symm.trans (sound.evicted.gone hx filled out he)
    | true => exact seen.symm.imp finds fun waited => ⟨rfl, waited⟩
  · -- the slot found at the path is that of the entry, so its listener goes on
    obtain ⟨⟨j, z⟩, found, filled'⟩ := Option.bind_eq_some_iff.mp found
    obtain ⟨mem, hz, -⟩ := find?_some found
    obtain rfl : j = i := sound.slot_unique hz filled' hx filled
    rw [← own] at he
    have goes : l.closed = false := by
      refine Bool.eq_false_iff.mpr fun closed => ?_
      exact (sound.heard.ended hl closed held he).2 mem
    exact ⟨l, List.mem_of_getElem? hl, own, goes, sound.heard.before hl goes he gone⟩

/-- What a job that is no part of another comes to, after every run: an entry of the kind and path
that it asked for, which is found at the path unless it is disposed of and the job has waited for
its refresh. -/
theorem handed_out {config : Config} {clock : Time} (run : Run (new config clock) events c)
    (step : c.step? event = some d)
    (asked : a ∈ (new config clock).asksAlong (events ++ [event])) (apart : d.IsApart a.job)
    (waits : c.outcome? a.job = none) (came : d.handed? a.job = some id) :
    ∃ e, d.HandsOut a id e (c.Refreshes a.job) := by
  obtain ⟨sound, supervised⟩ := sound_of_run run
  have sound_d := supervised.sound_step? sound step
  have ended := stage?_of_handed? came
  -- asked for in an earlier step, or in this very one
  rw [asksAlong_append run] at asked
  rcases List.mem_append.mp asked with before | now
  · rcases tends_of_run run (sound_new config clock) (supervised_new config clock) before with
      ⟨outcome, done⟩ | ⟨i, pursues⟩
    · cases (outcome?_of_done done).symm.trans waits
    -- nobody waits on its behalf, so it was this step that ended it
    · have seen := pursues.registered step waits apart ended
      rcases pursues.step? sound step with later | given
      · exact later.handsOut sound_d ended seen
      · cases given.symm.trans ended
  · have now : a ∈ c.asks event := by
      rw [asksAlong, step] at now
      simpa [asksAlong] using now
    obtain ⟨rfl, sound_a, s, hs, isOpen⟩ := next_of_apart sound step now apart
    -- a job that stands apart began to ask and ended in one step
    rcases Ask.gets_or_refused hs with ⟨i, gets⟩ | refused
    · have apart' : a.state.IsApart a.job :=
        (isApart_congr (crew_createAt a.state a.job a.kind a.path a.byPath)).mp apart
      have seen := Ask.registered_next hs gets apart' ended
      exact (Ask.pursues_next sound_a hs isOpen gets).handsOut sound_d ended (.inr seen)
    · cases refused.symm.trans ended

/-- A stylesheet is asked for anew by its path, and is about to be refreshed for it. -/
def askedAgain : List Event :=
  [.call (.create .css ⟨"/a.css"⟩ false)] ++ emptyFile 0 ++
    [.call (.create .css ⟨"/a.css"⟩ true), .answer 1 (.resolved (.ok ⟨"/a.css"⟩))]

/-- The answers to a refresh, the last one apart. -/
def refreshing : List Event :=
  [.answer 1 (.stat (.ok ⟨1, 4⟩)), .answer 1 (.text (.ok ".a{}")),
    .answer 1 (.parsed 0 (.ok [.style ".a"]))]

/-- An entry that was asked for by its path and has been refreshed. -/
theorem refreshed_is_handed_out :
    ∃ c d a e, Run (new {} 0) (askedAgain ++ refreshing) c ∧ c.step? (.answer 1 .built) = some d ∧
      a ∈ (new {} 0).asksAlong (askedAgain ++ refreshing ++ [.answer 1 .built]) ∧
      d.IsApart a.job ∧ c.outcome? a.job = none ∧ d.handed? a.job = some 0 ∧
      d.entryAt? a.path = some 0 ∧ d.HandsOut a 0 e (c.Refreshes a.job) := by
  have facts : ((new {} 0).replay? (askedAgain ++ refreshing)).bind (fun c =>
      (c.step? (.answer 1 .built)).bind fun d =>
      (((new {} 0).asksAlong (askedAgain ++ refreshing ++ [.answer 1 .built]))[1]?).map fun a =>
        ((d.jobs[a.job]?).bind (·.parent), (c.outcome? a.job).isNone, d.handed? a.job,
          d.entryAt? a.path)) = some (none, true, some 0, some 0) := by
    decide +kernel
  obtain ⟨c, hc, facts⟩ := Option.bind_eq_some_iff.mp facts
  obtain ⟨d, step, facts⟩ := Option.bind_eq_some_iff.mp facts
  obtain ⟨a, ha, eq⟩ := Option.map_eq_some_iff.mp facts
  simp only [Prod.mk.injEq] at eq
  obtain ⟨apart, waits, came, found⟩ := eq
  have run := run_iff_replay?.mpr hc
  have asked := List.mem_of_getElem? ha
  have waits := Option.isNone_iff_eq_none.mp waits
  obtain ⟨e, out⟩ := handed_out run step asked apart waits came
  exact ⟨c, d, a, e, run, step, asked, apart, waits, came, found, out⟩

/-- A call is handed an entry that is disposed of. -/
def HandsOutDisposed (events : List Event) (event : Event) (job : JobId) (path : Path)
    (found : Option EntryId) : Prop :=
  ∃ c d id e, Run (new {} 0) events c ∧ c.step? event = some d ∧ c.outcome? job = none ∧
    d.handed? job = some id ∧ d.entries[id]? = some e ∧ e.isDisposed = true ∧
    d.entryAt? path = found

/-- A replay is enough to see that an entry is handed out that is disposed of. -/
theorem handsOutDisposed_of_replay {path : Path} {found : Option EntryId}
    (replay : ((new {} 0).replay? events).bind (fun c => (c.step? event).bind fun d =>
      (d.handed? job).bind fun id => (d.entries[id]?).map fun e =>
        ((c.outcome? job).isNone, e.isDisposed, d.entryAt? path)) = some (true, true, found)) :
    HandsOutDisposed events event job path found := by
  obtain ⟨c, hc, facts⟩ := Option.bind_eq_some_iff.mp replay
  obtain ⟨d, step, facts⟩ := Option.bind_eq_some_iff.mp facts
  obtain ⟨id, came, facts⟩ := Option.bind_eq_some_iff.mp facts
  obtain ⟨e, he, eq⟩ := Option.map_eq_some_iff.mp facts
  simp only [Prod.mk.injEq] at eq
  obtain ⟨waits, gone, at_⟩ := eq
  exact ⟨c, d, id, e, run_iff_replay?.mpr hc, step, Option.isNone_iff_eq_none.mp waits, came, he,
    gone, at_⟩

/-- One entry is removed while it is refreshed for a call, and another is disposed of before a call,
which still finds it because its listener is yet to hear of it. -/
theorem disposed_is_handed_out :
    HandsOutDisposed (askedAgain ++ [.remove ⟨"/a.css"⟩] ++ refreshing) (.answer 1 .built) 1
      ⟨"/a.css"⟩ none ∧
    HandsOutDisposed ([.call (.create .css ⟨"/a.css"⟩ false)] ++ emptyFile 0 ++ [.disposeEntry 0])
      (.call (.create .css ⟨"/a.css"⟩ false)) 1 ⟨"/a.css"⟩ (some 0) := by
  constructor
  · exact handsOutDisposed_of_replay (by decide +kernel)
  · exact handsOutDisposed_of_replay (by decide +kernel)

end SelectorCatalog.Catalog
