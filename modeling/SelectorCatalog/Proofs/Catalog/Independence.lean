import SelectorCatalog.Proofs.Catalog.Probe
import SelectorCatalog.Proofs.Catalog.Search

/-!
# Checks that run together

All stylesheets are checked by a job with a part for each of them. What the part does for its entry
is what a check of that entry alone would do, given the same answers at the same times, in whatever
order the parts are answered. `Together` says so of every state along the way: for each part there
is a run of the single check from the beginning that has come equally far (`Alike`). The job is over
with the last of its parts and comes to the number of those that fetched their file again.

* `listen?_frame`: what listeners do meanwhile, which is beside the checks.
* `Together.begin` and `Together.step?`: the parts begin, and go on with one event.
* `checks_are_independent`: what all of them come to.
-/

namespace SelectorCatalog.Catalog

open Job (Outcome Purpose Plan Stage)

variable {c d x y : Catalog} {id : EntryId} {job j : JobId} {s : Stage} {event : Event}
  {events : List Event} {ids : List EntryId} {k : Nat}

/-! ## Listeners -/

/-- A listener that goes on may remove a slot and start new jobs, and does nothing else. -/
theorem listen?_frame {i : Nat} (step : c.listen? i = some d) :
    ∃ ls rs js, d = { c with listeners := ls, registered := rs, jobs := js } ∧
      ∀ j < c.jobs.length, js[j]? = c.jobs[j]? := by
  obtain ⟨l, e, event, seen, -, -, -, -, rfl⟩ := listen?_some step
  cases event with
  | disposed =>
      simp only [hear]
      split <;> exact ⟨_, _, _, rfl, fun _ _ => rfl⟩
  | fetchComplete links =>
      simp only [hear]
      split
      · let added := (c.addJob { stage := .starting }).1.setListener i
          { l with seen := seen, busy := some c.jobs.length }
        have hs : added.stage? c.jobs.length = some .starting := stage?_addJob c true
        obtain ⟨js, eq, same⟩ := startAttach_frame hs links
        refine ⟨added.listeners, c.registered, js, eq, ?_⟩
        intro j lt
        have lt' : j < added.jobs.length := by
          show j < (c.jobs ++ _).length
          rw [List.length_append]
          exact Nat.lt_add_right _ lt
        rw [same j lt' (Nat.ne_of_gt lt)]
        exact List.getElem?_append_left lt
      · exact ⟨_, _, _, rfl, fun _ _ => rfl⟩

/-! ## The same check, alone -/

/-- A check that is a part of a job in one catalogue, and one of the same entry that stands alone in
another, are equally far. -/
structure Alike (x : Catalog) (j : JobId) (b : Catalog) (n : JobId) (id : EntryId) : Prop where
  setting : SameSetting x b
  apart : b.IsApart n
  entry : ∃ e, x.entries[id]? = some e ∧ b.entries[id]? = some e
  stage : ∃ s : Stage, s.Checks id ∧ x.stage? j = some s ∧ b.stage? n = some s

variable {b : Catalog} {n : JobId}

theorem SameSetting.symm (h : SameSetting c x) : SameSetting x c :=
  ⟨h.config.symm, h.root.symm, h.standaloneRoot.symm, h.clock.symm⟩

/-- What is beside a check leaves it where it is. -/
theorem Alike.frame (h : Alike x j b n id) (setting : SameSetting y x)
    (stage : y.stage? j = x.stage? j) (entry : y.entries[id]? = x.entries[id]?) :
    Alike y j b n id where
  setting := ⟨setting.config.trans h.setting.config, setting.root.trans h.setting.root,
    setting.standaloneRoot.trans h.setting.standaloneRoot, setting.clock.trans h.setting.clock⟩
  apart := h.apart
  entry := by
    obtain ⟨e, he, hb⟩ := h.entry
    exact ⟨e, entry.trans he, hb⟩
  stage := by
    obtain ⟨s, checks, hs, hb⟩ := h.stage
    exact ⟨s, checks, stage.trans hs, hb⟩

/-- Both checks wait for the same answers. -/
theorem Alike.expects_eq (h : Alike x j b n id) (a : Answer) : x.expects j a = b.expects n a := by
  obtain ⟨s, -, hs, hb⟩ := h.stage
  simp only [expects, hs, hb]

/-- Both checks ask for the same. -/
theorem Alike.request?_eq (h : Alike x j b n id) : x.request? j = b.request? n := by
  obtain ⟨s, checks, hs, hb⟩ := h.stage
  obtain ⟨e, he, he'⟩ := h.entry
  have path_eq : x.pathOf id = b.pathOf id := by
    rw [pathOf, pathOf, he, he']
  rw [request?, request?, hs, hb]
  cases checks with
  | ask => exact congrArg (fun path => some (Request.stat path)) path_eq
  | @fetch f own =>
      subst own
      exact congrArg f.request? path_eq
  | done => rfl

/-- Both checks take the same answer the same way. -/
theorem Alike.answer (h : Alike x j b n id) {a : Answer} (expected : x.expects j a = true) :
    ∃ (t : Stage) (e : Entry) (ns : List Notice) (b' : Catalog),
      x.resume j a = ((x.setEntry id e).notify ns).reach j t ∧
        b.step? (.answer n a) = some b' ∧
        ∀ y, SameSetting y x → y.stage? j = some t → y.entries[id]? = some e →
          Alike y j b' n id := by
  obtain ⟨s, checks, hs, hb⟩ := h.stage
  obtain ⟨e, he, he'⟩ := h.entry
  obtain ⟨t, d, ns, checks', resumes⟩ := resume_check checks e x a
  have expected' : b.expects n a = true := (h.expects_eq a).symm.trans expected
  have resumed := resumes b n h.setting.symm hb he' expected'
  have apart : ((b.setEntry id d).notify ns).IsApart n := h.apart
  rw [reach_alone apart] at resumed
  refine ⟨t, d, ns, _, resumes x j ⟨rfl, rfl, rfl, rfl⟩ hs he expected,
    by rw [step?, if_pos expected', resumed], ?_⟩
  intro y setting stage entry
  constructor
  · exact ⟨setting.config.trans h.setting.config, setting.root.trans h.setting.root,
      setting.standaloneRoot.trans h.setting.standaloneRoot, setting.clock.trans h.setting.clock⟩
  · exact apart.setStage n t
  · refine ⟨d, entry, ?_⟩
    exact List.getElem?_set_self (List.getElem?_eq_some_iff.mp he').1
  · exact ⟨t, checks', stage, stage?_setStage_self (c := (b.setEntry id d).notify ns) hb t⟩

/-! ## All checks together -/

/-- The part that checks the stylesheet of a number, after the job of all checks. -/
def checkPart (c : Catalog) (k : Nat) : JobId :=
  c.jobs.length + 1 + k

/-- The parts of the job of all checks. -/
def checkParts (c : Catalog) : List JobId :=
  List.range' (c.jobs.length + 1) c.stylesheets.length

/-- What may happen while stylesheets are checked together: a part is answered, a listener goes on,
or time passes. -/
def isOfChecks (c : Catalog) : Event → Bool
  | .answer j _ => c.checkParts.contains j
  | .listen _ | .pass _ | .clock _ => true
  | _ => false

/-- What a check has of an event: its own answers, under its own number, and the time of day. -/
def Event.ofCheck (j n : JobId) : Event → Option Event
  | .answer i a => if i = j then some (.answer n a) else none
  | .clock time => some (.clock time)
  | _ => none

/-- The run of one check alone, out of the events of all. -/
def checkAlone (c : Catalog) (k : Nat) (id : EntryId) (events : List Event) : List Event :=
  .call (.check id) :: events.filterMap (Event.ofCheck (c.checkPart k) c.jobs.length)

/-- How far the checks of all stylesheets are that began at `c`. -/
structure Together (c : Catalog) (events : List Event) (x : Catalog) : Prop where
  parent : ∀ k < c.stylesheets.length, (x.jobs[c.checkPart k]?).bind (·.parent) = some c.jobs.length
  joined : x.stage? c.jobs.length = some (x.gathered c.checkParts c.stylesheets)
  alike : ∀ k id, c.stylesheets[k]? = some id →
    ∃ b, Run c (c.checkAlone k id events) b ∧ Alike x (c.checkPart k) b c.jobs.length id
  others : ∀ id ∉ c.stylesheets, x.entries[id]? = c.entries[id]?

/-- The parts of a check are numbered in the order of the stylesheets. -/
theorem mem_checkParts : j ∈ c.checkParts ↔ ∃ k < c.stylesheets.length, j = c.checkPart k := by
  rw [checkParts, mem_row]
  rfl

/-- No part is the check itself. -/
theorem checkPart_ne (c : Catalog) (k : Nat) : c.checkPart k ≠ c.jobs.length := by
  show (c.jobs.length + 1 + k : Nat) ≠ c.jobs.length
  omega

/-- Different stylesheets are checked by different parts. -/
theorem checkPart_inj {i : Nat} (eq : c.checkPart i = c.checkPart k) : i = k :=
  Nat.add_left_cancel eq

/-- No entry is listed twice. -/
theorem Sound.nodup_stylesheets (sound : Sound c) : c.stylesheets.Nodup := by
  rw [stylesheets_eq, List.Nodup, List.pairwise_filterMap]
  refine sound.registered.sorted.imp ?_
  rintro i j before id hi id' hj rfl
  obtain ⟨s, hs, -, filled⟩ := sheetIn?_eq_some.mp hi
  obtain ⟨t, ht, -, filled'⟩ := sheetIn?_eq_some.mp hj
  obtain rfl := sound.slot_unique hs filled ht filled'
  exact Nat.lt_irrefl _ before

/-- How far the job is depends on what its parts have come to. -/
theorem gathered_congr {parts : List JobId} (same : ∀ j ∈ parts, y.outcome? j = x.outcome? j)
    (ids : List EntryId) : y.gathered parts ids = x.gathered parts ids := by
  have eq : parts.mapM y.outcome? = parts.mapM x.outcome? := by
    clear ids
    induction parts with
    | nil => rfl
    | cons j rest ih =>
        obtain ⟨here, later⟩ := List.forall_mem_cons.mp same
        rw [List.mapM_cons, List.mapM_cons, here, ih later]
  rw [gathered, gathered, eq]

/-- What a job has come to is a matter of its stage. -/
theorem outcome?_congr {i : JobId} (same : y.stage? i = x.stage? j) :
    y.outcome? i = x.outcome? j := by
  cases hx : x.outcome? j with
  | some outcome => exact outcome?_of_done (same.trans (stage?_of_outcome? hx))
  | none =>
      cases hy : y.outcome? i with
      | none => rfl
      | some outcome =>
          cases hx.symm.trans (outcome?_of_done (same.symm.trans (stage?_of_outcome? hy)))

/-- The stage of the job itself does not count. -/
theorem gathered_setStage {parts : List JobId} (out : job ∉ parts) (t : Stage)
    (ids : List EntryId) : (x.setStage job t).gathered parts ids = x.gathered parts ids := by
  refine gathered_congr ?_ ids
  intro j mem
  refine outcome?_congr ?_
  rw [stage?_setStage, if_neg]
  rintro rfl
  exact out mem

/-- The check is none of its own parts. -/
theorem job_not_mem_checkParts (c : Catalog) : c.jobs.length ∉ c.checkParts := by
  intro mem
  obtain ⟨k, -, eq⟩ := mem_checkParts.mp mem
  exact checkPart_ne c k eq.symm

/-- A check goes on alone with what it has of the next event. -/
theorem checkAlone_append (c : Catalog) (k : Nat) (id : EntryId) (events : List Event)
    (event : Event) : c.checkAlone k id (events ++ [event]) =
      c.checkAlone k id events ++ (event.ofCheck (c.checkPart k) c.jobs.length).toList := by
  rw [checkAlone, checkAlone, List.filterMap_append, List.cons_append, List.filterMap_cons]
  cases event.ofCheck (c.checkPart k) c.jobs.length <;> rfl

/-- What is beside the checks leaves them where they are. -/
theorem Together.aside (h : Together c events x) (setting : SameSetting y x)
    (jobs : ∀ j < x.jobs.length, y.jobs[j]? = x.jobs[j]?) (entries : y.entries = x.entries)
    (other : ∀ j, Event.ofCheck j c.jobs.length event = none) :
    Together c (events ++ [event]) y := by
  have stage : ∀ {j s}, x.stage? j = some s → y.stage? j = x.stage? j := by
    intro j s hs
    rw [stage?, stage?, jobs j (stage?_lt hs)]
  constructor
  case parent =>
    intro k lt
    have part := h.parent k lt
    obtain ⟨t, ht, -⟩ := Option.bind_eq_some_iff.mp part
    rw [jobs _ (List.getElem?_eq_some_iff.mp ht).1]
    exact part
  case joined =>
    rw [stage h.joined, h.joined, gathered_congr]
    -- the parts have not moved, so what was gathered has not
    intro j mem
    obtain ⟨k, lt, rfl⟩ := mem_checkParts.mp mem
    obtain ⟨b, -, alike⟩ := h.alike k _ (List.getElem?_eq_getElem lt)
    obtain ⟨s, -, hs, -⟩ := alike.stage
    exact (outcome?_congr (stage hs)).symm
  -- the event is of no part, and no run alone takes it
  case alike =>
    intro k id at_
    obtain ⟨b, run, alike⟩ := h.alike k id at_
    obtain ⟨s, -, hs, -⟩ := alike.stage
    rw [checkAlone_append, other, Option.toList_none, List.append_nil]
    exact ⟨b, run, alike.frame setting (stage hs) (by rw [entries])⟩
  case others =>
    intro id out
    rw [entries]
    exact h.others id out

/-- The time of day moves on, for all checks. -/
theorem Together.clock (h : Together c events x) {time : Time} (le : x.clock ≤ time) :
    Together c (events ++ [.clock time]) { x with clock := time } where
  parent := h.parent
  joined := h.joined
  alike k id at_ := by
    obtain ⟨b, run, alike⟩ := h.alike k id at_
    have step : b.step? (.clock time) = some { b with clock := time } := by
      rw [step?, if_pos (alike.setting.clock ▸ le)]
    rw [checkAlone_append]
    refine ⟨_, run.append (.cons step (.nil _)), ?_⟩
    exact ⟨{ alike.setting with clock := rfl }, alike.apart, alike.entry, alike.stage⟩
  others := h.others

/-- An answer to one check brings it on, and the job with it, and touches nothing else. -/
theorem Together.part (h : Together c events x) (lt : k < c.stylesheets.length)
    (alike : Alike x (c.checkPart k) b c.jobs.length id) {a : Answer}
    (expected : x.expects (c.checkPart k) a = true) :
    ∃ y b', x.resume (c.checkPart k) a = y ∧ b.step? (.answer c.jobs.length a) = some b' ∧
      Alike y (c.checkPart k) b' c.jobs.length id ∧ SameSetting y x ∧ y.crew = x.crew ∧
      y.stage? c.jobs.length = some (y.gathered c.checkParts c.stylesheets) ∧
      (∀ i, c.jobs.length ≠ i → c.checkPart k ≠ i → y.stage? i = x.stage? i) ∧
      ∀ other, id ≠ other → y.entries[other]? = x.entries[other]? := by
  obtain ⟨t, e, ns, b', resumes, step, alike'⟩ := alike.answer expected
  -- the job waits, for this part among others
  obtain ⟨s, hs, goes⟩ := stage?_of_expects expected
  have mem : c.checkPart k ∈ c.checkParts := mem_checkParts.mpr ⟨k, lt, rfl⟩
  have joins : x.stage? c.jobs.length = some (.joining c.checkParts (.checks c.stylesheets)) := by
    rw [h.joined, gathered, mapM_outcome?_of_goes mem (outcome?_of_goes hs goes)]
  let told := (x.setEntry id e).notify ns
  let moved := told.setStage (c.checkPart k) t
  have joins' : moved.stage? c.jobs.length =
      some (.joining c.checkParts (.checks c.stylesheets)) := by
    rw [stage?_setStage, if_neg (checkPart_ne c k)]
    exact joins
  obtain ⟨ns', joined⟩ := joinParts_checks joins'
  let y := (moved.notify ns').setStage c.jobs.length (moved.gathered c.checkParts c.stylesheets)
  -- the part reaches its next stage, and the job joins what its parts have come to
  have reached : x.resume (c.checkPart k) a = y := by
    have reaches := reach_part (c := told) joins mem (checkPart_ne c k)
      (Option.isSome_of_eq_some hs) (h.parent k lt) t
    rw [resumes]
    exact reaches.trans joined
  have setting : SameSetting y x := ⟨rfl, rfl, rfl, rfl⟩
  have own : y.stage? (c.checkPart k) = some t := by
    rw [stage?_setStage, if_neg (Ne.symm (checkPart_ne c k))]
    exact stage?_setStage_self (c := told) hs t
  refine ⟨y, b', reached, step, alike' y setting own ?_, setting, ?_, ?_, ?_, ?_⟩
  · obtain ⟨e', he, -⟩ := alike.entry
    exact List.getElem?_set_self (List.getElem?_eq_some_iff.mp he).1
  · exact (crew_setStage _ _ _).trans (crew_setStage told _ _)
  · refine (stage?_setStage_self (c := moved.notify ns') joins' _).trans (congrArg some ?_)
    exact (gathered_setStage (x := moved.notify ns') (job_not_mem_checkParts c) _ _).symm
  · intro i notJob notPart
    rw [stage?_setStage, if_neg notJob]
    show moved.stage? i = _
    rw [stage?_setStage, if_neg notPart]
    rfl
  · intro other ne
    exact List.getElem?_set_ne ne

/-- All checks are as far as before after an answer to one of them, but for that one. -/
theorem Together.answer (h : Together c events x) (nodup : c.stylesheets.Nodup)
    (mem : j ∈ c.checkParts) {a : Answer} (expected : x.expects j a = true) :
    Together c (events ++ [.answer j a]) (x.resume j a) := by
  obtain ⟨k, lt, rfl⟩ := mem_checkParts.mp mem
  have at_ : c.stylesheets[k]? = some c.stylesheets[k] := List.getElem?_eq_getElem lt
  obtain ⟨b, run, alike⟩ := h.alike k _ at_
  obtain ⟨y, b', rfl, step, alike, setting, crew, joined, stage, entries⟩ :=
    h.part lt alike expected
  -- the answered part takes the same step alone; the others do not see it
  refine ⟨?_, joined, ?_, ?_⟩
  · intro i lt
    rw [parent_congr crew]
    exact h.parent i lt
  · intro i id at_'
    rw [checkAlone_append]
    -- two parts check different stylesheets, as no stylesheet is listed twice
    by_cases same : i = k
    · subst same
      obtain rfl := Option.some.inj (at_.symm.trans at_')
      rw [Event.ofCheck, if_pos rfl]
      exact ⟨b', run.append (.cons step (.nil _)), alike⟩
    · have other : c.checkPart k ≠ c.checkPart i := fun eq => same (checkPart_inj eq).symm
      have differ : c.stylesheets[k] ≠ id := by
        rintro rfl
        exact same ((List.getElem?_inj lt nodup).mp (at_.trans at_'.symm)).symm
      obtain ⟨b, run, alike⟩ := h.alike i id at_'
      rw [Event.ofCheck, if_neg other, Option.toList_none, List.append_nil]
      exact ⟨b, run, alike.frame setting
        (stage _ (Ne.symm (checkPart_ne c i)) other) (entries id differ)⟩
  · intro id out
    have ne : c.stylesheets[k] ≠ id := by
      rintro rfl
      exact out (List.getElem_mem lt)
    rw [entries id ne]
    exact h.others id out

/-- The checks go on with every event that concerns them. -/
theorem Together.step? (h : Together c events x) (nodup : c.stylesheets.Nodup)
    (step : x.step? event = some y) (of : c.isOfChecks event = true) :
    Together c (events ++ [event]) y := by
  cases event with
  | answer j a =>
      simp only [Catalog.step?] at step
      split at step
      · next expected =>
          cases step
          exact h.answer nodup (List.contains_iff_mem.mp of) expected
      · cases step
  | listen i =>
      obtain ⟨ls, rs, js, rfl, jobs⟩ := listen?_frame step
      exact h.aside ⟨rfl, rfl, rfl, rfl⟩ jobs rfl fun _ => rfl
  | pass ms =>
      cases step
      exact h.aside ⟨rfl, rfl, rfl, rfl⟩ (fun _ _ => rfl) rfl fun _ => rfl
  | clock time =>
      simp only [Catalog.step?] at step
      split at step
      · next le =>
          cases step
          exact h.clock le
      · cases step
  | _ => cases of

/-- A whole run of answers keeps the check and the isolated checks together. -/
theorem Together.run {later : List Event} (h : Together c events x) (nodup : c.stylesheets.Nodup)
    (run : Run x later d) (of : ∀ event ∈ later, c.isOfChecks event = true) :
    Together c (events ++ later) d := by
  induction run generalizing events with
  | nil =>
      rw [List.append_nil]
      exact h
  | cons step _ ih =>
      obtain ⟨here, later⟩ := List.forall_mem_cons.mp of
      rw [List.append_cons]
      exact ih (h.step? nodup step here) later

/-! ## The beginning -/

/-- The check of one stylesheet begins as it begins among all. -/
theorem alike_start (sheet : IsStylesheet c.entries id) (setting : SameSetting x c)
    (entries : x.entries = c.entries) (stage : x.stage? j = some (c.checkStage id)) :
    Alike x j (c.start (.check id)).1 c.jobs.length id := by
  obtain ⟨e, he, -⟩ := sheet
  have apart : (c.addJob { stage := .starting, ofCatalog := false }).1.IsApart c.jobs.length := by
    simp [IsApart, addJob]
  rw [start_check]
  constructor
  · exact ⟨setting.config, setting.root, setting.standaloneRoot, setting.clock⟩
  · exact apart.setStage _ _
  · exact ⟨e, (congrArg (fun es : List Entry => es[id]?) entries).trans he, he⟩
  · exact ⟨c.checkStage id, checks_checkStage c id, stage,
      stage?_setStage_self (stage?_addJob c false) _⟩

/-- All checks begin. -/
theorem Together.begin (sound : Sound c) : Together c [] (c.start .checkAll).1 := by
  let added := (c.addJob { stage := .starting }).1
  have hs : added.stage? c.jobs.length = some .starting := stage?_addJob c true
  have first_eq : added.jobs.length = c.jobs.length + 1 := List.length_append
  have start_eq : (c.start .checkAll).1 = added.startChecks c.jobs.length := rfl
  obtain ⟨y, js, rfl, -, checks, joins, -, stages⟩ := startChecks_eq hs
  rw [first_eq] at joins stages
  let begun : Catalog := { added with jobs := js }
  obtain ⟨ns, gathered_eq⟩ := joinParts_checks joins
  -- the job itself is no part
  have notJob : ∀ k, c.jobs.length ≠ c.checkPart k := fun k => Ne.symm (checkPart_ne c k)
  constructor
  case parent =>
    intro k lt
    have among : k < (c.stylesheets.map Part.check).length := by rwa [List.length_map]
    rw [checkPart, ← first_eq]
    exact parent_startParts (c := added) among
  all_goals rw [start_eq, checks, gathered_eq]
  case joined =>
    refine (stage?_setStage_self (c := begun.notify ns) joins _).trans (congrArg some ?_)
    exact (gathered_setStage (x := begun.notify ns) (job_not_mem_checkParts c) _ _).symm
  case alike =>
    intro k id at_
    have sheet := sound.isStylesheet (List.mem_of_getElem? at_)
    refine ⟨(c.start (.check id)).1, .cons rfl (.nil _),
      alike_start sheet ⟨rfl, rfl, rfl, rfl⟩ rfl ?_⟩
    rw [stage?_setStage, if_neg (notJob k)]
    exact stages k id at_
  case others =>
    intro id _
    rfl

/-! ## The whole -/

/-- Whether a job is a check that has fetched its file again. -/
def hasRefetched (c : Catalog) (j : JobId) : Bool :=
  (c.outcome? j).any fun
    | .checked (.ok true) => true
    | _ => false

/-- What is counted are the checks that have fetched again. -/
theorem countFetched_eq {parts : List JobId} {outcomes : List Outcome}
    (ended : parts.mapM x.outcome? = some outcomes) :
    countFetched outcomes = parts.countP x.hasRefetched := by
  induction parts generalizing outcomes with
  | nil =>
      obtain rfl := Option.some.inj ended
      rfl
  | cons j rest ih =>
      rw [List.mapM_cons] at ended
      obtain ⟨outcome, here, ended⟩ := Option.bind_eq_some_iff.mp ended
      obtain ⟨others, later, ended⟩ := Option.bind_eq_some_iff.mp ended
      obtain rfl := Option.some.inj ended
      have rest_eq := ih later
      rw [countFetched] at rest_eq
      rw [countFetched, List.countP_cons, List.countP_cons, hasRefetched, here]
      exact congrArg₂ (· + ·) rest_eq rfl

/-- The job of all checks goes on while one of them does. -/
theorem Together.outcome?_of_goes (h : Together c events x) (lt : k < c.stylesheets.length)
    (goes : x.outcome? (c.checkPart k) = none) : x.outcome? c.jobs.length = none := by
  have open_ : c.checkParts.mapM x.outcome? = none :=
    mapM_outcome?_of_goes (mem_checkParts.mpr ⟨k, lt, rfl⟩) goes
  refine Catalog.outcome?_of_goes h.joined ?_
  rw [gathered, open_]
  intro outcome eq
  cases eq

/-- Once they have all ended, it comes to the number of those that fetched again. -/
theorem Together.outcome?_of_ended (h : Together c events x)
    (ended : ∀ k < c.stylesheets.length, x.outcome? (c.checkPart k) ≠ none) :
    x.outcome? c.jobs.length = some (.count ((List.range c.stylesheets.length).countP fun k =>
      x.hasRefetched (c.checkPart k))) := by
  obtain ⟨outcomes, all, -⟩ : ∃ outcomes, c.checkParts.mapM x.outcome? = some outcomes ∧
      outcomes.length = c.checkParts.length ∧ ∀ outcome ∈ outcomes, True := by
    refine mapM_outcome? ?_
    intro part mem
    obtain ⟨k, lt, rfl⟩ := mem_checkParts.mp mem
    obtain ⟨outcome, came⟩ := Option.ne_none_iff_exists'.mp (ended k lt)
    exact ⟨outcome, came, trivial⟩
  have counted := h.joined
  rw [gathered, all] at counted
  rw [outcome?_of_done counted, countFetched_eq all, checkParts, List.range'_eq_map_range,
    List.countP_map]
  rfl

/-- Stylesheets are checked together as each would be checked alone: whatever the answers are and in
whatever order they come, each check is as far, asks for the same and leaves its entry the same as
the single check does with its own answers. Other entries stay as they are, those of documents above
all. The job of all checks is over with the last of them, and comes to the number of those that
fetched their file again. -/
theorem checks_are_independent {config : Config} {clock : Time} {before : List Event}
    (reached : Run (new config clock) before c) (run : Run (c.start .checkAll).1 events d)
    (of : ∀ event ∈ events, c.isOfChecks event = true) :
    ∃ alone : Nat → Catalog,
      (∀ k id, c.stylesheets[k]? = some id → Run c (c.checkAlone k id events) (alone k) ∧
        d.entries[id]? = (alone k).entries[id]? ∧
        d.stage? (c.checkPart k) = (alone k).stage? c.jobs.length ∧
        d.request? (c.checkPart k) = (alone k).request? c.jobs.length) ∧
      (∀ id e, c.entries[id]? = some e → e.kind = .html ∨ id ∉ c.stylesheets →
        d.entries[id]? = some e) ∧
      ((∃ k < c.stylesheets.length, (alone k).outcome? c.jobs.length = none) →
        d.outcome? c.jobs.length = none) ∧
      ((∀ k < c.stylesheets.length, (alone k).outcome? c.jobs.length ≠ none) →
        d.outcome? c.jobs.length = some (.count ((List.range c.stylesheets.length).countP fun k =>
          (alone k).hasRefetched c.jobs.length))) := by
  obtain ⟨sound, -⟩ := sound_of_run reached
  have together : Together c events d :=
    (Together.begin sound).run sound.nodup_stylesheets run of
  -- each part has an isolated check that it is alike
  have each : ∀ k, ∃ b, ∀ id, c.stylesheets[k]? = some id →
      Run c (c.checkAlone k id events) b ∧ Alike d (c.checkPart k) b c.jobs.length id := by
    intro k
    cases at_ : c.stylesheets[k]? with
    | none => exact ⟨c, nofun⟩
    | some id =>
        obtain ⟨b, run, alike⟩ := together.alike k id at_
        refine ⟨b, ?_⟩
        intro id' eq
        obtain rfl := Option.some.inj eq
        exact ⟨run, alike⟩
  choose alone equally using each
  have outcome_eq : ∀ k < c.stylesheets.length,
      d.outcome? (c.checkPart k) = (alone k).outcome? c.jobs.length := by
    intro k lt
    obtain ⟨-, alike⟩ := equally k _ (List.getElem?_eq_getElem lt)
    obtain ⟨s, -, hs, hs'⟩ := alike.stage
    exact outcome?_congr (hs.trans hs'.symm)
  refine ⟨alone, ?_, ?_, ?_, ?_⟩
  · intro k id at_
    obtain ⟨run, alike⟩ := equally k id at_
    obtain ⟨e, he, he'⟩ := alike.entry
    obtain ⟨s, -, hs, hs'⟩ := alike.stage
    exact ⟨run, he.trans he'.symm, hs.trans hs'.symm, alike.request?_eq⟩
  -- documents and entries that are not checked stay as they are
  · intro id e he isOther
    rw [together.others, he]
    intro mem
    obtain ⟨e', he', css⟩ := sound.isStylesheet mem
    rcases isOther with html | out
    · cases he.symm.trans he'
      cases html.symm.trans css
    · exact out mem
  · rintro ⟨k, lt, goes⟩
    exact together.outcome?_of_goes lt ((outcome_eq k lt).trans goes)
  · intro all_ended
    rw [together.outcome?_of_ended fun k lt => outcome_eq k lt ▸ all_ended k lt]
    refine congrArg (fun n => some (Outcome.count n)) (List.countP_congr ?_)
    intro k mem
    rw [hasRefetched, hasRefetched, outcome_eq k (List.mem_range.mp mem)]

/-- Six stylesheets at the time 20: one has been read, four could not be, and one has been disposed
of. -/
def mixedSheets : List Event :=
  [.call (.create .css ⟨"/a.css"⟩ false), .answer 0 (.stat (.error (.readFailed ⟨"/a.css"⟩ ""))),
    .call (.create .css ⟨"/b.css"⟩ false), .answer 1 (.stat (.error (.readFailed ⟨"/b.css"⟩ ""))),
    .call (.create .css ⟨"/c.css"⟩ false)] ++ fetchAnswers 2 ⟨10, 4⟩ ".c{}" [.style ".c"] ++
  [.call (.create .css ⟨"/d.css"⟩ false), .answer 3 (.stat (.error (.readFailed ⟨"/d.css"⟩ ""))),
    .call (.create .css ⟨"/e.css"⟩ false), .answer 4 (.stat (.error (.readFailed ⟨"/e.css"⟩ ""))),
    .call (.create .css ⟨"/f.css"⟩ false), .answer 5 (.stat (.error (.readFailed ⟨"/f.css"⟩ ""))),
    .disposeEntry 5]

/-- Their checks are answered in turns: one file is gone, the age of one and the text of another
cannot be read, one has not changed and one is fetched again. -/
def mixedAnswers : List Event :=
  [.answer 10 (.stat (.ok ⟨30, 4⟩)), .answer 7 (.stat (.error (.notFound ⟨"/a.css"⟩))),
    .answer 11 (.stat (.ok ⟨30, 4⟩)), .listen 0,
    .answer 8 (.stat (.error (.readFailed ⟨"/b.css"⟩ ""))), .answer 9 (.stat (.ok ⟨10, 4⟩)),
    .answer 11 (.stat (.ok ⟨30, 4⟩)), .answer 10 (.stat (.ok ⟨30, 4⟩)),
    .answer 11 (.text (.error (.readFailed ⟨"/e.css"⟩ ""))), .clock 25,
    .answer 10 (.text (.ok ".d{}")), .answer 10 (.parsed 0 (.ok [.style ".d"])), .answer 10 .built]

theorem mixedSheets_are_independent :
    ∃ c d, Run (new {} 20) mixedSheets c ∧ Run (c.start .checkAll).1 mixedAnswers d ∧
      c.stylesheets = [0, 1, 2, 3, 4, 5] ∧ d.entries.map Entry.isDisposed =
        [true, false, false, false, false, true] ∧ d.outcome? 6 = some (.count 1) ∧
      ∃ alone : Nat → Catalog, ∀ k < 6, Run c (c.checkAlone k k mixedAnswers) (alone k) ∧
        d.entries[k]? = (alone k).entries[k]? := by
  have facts : ((new {} 20).replay? mixedSheets).bind (fun c =>
      ((c.start .checkAll).1.replay? mixedAnswers).map fun d =>
        ((c.stylesheets, c.jobs.length, mixedAnswers.all c.isOfChecks),
          d.entries.map Entry.isDisposed, (d.outcome? 6).any fun
            | .count n => n == 1
            | _ => false)) =
      some (([0, 1, 2, 3, 4, 5], 6, true), [true, false, false, false, false, true], true) := by
    decide +kernel
  obtain ⟨c, hc, found⟩ := Option.bind_eq_some_iff.mp facts
  obtain ⟨d, hd, eq⟩ := Option.map_eq_some_iff.mp found
  simp only [Prod.mk.injEq] at eq
  obtain ⟨⟨sheets, length, of⟩, disposed, counted⟩ := eq
  have before : Run (new {} 20) mixedSheets c := run_iff_replay?.mpr hc
  have run : Run (c.start .checkAll).1 mixedAnswers d := run_iff_replay?.mpr hd
  have one : d.outcome? 6 = some (.count 1) := by
    obtain ⟨outcome, came, isOne⟩ := (Option.any_eq_true _ _).mp counted
    cases outcome with
    | count n => rw [came, beq_iff_eq.mp isOne]
    | _ => cases isOne
  -- each of the six alone, from the same state
  obtain ⟨alone, each, -⟩ := checks_are_independent before run (List.all_eq_true.mp of)
  refine ⟨c, d, before, run, sheets, disposed, one, alone, ?_⟩
  have listed : ∀ k < 6, ([0, 1, 2, 3, 4, 5] : List EntryId)[k]? = some k := by decide
  intro k lt
  have at_ : c.stylesheets[k]? = some k := sheets ▸ listed k lt
  obtain ⟨run, entry, -⟩ := each k k at_
  exact ⟨run, entry⟩

end SelectorCatalog.Catalog
