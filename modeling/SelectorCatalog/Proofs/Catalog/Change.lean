import SelectorCatalog.Proofs.Catalog.Upkeep

/-!
# Following a change of a directory

A change of a directory is followed by a job with a part for each stylesheet that was added. A part
constructs an entry, or waits for another part that constructs it, or finds its path taken. With the
last of them the stylesheets that were removed are removed, so that a path that was both added and
removed is not registered in the end. The proof follows the job as `Reflects` says what becomes of
the catalogue meanwhile.

* `Adding.startPartsFrom`: the parts begin.
* `Adding.joinParts`: what follows from the last of them.
* `Updates.step?`: events bring the job closer to its end.
* `directory_change_is_followed`: what is registered in the end.
-/

namespace SelectorCatalog.Catalog

open Job (Outcome Purpose Plan Stage)

/-- What a part does that adds a stylesheet: it constructs the entry of a new slot, or waits for it,
or it is done. -/
inductive Adds (c x : Catalog) : Stage → Prop where
  | constructs {f : Fetch} {slot : SlotId} : c.slots.length ≤ slot → f.stage.IsSingle →
    Adds c x (.fetching f (.construct slot))
  | awaits {slot : SlotId} (path : Path) : c.slots.length ≤ slot → slot < x.slots.length →
    Adds c x (.awaiting slot path false)
  | done (outcome : Outcome) : Adds c x (.done outcome)

/-- A job has `n` parts that add stylesheets one each, of which those that add `added` have begun.
-/
structure Adding (c : Catalog) (job first : JobId) (n : Nat) (removed added : List Path)
    (x : Catalog) :
    Prop where
  reflects : Reflects c added [] x
  lt : job < first
  joins : x.stage? job = some (.joining (List.range' first n) (.remove removed))
  parent : ∀ k < n, (x.jobs[first + k]?).bind (·.parent) = some job
  only : ∀ {j : JobId}, (x.jobs[j]?).bind (·.parent) = some job → ∃ k < n, j = first + k
  begun : ∀ k < added.length, ∃ s, x.stage? (first + k) = some s ∧ Adds c x s
  rest : ∀ k < n, added.length ≤ k → x.stage? (first + k) = some .starting

/-- How far the job is that follows a change. The number is the most answers that are still to
come. -/
inductive Updates (c : Catalog) (job : JobId) (added removed : List Path) (x : Catalog) :
    Nat → Prop where
  | adding {first : JobId} : Adding c job first added.length removed added x →
    (∃ k < added.length, x.outcome? (first + k) = none) →
    Updates c job added removed x (((List.range' first added.length).map x.owed).sum)
  | updated : Reflects c added removed x → x.stage? job = some (.done .unit) →
    (∀ j : JobId, (x.jobs[j]?).bind (·.parent) = some job →
      ∃ outcome, x.outcome? j = some outcome) →
    Updates c job added removed x 0

/-- How far a change is followed with nothing else under way: some answer is awaited, or a part can
be woken, or the catalogue is up to date. -/
inductive Updating (c : Catalog) (job : JobId) (added removed : List Path) (d : Catalog) :
    Prop where
  | waits (j : JobId) (request : Request) : d.outcome? job = none →
    (d.jobs[j]?).bind (·.parent) = some job → d.request? j = some request →
    Updating c job added removed d
  | wakes (j : JobId) (e : Catalog) : d.outcome? job = none →
    (d.jobs[j]?).bind (·.parent) = some job → d.wake? j = some e →
    Updating c job added removed d
  | updated : d.outcome? job = some .unit → IsUpToDate c added removed d →
    Updating c job added removed d

variable {c d x y : Catalog} {added removed later : List Path} {path : Path}
    {job first part j : JobId}
  {n left : Nat} {slot : SlotId} {s : Stage} {event : Event} {events : List Event}

/-! ## Parts -/

/-- What a part does to add a stylesheet stays so with more slots. -/
theorem Adds.mono (h : Adds c x s) (le : x.slots.length ≤ y.slots.length) : Adds c y s := by
  cases h with
  | constructs new single => exact .constructs new single
  | awaits path new lt => exact .awaits path new (Nat.lt_of_lt_of_le lt le)
  | done outcome => exact .done outcome

/-- One part begins or goes on, and no other. -/
theorem Adding.moved (h : Adding c job first n removed added x) {k : Nat} {more : List Path}
    (reflects : Reflects c more [] y) (crew : y.crew = x.crew)
    (slots : x.slots.length ≤ y.slots.length)
    (stage : ∀ j, first + k ≠ j → y.stage? j = x.stage? j)
    (own : ∃ s, y.stage? (first + k) = some s ∧ Adds c y s)
    (begun : ∀ i < more.length, i = k ∨ i < added.length)
    (rest : ∀ i, more.length ≤ i → k ≠ i ∧ added.length ≤ i) :
    Adding c job first n removed more y := by
  constructor
  case reflects => exact reflects
  case lt => exact h.lt
  case joins =>
    rw [stage job (Nat.ne_of_gt (Nat.lt_add_right k h.lt))]
    exact h.joins
  case parent =>
    intro i lt
    rw [parent_congr crew]
    exact h.parent i lt
  case only =>
    intro j part
    rw [parent_congr crew] at part
    exact h.only part
  -- the part that moved, or one that had begun before
  case begun =>
    intro i lt
    rcases Decidable.eq_or_ne k i with rfl | ne
    · exact own
    · rcases begun i lt with eq | old
      · exact absurd eq.symm ne
      · obtain ⟨s, hs, adds⟩ := h.begun i old
        refine ⟨s, ?_, adds.mono slots⟩
        rw [stage _ fun eq => ne (Nat.add_left_cancel eq)]
        exact hs
  -- what has not begun is not the part that moved
  case rest =>
    intro i lt ge
    obtain ⟨ne, ge⟩ := rest i ge
    rw [stage _ fun eq => ne (Nat.add_left_cancel eq)]
    exact h.rest i lt ge

/-- The next part begins. -/
theorem Adding.next (h : Adding c job first n removed added x)
    (reflects : Reflects c (added ++ [path]) [] y) (crew : y.crew = x.crew)
    (slots : x.slots.length ≤ y.slots.length)
    (stage : ∀ j, first + added.length ≠ j → y.stage? j = x.stage? j)
    (own : ∃ s, y.stage? (first + added.length) = some s ∧ Adds c y s) :
    Adding c job first n removed (added ++ [path]) y := by
  refine h.moved reflects crew slots stage own ?_ ?_
  · intro i lt
    rw [List.length_append, List.length_singleton] at lt
    exact (Nat.lt_succ_iff_lt_or_eq.mp lt).symm
  · intro i ge
    rw [List.length_append, List.length_singleton] at ge
    exact ⟨Nat.ne_of_lt ge, Nat.le_of_lt ge⟩

/-- A part goes on, and the others stay where they are. -/
theorem Adding.goes (h : Adding c job first added.length removed added x) {k : Nat}
    (lt : k < added.length) (reflects : Reflects c added [] y) (crew : y.crew = x.crew)
    (slots : x.slots.length ≤ y.slots.length)
    (stage : ∀ j, first + k ≠ j → y.stage? j = x.stage? j)
    (own : ∃ s, y.stage? (first + k) = some s ∧ Adds c y s) :
    Adding c job first added.length removed added y := by
  refine h.moved reflects crew slots stage own ?_ ?_
  · intro i old
    exact .inr old
  · intro i ge
    exact ⟨Nat.ne_of_lt (Nat.lt_of_lt_of_le lt ge), ge⟩

/-- A part that is done hands over to its job. -/
theorem complete_of_part (parent : (x.jobs[part]?).bind (·.parent) = some job) (outcome : Outcome) :
    x.complete part outcome = (x.setStage part (.done outcome)).joinParts job := by
  have same := parent_congr (crew_setStage x part (.done outcome)) part
  simp only [complete, same, parent]

/-- Parts are joined once. -/
theorem joinParts_joinParts (x : Catalog) (job : JobId) :
    (x.joinParts job).joinParts job = x.joinParts job := by
  obtain eq | ⟨parts, plan, outcome, rs, es, ns, joins, -, eq⟩ := joinParts_spec x job
  · rw [eq, eq]
  · have ended := stage?_setStage_self (t := .done outcome)
      (c := { x with registered := rs, entries := es, notices := ns }) joins
    rw [eq, joinParts, ended]

/-- A job waits as long as one of its parts is under way. -/
theorem Adding.waits (h : Adding c job first n removed added x) {k : Nat} (lt : k < n)
    (goes : x.outcome? (first + k) = none) : x.joinParts job = x := by
  exact joinParts_waiting h.joins (mem_row.mpr ⟨k, lt, rfl⟩) goes

/-! ## The beginning -/

theorem notify_nil (x : Catalog) : x.notify [] = x := by
  rw [notify, List.append_nil]

/-- A part that does not have to construct anything goes on at once: it finds something registered
at its path. -/
theorem Adding.taken (h : Adding c job first n removed added x) (sound : Sound c) (sound' : Sound x)
    (more : added.length < n) {t : Slot} (found : x.find? path = some (slot, t)) (ns : List Notice)
    (adds : Adds c x s) (shares : s.isConstruct = false) :
    Adding c job first n removed (added ++ [path])
        ((x.notify ns).setStage (first + added.length) s) ∧
      Sound ((x.notify ns).setStage (first + added.length) s) := by
  have starts : x.stage? (first + added.length) = some .starting := h.rest _ more (Nat.le_refl _)
  have reflects :
      Reflects c (added ++ [path]) [] ((x.notify ns).setStage (first + added.length) s) :=
    (h.reflects.shared sound found).congr rfl rfl rfl rfl
  constructor
  · refine h.next reflects (crew_setStage _ _ _) (Nat.le_refl _) ?_ ?_
    · intro j ne
      rw [stage?_setStage, if_neg ne]
      rfl
    · exact ⟨s, stage?_setStage_self (c := x.notify ns) starts s, adds.mono (Nat.le_refl _)⟩
  · have moves : Moves (fun _ _ => True) x ((x.notify ns).setStage (first + added.length) s) :=
      (moves_notify x ns).trans (moves_setStage trivial starts (.ofOpen rfl shares))
    exact moves.sound sound'

/-- What the beginning of the next part comes to. -/
theorem Adding.startPart (h : Adding c job first n removed added x) (sound : Sound c)
    (done : c.jobs.all Job.isDone = true) (sound' : Sound x) (more : added.length < n)
    (keeps : ∀ i ∈ c.registered, i ∈ x.registered) (path : Path) :
    ∃ y, Adding c job first n removed (added ++ [path]) y ∧ Sound y ∧
      (∀ i ∈ c.registered, i ∈ y.registered) ∧
      (x.startPart (first + added.length) (.create path false) = y ∨
        x.startPart (first + added.length) (.create path false) = y.joinParts job) := by
  have starts : x.stage? (first + added.length) = some .starting := h.rest _ more (Nat.le_refl _)
  have parent := h.parent _ more
  have creates : x.startPart (first + added.length) (.create path false) =
      x.createAt (first + added.length) .css path false := rfl
  rw [creates]
  -- nothing is found there, so an entry is constructed
  cases found : x.find? path with
  | none =>
      have free : c.find? path = none := by
        cases before : c.find? path with
        | none => rfl
        | some at_ =>
            obtain ⟨mem, hs, same⟩ := find?_some before
            cases found.symm.trans (sound'.find? (keeps _ mem) (h.reflects.slot hs) same)
      have opens := createAt_of_none found (first + added.length) .css false
      have crew_eq := crew_createAt x (first + added.length) .css path false
      rw [opens] at crew_eq ⊢
      refine ⟨_, ?_, sound'.opened .css starts rfl found, ?_, .inl rfl⟩
      · refine h.next (h.reflects.opened sound' free _) crew_eq ?_ ?_ ?_
        · simp [opened]
        · intro j ne
          rw [stage?_opened, if_neg ne]
        · refine ⟨.fetching ⟨x.entries.length, 1, x.clock, .stat⟩ (.construct x.slots.length), ?_,
            .constructs h.reflects.slots_le trivial⟩
          rw [stage?_opened, if_pos rfl, starts, Option.map_some]
      · intro i mem
        exact List.mem_append_left _ (keeps i mem)
  -- a slot is found there, to be shared unless it is of the other kind
  | some at_ =>
      obtain ⟨slot, t⟩ := at_
      obtain ⟨mem, ht, same⟩ := find?_some found
      rw [createAt_of_some found]
      split
      · cases filled : t.entry with
        | none =>
            have new : c.slots.length ≤ slot := by
              by_contra old
              have hs : c.slots[slot]? = some c.slots[slot] :=
                List.getElem?_eq_getElem (Nat.lt_of_not_le old)
              -- the slots that were there before are all filled
              obtain ⟨id, filled'⟩ := sound.entry_of_done done hs
              obtain rfl := Option.some.inj ((h.reflects.slot hs).symm.trans ht)
              cases filled.symm.trans filled'
            have lt := (List.getElem?_eq_some_iff.mp ht).1
            obtain ⟨adding, sound''⟩ := h.taken sound sound' more found [] (.awaits path new lt) rfl
            rw [notify_nil] at adding sound''
            exact ⟨_, adding, sound'', keeps, .inl rfl⟩
        | some entry =>
            have here : x.isRegistered slot = true := List.contains_iff_mem.mpr mem
            obtain ⟨adding, sound''⟩ :=
              h.taken sound sound' more found [] (.done (.entry (some entry)))
              rfl
            rw [notify_nil] at adding sound''
            refine ⟨_, adding, sound'', keeps, .inr ?_⟩
            simp only [share, here, Bool.not_true, Bool.false_eq_true, if_false]
            exact complete_of_part parent _
      · obtain ⟨adding, sound''⟩ := h.taken sound sound' more found
          [.otherKind .css (.kindMismatch path t.kind)] (.done (.entry none)) rfl
        exact ⟨_, adding, sound'', keeps, .inr (complete_of_part (x := x.notify _) parent _)⟩

/-- All parts begin, one after the other. Only the last can be the one that the job waits for. -/
theorem Adding.startPartsFrom (h : Adding c job first n removed added x) (sound : Sound c)
    (done : c.jobs.all Job.isDone = true) (sound' : Sound x)
    (keeps : ∀ i ∈ c.registered, i ∈ x.registered) (all : n = added.length + later.length) :
    ∃ y, Adding c job first n removed (added ++ later) y ∧ Sound y ∧
      (x.startPartsFrom (first + added.length)
        (later.map fun path => .create path false)).joinParts job = y.joinParts job := by
  induction later generalizing added x with
  | nil =>
      rw [List.append_nil]
      exact ⟨x, h, sound', rfl⟩
  | cons path rest ih =>
      have more : added.length < n := by
        rw [all, List.length_cons]
        omega
      obtain ⟨y, adding, sound'', keeps', begins⟩ := h.startPart sound done sound' more keeps path
      rw [List.map_cons, Catalog.startPartsFrom]
      -- after the last part the job joins them all, and joining once more changes nothing
      cases rest with
      | nil =>
          refine ⟨y, adding, sound'', ?_⟩
          rw [List.map_nil, Catalog.startPartsFrom]
          rcases begins with begins | begins
          · rw [begins]
          · rw [begins, joinParts_joinParts]
      | cons next rest =>
          have next_lt : added.length + 1 < n := by
            rw [all, List.length_cons, List.length_cons]
            omega
          have length : (added ++ [path]).length = added.length + 1 := by
            rw [List.length_append, List.length_singleton]
          -- the next part has not begun
          have waits : y.joinParts job = y := by
            have starts := adding.rest _ next_lt (Nat.le_of_eq length)
            exact adding.waits next_lt (outcome?_of_goes starts (by simp))
          have started : x.startPart (first + added.length) (.create path false) = y := by
            rcases begins with begins | begins
            · exact begins
            · rw [begins, waits]
          obtain ⟨z, adding', sound', eq⟩ := ih adding sound'' keeps' (by
            rw [all, length, List.length_cons (a := path)]
            omega)
          rw [List.append_cons, started]
          rw [length] at eq
          exact ⟨z, adding', sound', eq⟩

/-! ## The end -/

/-- With the last part the removals follow. -/
theorem Adding.joinParts (h : Adding c job first added.length removed added x) (sound : Sound x) :
    ∃ left ≤ ((List.range' first added.length).map x.owed).sum,
      Updates c job added removed (x.joinParts job) left := by
  -- either a part still goes on, and nothing happens, or all have ended
  by_cases goes : ∃ k < added.length, x.outcome? (first + k) = none
  · obtain ⟨k, lt, none⟩ := goes
    rw [h.waits lt none]
    exact ⟨_, Nat.le_refl _, .adding h ⟨k, lt, none⟩⟩
  · have ended : ∀ k < added.length, ∃ outcome, x.outcome? (first + k) = some outcome := by
      intro k lt
      cases came : x.outcome? (first + k) with
      | none => exact absurd ⟨k, lt, came⟩ goes
      | some outcome => exact ⟨outcome, rfl⟩
    have done : ∀ part ∈ List.range' first added.length,
        ∃ outcome, x.outcome? part = some outcome ∧ True := by
      intro part mem
      obtain ⟨k, lt, rfl⟩ := mem_row.mp mem
      obtain ⟨outcome, came⟩ := ended k lt
      exact ⟨outcome, came, trivial⟩
    obtain ⟨outcomes, eq, -⟩ := mapM_outcome? done
    have joined : x.joinParts job = (x.removeGone removed).setStage job (.done .unit) := by
      rw [Catalog.joinParts, h.joins]
      simp only [eq, follow]
    -- with all parts over, what is left is to remove the other list
    obtain ⟨rs, es, ns, gone, -⟩ := removeGone_spec x removed
    have stage_eq : ∀ j, (x.removeGone removed).stage? j = x.stage? j := by
      intro j
      rw [gone]
      rfl
    refine ⟨0, Nat.zero_le _, .updated ?_ ?_ ?_⟩
    · rw [joined]
      have reflects := h.reflects.removeGone sound removed
      rw [List.nil_append] at reflects
      exact reflects.congr rfl rfl rfl rfl
    · rw [joined]
      exact stage?_setStage_self ((stage_eq job).trans h.joins) _
    · intro j part
      rw [parent_congr (crew_joinParts x job)] at part
      obtain ⟨k, lt, rfl⟩ := h.only part
      obtain ⟨outcome, was⟩ := ended k lt
      refine ⟨outcome, outcome?_of_done ?_⟩
      rw [joined, stage?_setStage, if_neg (Nat.ne_of_lt (Nat.lt_add_right k h.lt)), stage_eq]
      exact stage?_of_outcome? was

/-! ## Events -/

/-- Parts that add stylesheets go on in a catalogue that has not moved. -/
theorem Adding.unmoved (h : Adding c job first n removed added x) (u : Unmoved x y) :
    Adding c job first n removed added y := by
  have stage : ∀ {j s}, x.stage? j = some s → y.stage? j = some s := u.stage?
  constructor
  case reflects => exact h.reflects.unmoved u
  case lt => exact h.lt
  case joins => exact stage h.joins
  case parent =>
    intro k lt
    have part := h.parent k lt
    obtain ⟨t, ht, -⟩ := Option.bind_eq_some_iff.mp part
    rw [u.jobs _ (List.getElem?_eq_some_iff.mp ht).1]
    exact part
  -- a job that came meanwhile has ended, so it is no part of this one
  case only =>
    intro j part
    rcases Nat.lt_or_ge j x.jobs.length with lt | ge
    · exact h.only (u.jobs j lt ▸ part)
    · obtain ⟨t, ht, part⟩ := Option.bind_eq_some_iff.mp part
      cases part.symm.trans (u.ended ht ge).1
  case begun =>
    intro k lt
    obtain ⟨s, hs, adds⟩ := h.begun k lt
    exact ⟨s, stage hs, adds.mono (Nat.le_of_eq (congrArg List.length u.slots.symm))⟩
  case rest =>
    intro k lt ge
    exact stage (h.rest k lt ge)

/-- A part that constructs an entry constructs that of a registered slot, like the parts of a
project. -/
theorem Adding.caches (h : Adding c job first n removed added x) (sound : Sound x) {k : Nat}
    (lt : k < n) {f : Fetch} (hs : x.stage? (first + k) = some (.fetching f (.construct slot)))
    (new : c.slots.length ≤ slot) (single : f.stage.IsSingle) :
    ∃ t, x.slots[slot]? = some t ∧ slot ∈ x.registered ∧ x.Caches job (first + k) t.key slot := by
  have site : x.site? (first + k) = some ⟨slot, f.entry, f.generation⟩ := by
    rw [site?, hs]
    rfl
  obtain ⟨⟨t, ht, -⟩, own, -⟩ := sound.built.place site
  obtain ⟨-, -, css, id, e, own', -, he, registered⟩ := h.reflects.fresh new ht
  obtain rfl : f.entry = id := Option.some.inj (own.symm.trans own')
  obtain ⟨mem, live⟩ := registered (isApartFrom_nil _)
  exact ⟨t, ht, mem,
    ⟨h.parent k lt, t, f.entry, e, ht, rfl, css, own, he, live, .inl ⟨f, hs, rfl, single⟩⟩⟩

/-- An answer to a part brings the job closer to its end. -/
theorem Adding.answer (h : Adding c job first added.length removed added x) (sound : Sound x)
    {k : Nat}
    (lt : k < added.length) {a : Answer} (expected : x.expects (first + k) a = true) :
    ∃ left < ((List.range' first added.length).map x.owed).sum,
      Updates c job added removed (x.resume (first + k) a) left := by
  obtain ⟨s, hs, adds⟩ := h.begun k lt
  cases adds with
  -- only a part under construction expects an answer
  | awaits | done => simp [expects, hs] at expected
  | @constructs f slot new single =>
      obtain ⟨t, ht, mem, caches⟩ := h.caches sound lt hs new single
      obtain ⟨d, id, sound', own, moved, here, less, goes⟩ :=
        caches.resume sound (List.contains_iff_mem.mpr mem) expected
      obtain ⟨t', _, _, ht', -, -, -, -, -, way⟩ := here.made
      have adding : Adding c job first added.length removed added d := by
        refine h.goes lt (h.reflects.touched moved new ht own here) moved.crew
          (length_le_of_getElem? ht' moved.slots) moved.stage ?_
        rcases way with ⟨f', hf', -, single'⟩ | ⟨ended, -⟩
        · exact ⟨_, hf', .constructs new single'⟩
        · exact ⟨_, ended, .done _⟩
      have mem : first + k ∈ List.range' first added.length := mem_row.mpr ⟨k, lt, rfl⟩
      -- the parts are joined again unless this one goes on
      have next : x.resume (first + k) a = d.joinParts job := by
        rcases goes with ⟨eq, none⟩ | eq
        · rw [eq, adding.waits lt none]
        · exact eq
      obtain ⟨left, le, updates⟩ := adding.joinParts sound'
      rw [next]
      exact ⟨left, Nat.lt_of_le_of_lt le (moved.sum_owed_lt less mem), updates⟩

/-- A part that is woken is done. -/
theorem Adding.wake (h : Adding c job first added.length removed added x) (sound : Sound x)
    {k : Nat}
    (lt : k < added.length) (step : x.wake? (first + k) = some y) :
    ∃ left ≤ ((List.range' first added.length).map x.owed).sum,
      Updates c job added removed y left := by
  obtain ⟨s, hs, adds⟩ := h.begun k lt
  cases adds with
  | constructs | done => simp [wake?, hs] at step
  | @awaits slot path new there =>
      simp only [wake?, hs] at step
      obtain ⟨entry, held, rfl⟩ := Option.map_eq_some_iff.mp step
      -- the entry is shared if its slot is still registered, and a miss otherwise
      obtain ⟨found, leads, shares⟩ : ∃ found : Option EntryId,
          Job.Leads x.slots (.awaiting slot path false) (.done (.entry found)) ∧
          x.share (first + k) slot entry path false = x.complete (first + k) (.entry found) := by
        cases here : x.isRegistered slot with
        | true => exact ⟨some entry, .share held, by simp [share, here]⟩
        | false => exact ⟨none, .miss, by simp [share, here]⟩
      let d := x.setStage (first + k) (.done (.entry found))
      have sound' : Sound d := by
        have moves : Moves (fun _ _ => True) x d := moves_setStage trivial hs leads
        exact moves.sound sound
      have adding : Adding c job first added.length removed added d := by
        refine h.goes lt (h.reflects.congr rfl rfl rfl rfl) (crew_setStage _ _ _)
          (Nat.le_refl _) ?_ ⟨_, stage?_setStage_self hs _, .done _⟩
        intro j ne
        rw [stage?_setStage, if_neg ne]
      -- no answer was due to a part that waits for another
      have same : ∀ j, d.owed j = x.owed j := by
        intro j
        rcases Decidable.eq_or_ne (first + k) j with rfl | ne
        · rw [owed, owed, hs, stage?_setStage_self hs]
        · rw [owed, owed, stage?_setStage, if_neg ne]
      obtain ⟨left, le, updates⟩ := adding.joinParts sound'
      rw [shares, complete_of_part (h.parent k lt)]
      rw [List.map_congr_left fun j _ => same j] at le
      exact ⟨left, le, updates⟩

/-- A change stays as far as it is in a catalogue that has not moved. -/
theorem Updates.unmoved (h : Updates c job added removed x left) (u : Unmoved x y) :
    Updates c job added removed y left := by
  have outcome_eq : ∀ j < x.jobs.length, y.outcome? j = x.outcome? j := by
    intro j lt
    rw [Catalog.outcome?, Catalog.outcome?, u.jobs j lt]
  cases h with
  | @adding first adding goes =>
      have there : ∀ k < added.length, first + k < x.jobs.length := by
        intro k lt
        obtain ⟨s, hs, -⟩ := adding.begun k lt
        exact stage?_lt hs
      obtain ⟨k, lt, none⟩ := goes
      rw [← u.map_owed there]
      exact .adding (adding.unmoved u) ⟨k, lt, (outcome_eq _ (there k lt)).trans none⟩
  | updated reflects ended parts =>
      refine .updated (reflects.unmoved u) (u.stage? ended) ?_
      intro j part
      rcases Nat.lt_or_ge j x.jobs.length with lt | ge
      · rw [outcome_eq j lt]
        exact parts j (u.jobs j lt ▸ part)
      · obtain ⟨t, ht, part⟩ := Option.bind_eq_some_iff.mp part
        cases part.symm.trans (u.ended ht ge).1

/-- Who is under way while a change is followed is a part of it that has begun. -/
theorem Updates.exists_part (h : Updates c job added removed x left) (alone : x.isAlone job = true)
    (hs : x.stage? j = some s) (goes : ∀ outcome, s ≠ .done outcome)
    (isPart : ∀ parts plan, s ≠ .joining parts plan) :
    ∃ first k, j = first + k ∧ k < added.length ∧ Adding c job first added.length removed added x ∧
      left = ((List.range' first added.length).map x.owed).sum := by
  have who := own_of_isAlone alone hs goes
  cases h with
  | @adding first adding =>
      rcases who with rfl | part
      · exact absurd (Option.some.inj (hs.symm.trans adding.joins)) (isPart _ _)
      · obtain ⟨k, lt, rfl⟩ := adding.only part
        exact ⟨first, k, rfl, lt, adding, rfl⟩
  | updated _ ended parts =>
      rcases who with rfl | part
      · exact absurd (Option.some.inj (hs.symm.trans ended)) (goes _)
      · obtain ⟨outcome, came⟩ := parts j part
        exact absurd (Option.some.inj (hs.symm.trans (stage?_of_outcome? came))) (goes _)

/-- No job scans. -/
theorem Updates.scans (h : Updates c job added removed x left) (alone : x.isAlone job = true)
    (scanning : x.IsScanning j) : j = job := by
  obtain ⟨root, pending, found, hs⟩ := scanning
  obtain ⟨first, k, rfl, lt, adding, -⟩ := h.exists_part alone hs (by simp) (by simp)
  obtain ⟨s, hs', adds⟩ := adding.begun k lt
  cases hs.symm.trans hs'
  cases adds

/-- While a change is followed only stylesheets are fetched. -/
theorem Updates.sheets (h : Updates c job added removed x left) (alone : x.isAlone job = true)
    (sound : Sound x) : x.FetchesSheets := by
  intro j f e fetches he
  obtain ⟨s, hs, at_⟩ := Option.bind_eq_some_iff.mp fetches
  have goes : ∀ outcome, s ≠ .done outcome := by
    rintro outcome rfl
    cases at_
  have isPart : ∀ parts plan, s ≠ .joining parts plan := by
    rintro parts plan rfl
    cases at_
  obtain ⟨first, k, rfl, lt, adding, -⟩ := h.exists_part alone hs goes isPart
  obtain ⟨s', hs', adds⟩ := adding.begun k lt
  obtain rfl := Option.some.inj (hs.symm.trans hs')
  cases adds with
  | constructs new single =>
      obtain rfl := Option.some.inj at_
      obtain ⟨t, -, -, caches⟩ := adding.caches sound lt hs new single
      exact caches.kind sound hs he
  | awaits | done => cases at_

/-- What passes of itself brings the job closer to its end or leaves it where it is. -/
theorem Updates.step? (h : Updates c job added removed x left) (sound : Sound x)
    (alone : x.Alone job) (step : x.step? event = some y) (passive : event.isPassive = true) :
    ∃ left', left' + (if event.isAnswer then 1 else 0) ≤ left ∧
      Updates c job added removed y left' := by
  cases event with
  | answer j a =>
      simp only [Catalog.step?] at step
      split at step
      · next expected =>
          cases step
          -- an answer goes to the job or to a part of it, as it is alone
          obtain ⟨s, hs, goes⟩ := stage?_of_expects expected
          have isPart : ∀ parts plan, s ≠ .joining parts plan := by
            rintro parts plan rfl
            simp [expects, hs] at expected
          obtain ⟨first, k, rfl, lt, adding, rfl⟩ := h.exists_part alone.jobs hs goes isPart
          obtain ⟨left', less, updates⟩ := adding.answer sound lt expected
          exact ⟨left', less, updates⟩
      · cases step
  | wake j =>
      have waits : ∃ slot path byPath, x.stage? j = some (.awaiting slot path byPath) := by
        simp only [Catalog.step?, wake?] at step
        split at step
        · next slot path byPath hs => exact ⟨slot, path, byPath, hs⟩
        · cases step
      obtain ⟨slot, path, byPath, hs⟩ := waits
      obtain ⟨first, k, rfl, lt, adding, rfl⟩ := h.exists_part alone.jobs hs (by simp) (by simp)
      exact adding.wake sound lt step
  | listen n =>
      -- a listener has no links left, so the parts are where they were
      exact ⟨left, Nat.le_refl _, h.unmoved (unmoved_listen? sound alone.unheard step)⟩
  | pass ms =>
      cases step
      exact ⟨left, Nat.le_refl _, h.unmoved { Unmoved.refl x with }⟩
  | clock time =>
      simp only [Catalog.step?] at step
      split at step
      · cases step
        exact ⟨left, Nat.le_refl _, h.unmoved { Unmoved.refl x with }⟩
      · cases step
  | _ => cases passive

/-- With nothing else under way, the job comes closer to its end with each answer, and nothing else
gets under way. -/
theorem Updates.run (h : Updates c job added removed x left) (run : Run x events d)
    (sound : Sound x)
    (supervised : Supervised x) (alone : x.Alone job)
    (passive : ∀ event ∈ events, event.isPassive = true) :
    d.Alone job ∧ ∃ left', left' + events.countP Event.isAnswer ≤ left ∧
      Updates c job added removed d left' := by
  induction run generalizing left with
  | nil => exact ⟨alone, left, Nat.le_refl _, h⟩
  | @cons x y d event events step run ih =>
      obtain ⟨passes, passive⟩ := List.forall_mem_cons.mp passive
      obtain ⟨left₁, le₁, updates⟩ := h.step? sound alone step passes
      have still : y.Alone job :=
        alone.step? sound (h.sheets alone.jobs sound) (h.scans alone.jobs) step passes
      obtain ⟨last, left₂, le₂, updates⟩ := ih updates (supervised.sound_step? sound step)
        (supervised.step? sound step) still passive
      refine ⟨last, left₂, ?_, updates⟩
      rw [List.countP_cons]
      omega

/-! ## The whole -/

/-- A part that constructs its entry awaits an answer. -/
theorem Adding.awaited (h : Adding c job first added.length removed added d) {k : Nat}
    (lt : k < added.length) {f : Fetch} {slot : SlotId}
    (hs : d.stage? (first + k) = some (.fetching f (.construct slot))) :
    Updating c job added removed d := by
  have open_ : d.outcome? job = none := outcome?_of_goes h.joins (by simp)
  obtain ⟨s, hs', adds⟩ := h.begun k lt
  obtain rfl := Option.some.inj (hs.symm.trans hs')
  cases adds with
  | constructs new single =>
      obtain ⟨request, asks⟩ :=
        Option.isSome_iff_exists.mp (Fetch.request?_isSome single (d.pathOf f.entry))
      refine .waits (first + k) request open_ (h.parent k lt) ?_
      rw [Catalog.request?, hs]
      exact asks

/-- A part that waits for the entry of a slot can be woken, or another part constructs the entry and
awaits an answer. -/
theorem Adding.awaited_or_woken (h : Adding c job first added.length removed added d)
    (sound : Sound d) (alone : d.isAlone job = true) {k : Nat} (lt : k < added.length)
    {slot : SlotId} {path : Path}
    (hs : d.stage? (first + k) = some (.awaiting slot path false)) (there : slot < d.slots.length) :
    Updating c job added removed d := by
  have ht : d.slots[slot]? = some d.slots[slot] := List.getElem?_eq_getElem there
  cases filled : d.slots[slot].entry with
  | some entry =>
      refine .wakes (first + k) (d.share (first + k) slot entry path false)
        (outcome?_of_goes h.joins (by simp)) (h.parent k lt) ?_
      simp only [wake?, hs, ht, Option.bind_some, filled, Option.map_some]
  | none =>
      obtain ⟨j, site, at_, rfl⟩ := sound.built.vacant ht filled
      obtain ⟨stage, hj, constructs⟩ := Option.bind_eq_some_iff.mp at_
      cases stage with
      | fetching f purpose =>
          cases purpose with
          | construct slot =>
              rcases own_of_isAlone alone hj (by simp) with rfl | part
              · cases hj.symm.trans h.joins
              · obtain ⟨i, lt, rfl⟩ := h.only part
                exact h.awaited lt hj
          | _ => cases constructs
      | _ => cases constructs

/-- When a job that is alone is over with all its parts, nothing is under way. -/
theorem isDone_of_isAlone (alone : d.isAlone job = true) {outcome : Outcome}
    (ended : d.stage? job = some (.done outcome))
    (parts : ∀ j : JobId, (d.jobs[j]?).bind (·.parent) = some job →
      ∃ outcome, d.outcome? j = some outcome) : d.jobs.all Job.isDone = true := by
  refine List.all_eq_true.mpr fun t mem => ?_
  obtain ⟨j, ht⟩ := List.getElem?_of_mem mem
  have isDone : ∀ outcome, d.outcome? j = some outcome → t.isDone = true := by
    intro outcome came
    rw [Catalog.outcome?, ht, Option.bind_some] at came
    rw [Job.isDone, came]
    rfl
  rcases isAlone_iff.mp alone j t ht with ended' | rfl | part
  · exact ended'
  · exact isDone _ (outcome?_of_done ended)
  · obtain ⟨outcome, came⟩ := parts j (by rw [ht]; exact part)
    exact isDone outcome came

/-- As long as a change is followed some answer is awaited, or a part can be woken: the entry that
it waits for is constructed, or the part that constructs it awaits an answer. -/
theorem Updates.updating (h : Updates c job added removed d left) (sound : Sound c)
    (done : c.jobs.all Job.isDone = true) (sound' : Sound d) (alone : d.isAlone job = true) :
    Updating c job added removed d := by
  cases h with
  | @adding first adding goes =>
      obtain ⟨k, lt, none⟩ := goes
      obtain ⟨s, hs, adds⟩ := adding.begun k lt
      cases adds with
      | constructs => exact adding.awaited lt hs
      | awaits path new there => exact adding.awaited_or_woken sound' alone lt hs there
      | done outcome => cases none.symm.trans (outcome?_of_done hs)
  | updated reflects ended parts =>
      exact .updated (outcome?_of_done ended)
        (reflects.isUpToDate sound done sound' (isDone_of_isAlone alone ended parts))

/-- A job has its parts before it and has begun none of them. -/
theorem adding_enlisted (reflects : Reflects c [] [] x) (hs : x.stage? job = some s)
    (childless : ∀ j : JobId, (x.jobs[j]?).bind (·.parent) ≠ some job) (added removed : List Path) :
    Adding c job x.jobs.length added.length removed []
      (x.enlisted job (added.map fun path => .create path false) (.remove removed)) := by
  let parts : List Part := added.map fun path => .create path false
  have length : parts.length = added.length := List.length_map _
  have crew_eq : (x.enlisted job parts (.remove removed)).crew =
      (x.startParts job parts (.remove removed)).crew := by
    rw [startParts_eq, crew_joinParts, crew_startPartsFrom]
  constructor
  case reflects => exact reflects.congr rfl rfl rfl rfl
  case lt => exact stage?_lt hs
  case joins =>
    rw [← length]
    exact stage?_setStage_self (stage?_append _ hs) _
  case parent =>
    intro k lt
    rw [parent_congr crew_eq]
    exact parent_startParts (length ▸ lt)
  case only =>
    intro j part
    rw [parent_congr crew_eq] at part
    obtain ⟨k, lt, rfl⟩ := exists_part_of_parent childless part
    exact ⟨k, length ▸ lt, rfl⟩
  case begun =>
    intro k lt
    cases lt
  case rest =>
    intro k lt _
    exact stage?_enlisted hs (length ▸ lt)

/-- A part is owed four answers at most: the stat, the text, the rules and the index. -/
theorem owed_le (x : Catalog) (j : JobId) : x.owed j ≤ 4 := by
  rw [owed]
  split
  · next f _ _ => cases f.stage <;> simp [Fetch.Stage.owed]
  · exact Nat.zero_le 4

/-- So parts are owed four answers each at most. -/
theorem sum_owed_le (x : Catalog) (parts : List JobId) :
    (parts.map x.owed).sum ≤ 4 * parts.length := by
  induction parts with
  | nil => exact Nat.le_refl 0
  | cons j rest ih =>
      have first := owed_le x j
      rw [List.map_cons, List.sum_cons, List.length_cons]
      omega

/-- A change of a directory is followed by a new job, which is about its stylesheets. -/
theorem updates_start (sound : Sound c) (supervised : Supervised c)
    (done : c.jobs.all Job.isDone = true) (change : Change)
    (directory : change.isDirectory = true) :
    ∃ left ≤ 4 * (stylesheetsAmong c.config change.added).length,
      Updates c c.jobs.length (stylesheetsAmong c.config change.added)
        (stylesheetsAmong c.config change.removed) (c.start (.change change)).1 left := by
  let added := stylesheetsAmong c.config change.added
  let removed := stylesheetsAmong c.config change.removed
  let fresh : Job := { stage := .starting }
  let x := (c.addJob fresh).1.notify (added.map .stylesheetAdded)
  let parts : List Part := added.map fun path => .create path false
  have started : (c.start (.change change)).1 =
      x.startParts c.jobs.length parts (.remove removed) := by
    show (c.addJob fresh).1.startChange c.jobs.length change = _
    simp only [startChange, directory, Bool.not_true, Bool.false_eq_true, if_false]
    rfl
  have hs : x.stage? c.jobs.length = some .starting := stage?_addJob c true
  -- the job is the newest, so it has no parts yet
  have childless : ∀ j : JobId, (x.jobs[j]?).bind (·.parent) ≠ some c.jobs.length := by
    intro j part
    obtain ⟨t, ht, part⟩ := Option.bind_eq_some_iff.mp part
    rcases getElem?_concat ht with ht | ⟨-, rfl⟩
    · exact Nat.lt_irrefl _ (supervised.known ht part)
    · cases part
  have reflects : Reflects c [] [] x := (Reflects.refl c).congr rfl rfl rfl rfl
  have begins := adding_enlisted reflects hs childless added removed
  have sound' : Sound (x.enlisted c.jobs.length parts (.remove removed)) := by
    have moves : Moves (fun _ _ => True) c (x.enlisted c.jobs.length parts (.remove removed)) :=
      ((moves_addJob c true).trans (moves_notify _ _)).trans (moves_enlisted trivial hs rfl)
    exact moves.sound sound
  obtain ⟨y, adding, sound', eq⟩ :=
    begins.startPartsFrom sound done sound' (fun _ mem => mem) (Nat.zero_add added.length).symm
  obtain ⟨left, le, updates⟩ := adding.joinParts sound'
  have joined : x.startParts c.jobs.length parts (.remove removed) = y.joinParts c.jobs.length := eq
  rw [started, joined]
  refine ⟨left, Nat.le_trans le ?_, updates⟩
  -- each part owes at most four answers
  have bound := sum_owed_le y (List.range' x.jobs.length added.length)
  rwa [List.length_range'] at bound

/-- A change of a directory is reported when no job is under way and no links are left for the
listeners, with lists of any length, and no more calls are made. So the change is followed by a new
job alone, with at most four answers to each stylesheet that was added. As long as it is not done
some answer is awaited, or a part can be woken; so it does not get stuck.

When it is done, the catalogue is up to date (`IsUpToDate`): nothing is registered any more at a
path that was removed, also if it was added as well. A stylesheet that was added and not removed is
registered, whether or not it could be read: with the entry that its path had already, of whatever
kind, else with a new one. Everything else is as it was, with the same entries and nothing changed
in them. An entry that was disposed of already when the change was reported may have left the
registry meanwhile, as its listener came to hear of it. -/
theorem directory_change_is_followed {config : Config} {clock : Time} {early : List Event}
    {change : Change} (before : Run (new config clock) early c)
    (done : c.jobs.all Job.isDone = true) (directory : change.isDirectory = true)
    (heard : c.LinksHeard) (run : Run (c.start (.change change)).1 events d)
    (passive : ∀ event ∈ events, event.isPassive = true) :
    events.countP Event.isAnswer ≤ 4 * (stylesheetsAmong config change.added).length ∧
      Updating c c.jobs.length (stylesheetsAmong config change.added)
        (stylesheetsAmong config change.removed) d := by
  obtain ⟨sound, supervised⟩ := sound_of_run before
  have same : c.config = config := config_of_run before
  have call : Run c [.call (.change change)] (c.start (.change change)).1 := .cons rfl (.nil _)
  obtain ⟨sound', supervised'⟩ := sound_along call sound supervised
  obtain ⟨left, le, updates⟩ := updates_start sound supervised done change directory
  obtain ⟨alone, left', le', updates⟩ :=
    updates.run run sound' supervised' (alone_start done heard _) passive
  rw [← same]
  refine ⟨by omega, ?_⟩
  exact updates.updating sound done (sound_along run sound' supervised').1 alone.jobs

/-- A file directly below the root directory. -/
def rootFile (name : String) : DirEntry :=
  ⟨⟨"/" ++ name⟩, name, true, false⟩

/-- A document that is named like a stylesheet, and two stylesheets. -/
def stocked : List Event :=
  [.call (.create .html ⟨"/odd.css"⟩ false), .answer 0 (.stat (.ok ⟨0, 0⟩)),
    .answer 0 (.text (.ok "")), .answer 0 .built] ++
  .call (.create .css ⟨"/kept.css"⟩ false) :: emptyFile 1 ++
  .call (.create .css ⟨"/old.css"⟩ false) :: emptyFile 2

/-- Files are added, one of them twice and one where the document is registered; others are removed,
one of which was added. -/
def restocking : Change where
  isDirectory := true
  added := [rootFile "new.css", rootFile "./new.css", rootFile "odd.css", rootFile "both.css"]
  removed := [rootFile "old.css", rootFile "both.css"]

/-- One of the new files is gone before it is read. -/
def restocked : List Event :=
  [.answer 4 (.stat (.error (.notFound ⟨"/new.css"⟩))), .listen 0] ++ emptyFile 7 ++ [.wake 5]

theorem restocking_is_followed :
    ∃ c d, Run (new {} 0) stocked c ∧ c.jobs.all Job.isDone = true ∧
      Run (c.start (.change restocking)).1 restocked d ∧ restocked.countP Event.isAnswer ≤ 16 ∧
      IsUpToDate c [⟨"/new.css"⟩, ⟨"/./new.css"⟩, ⟨"/odd.css"⟩, ⟨"/both.css"⟩]
        [⟨"/old.css"⟩, ⟨"/both.css"⟩] d := by
  have added : stylesheetsAmong {} restocking.added =
      [⟨"/new.css"⟩, ⟨"/./new.css"⟩, ⟨"/odd.css"⟩, ⟨"/both.css"⟩] := by decide +kernel
  have removed : stylesheetsAmong {} restocking.removed = [⟨"/old.css"⟩, ⟨"/both.css"⟩] := by
    decide +kernel
  have facts : ((new {} 0).replay? stocked).bind (fun c =>
      ((c.start (.change restocking)).1.replay? restocked).map fun d =>
        (c.jobs.length, c.jobs.all Job.isDone, (d.outcome? 3).isSome, decide c.LinksHeard)) =
      some (3, true, true, true) := by
    decide +kernel
  obtain ⟨c, hc, facts⟩ := Option.bind_eq_some_iff.mp facts
  obtain ⟨d, hd, facts⟩ := Option.map_eq_some_iff.mp facts
  simp only [Prod.mk.injEq] at facts
  obtain ⟨job, done, outcome, heard⟩ := facts
  have before := run_iff_replay?.mpr hc
  have run := run_iff_replay?.mpr hd
  obtain ⟨bound, updating⟩ := directory_change_is_followed before done rfl
    (of_decide_eq_true heard) run (by decide)
  rw [added, removed, job] at updating
  rw [added] at bound
  refine ⟨c, d, before, done, run, bound, ?_⟩
  cases updating with
  | waits _ _ goes | wakes _ _ goes =>
      rw [goes] at outcome
      cases outcome
  | updated _ upToDate => exact upToDate

/-- A stylesheet that was added is not registered when the change has been followed, with nothing
else under way and no links left for the listeners. -/
def DropsAdded (early : List Event) (change : Change) (events : List Event) (path : Path) : Prop :=
  ∃ c d, Run (new {} 0) early c ∧ c.jobs.all Job.isDone = true ∧ c.LinksHeard ∧
    change.isDirectory = true ∧ Run (c.start (.change change)).1 events d ∧
    (∀ event ∈ events, event.isPassive = true) ∧ (d.outcome? c.jobs.length).isSome = true ∧
    path ∈ stylesheetsAmong c.config change.added ∧ d.find? path = none

/-- An entry that the change does not name shows something else when the change has been followed,
although no call was under way. -/
def AltersOther (early : List Event) (change : Change) (events : List Event) (path : Path) : Prop :=
  ∃ c d slot s id e e', Run (new {} 0) early c ∧ c.jobs.all Job.isDone = true ∧
    change.isDirectory = true ∧ Run (c.start (.change change)).1 events d ∧
    (∀ event ∈ events, event.isPassive = true) ∧ (d.outcome? c.jobs.length).isSome = true ∧
    path.IsApartFrom (stylesheetsAmong c.config (change.added ++ change.removed)) ∧
    c.find? path = some (slot, s) ∧ s.entry = some id ∧ c.entries[id]? = some e ∧
    d.entries[id]? = some e' ∧ e'.index ≠ e.index

/-- A replay is enough to see that an added stylesheet was dropped. -/
theorem dropsAdded_of_replay {early : List Event} {change : Change}
    (passive : events.all Event.isPassive = true)
    (replay : ((new {} 0).replay? early).bind (fun c =>
      ((c.start (.change change)).1.replay? events).map fun d =>
        (c.jobs.all Job.isDone && change.isDirectory && (d.outcome? c.jobs.length).isSome,
          (stylesheetsAmong c.config change.added).contains path && (d.find? path).isNone,
          decide c.LinksHeard)) =
      some (true, true, true)) : DropsAdded early change events path := by
  obtain ⟨c, hc, facts⟩ := Option.bind_eq_some_iff.mp replay
  obtain ⟨d, hd, facts⟩ := Option.map_eq_some_iff.mp facts
  simp only [Prod.mk.injEq, Bool.and_eq_true, List.contains_iff_mem] at facts
  obtain ⟨⟨⟨done, directory⟩, outcome⟩, ⟨among, unfound⟩, heard⟩ := facts
  exact ⟨c, d, run_iff_replay?.mpr hc, done, of_decide_eq_true heard, directory,
    run_iff_replay?.mpr hd, List.all_eq_true.mp passive, outcome, among,
    Option.isNone_iff_eq_none.mp unfound⟩

/-- A replay is enough to see that another stylesheet was altered. -/
theorem altersOther_of_replay (before after : SelectorIndex) {early : List Event} {change : Change}
    (passive : events.all Event.isPassive = true)
    (replay : ((new {} 0).replay? early).bind (fun c => (c.find? path).bind fun x =>
      x.2.entry.bind fun id => (c.entries[id]?).bind fun e =>
      ((c.start (.change change)).1.replay? events).bind fun d => (d.entries[id]?).map fun e' =>
        ((c.jobs.all Job.isDone && change.isDirectory && (d.outcome? c.jobs.length).isSome,
          (stylesheetsAmong c.config (change.added ++ change.removed)).all (!path.same ·)),
          e.index, e'.index)) =
      some ((true, true), before, after)) (differ : after ≠ before) :
    AltersOther early change events path := by
  obtain ⟨c, hc, facts⟩ := Option.bind_eq_some_iff.mp replay
  obtain ⟨⟨slot, s⟩, found, facts⟩ := Option.bind_eq_some_iff.mp facts
  obtain ⟨id, filled, facts⟩ := Option.bind_eq_some_iff.mp facts
  obtain ⟨e, he, facts⟩ := Option.bind_eq_some_iff.mp facts
  obtain ⟨d, hd, facts⟩ := Option.bind_eq_some_iff.mp facts
  obtain ⟨e', he', facts⟩ := Option.map_eq_some_iff.mp facts
  simp only [Prod.mk.injEq, Bool.and_eq_true] at facts
  obtain ⟨⟨⟨⟨done, directory⟩, outcome⟩, apart⟩, rfl, rfl⟩ := facts
  refine ⟨c, d, slot, s, id, e, e', run_iff_replay?.mpr hc, done, directory, run_iff_replay?.mpr hd,
    List.all_eq_true.mp passive, outcome, fun p mem => ?_, found, filled, he, he', differ⟩
  simpa using List.all_eq_true.mp apart p mem

/-- One stylesheet was added and removed in one change. Another was added where an entry is
registered that was disposed of, which its listener comes to hear of meanwhile. And while a change
is followed that does not name it, a stylesheet is fetched anew, for a listener that hears of a link
to it. -/
theorem added_is_dropped_or_other_altered :
    DropsAdded [] ⟨true, [rootFile "a.css"], [rootFile "a.css"]⟩ (emptyFile 1) ⟨"/a.css"⟩ ∧
    DropsAdded (.call (.create .css ⟨"/b.css"⟩ false) :: emptyFile 0 ++ [.disposeEntry 0])
      ⟨true, [rootFile "b.css", rootFile "c.css"], []⟩ (.listen 0 :: emptyFile 3) ⟨"/b.css"⟩ ∧
    AltersOther
      ([.call (.create .html ⟨"/i.html"⟩ false), .answer 0 (.stat (.ok ⟨0, 32⟩)),
        .answer 0 (.text (.ok "<link rel=stylesheet href=a.css>")), .answer 0 .built] ++
        .call (.create .css ⟨"/a.css"⟩ false) :: emptyFile 1)
      ⟨true, [rootFile "n.css"], []⟩
      ([.listen 0, .answer 5 (.resolved (.ok ⟨"/a.css"⟩))] ++
        fetchAnswers 5 ⟨1, 4⟩ ".b{}" [.style ".b"] ++ emptyFile 3) ⟨"/a.css"⟩ := by
  refine ⟨?_, ?_, ?_⟩
  · exact dropsAdded_of_replay (by decide) (by decide +kernel)
  · exact dropsAdded_of_replay (by decide) (by decide +kernel)
  · exact altersOther_of_replay (Fetch.indexOf [("", [])]) (Fetch.indexOf [(".b{}", [.style ".b"])])
      (by decide) (by decide +kernel) (by decide +kernel)

end SelectorCatalog.Catalog
