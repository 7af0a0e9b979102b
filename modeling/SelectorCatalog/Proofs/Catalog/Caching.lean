import SelectorCatalog.Proofs.Catalog.Alone
import SelectorCatalog.Proofs.Catalog.Scan

/-!
# Stylesheets that are cached together

When a scan is over, its job has an entry constructed for each stylesheet that was found, by a part
of its own. `Caching` says how far these parts are, as long as nothing else is under way: each of
them constructs the live entry of the next slot, or has done so, and no other slot is registered.

* `startPartsFrom_constructs`: the parts begin.
* `Caches.resume`: an answer brings a part closer to its end, and concerns no other part.
* `joinParts_project`: what the job comes to with the last of its parts.
-/

namespace SelectorCatalog

namespace Fetch

/-- The most answers that the fetch of a stylesheet waits for. -/
def Stage.owed : Stage → Nat
  | .stat => 4
  | .read _ => 3
  | .parse .. => 2
  | .build .. => 1

/-- The text of a stylesheet is a single block, which the parser has not answered for as long as the
fetch waits for it. -/
def Stage.IsSingle : Stage → Prop
  | .parse _ _ blocks => ∃ text, blocks = [⟨text, none⟩]
  | _ => True

variable {f : Fetch} {e d : Entry} {limit : Nat} {root : Option Path} {a : Answer}
  {notices : List Notice} {stage : Stage}

/-- An answer brings the fetch of a stylesheet closer to its end. -/
theorem owed_lt_of_resume (css : e.kind = .css) (single : f.stage.IsSingle)
    (expected : f.expects a = true)
    (eq : f.resume e limit root a = (d, notices, .waiting stage)) :
    stage.IsSingle ∧ stage.owed < f.stage.owed := by
  cases hs : f.stage with
  | stat =>
      cases a with
      | stat result =>
          cases result with
          | error error => simp [resume, hs] at eq
          | ok stat =>
              simp only [resume, hs] at eq
              split at eq
              · cases eq
              · cases eq
                exact ⟨trivial, Nat.lt_succ_self 3⟩
      | _ => simp [expects, hs] at expected
  | read stat =>
      cases a with
      | text result =>
          cases result with
          | error error => simp [resume, hs] at eq
          | ok text =>
              simp only [resume, hs, stageAfterText, css] at eq
              cases eq
              exact ⟨⟨text, rfl⟩, Nat.lt_succ_self 2⟩
      | _ => simp [expects, hs] at expected
  | parse stat links blocks =>
      rw [hs] at single
      obtain ⟨text, rfl⟩ := single
      cases a with
      | parsed i result =>
          simp only [expects, hs] at expected
          -- the only block is the one that is answered for
          obtain rfl : i = 0 := by
            cases i with
            | zero => rfl
            | succ i => cases expected
          simp only [resume, hs, afterParse] at eq
          cases refused : fatal? e result with
          | some error => simp [refused] at eq
          | none =>
              rw [refused] at eq
              cases eq
              exact ⟨trivial, Nat.lt_succ_self 1⟩
      | _ => simp [expects, hs] at expected
  | build stat links sources =>
      cases a with
      | built =>
          simp only [resume, hs] at eq
          split at eq <;> cases eq
      | _ => simp [expects, hs] at expected

/-- As long as the fetch of a stylesheet goes on, it waits for an answer. -/
theorem request?_isSome (single : f.stage.IsSingle) (path : Path) : (f.request? path).isSome := by
  rw [request?]
  split
  · rfl
  · rfl
  · next stat dependencies blocks hs =>
      rw [hs] at single
      obtain ⟨text, rfl⟩ := single
      rfl
  · rfl

/-- An answer to a fetch leaves a live entry live. -/
theorem isDisposed_resume (live : e.isDisposed = false) :
    (f.resume e limit root a).1.isDisposed = false := by
  rcases resume_cases f e limit root a with
    ⟨notices, stage, eq⟩ | ⟨notices, error, eq⟩ | ⟨stat, links, sources, e', -, -, installs, eq⟩
  · rw [eq]
    exact live
  · rw [eq]
    exact live
  · obtain ⟨live, -, ⟨-, rfl⟩ | ⟨-, -, index, -⟩⟩ := Entry.install_ok installs
    · rw [eq]
      exact live
    · rw [eq, Entry.isDisposed, index]
      exact isDisposed_indexOf sources

end Fetch

namespace Catalog

open Job (Outcome Purpose Plan Stage)

/-- What a part does for a project: it constructs the live entry of a stylesheet's slot, or has done
so. -/
structure Caches (c : Catalog) (job part : JobId) (path : Path) (slot : SlotId) : Prop where
  parent : (c.jobs[part]?).bind (·.parent) = some job
  made : ∃ s id e, c.slots[slot]? = some s ∧ s.key = path ∧ s.kind = .css ∧
    c.owners[slot]? = some id ∧ c.entries[id]? = some e ∧ e.isDisposed = false ∧
    ((∃ f, c.stage? part = some (.fetching f (.construct slot)) ∧ f.entry = id ∧
        f.stage.IsSingle) ∨
      c.stage? part = some (.done (.entry (some id))) ∧ s.entry = some id)

/-- The parts of a job have the numbers from `first` on, their slots those from `start` on, and
nothing else is registered. -/
structure Caching (c : Catalog) (job : JobId) (files : List Path) (first : JobId) (start : SlotId) :
    Prop where
  lt : job < first
  registered : c.registered = List.range' start files.length
  parts : ∀ {k : Nat} {path : Path}, files[k]? = some path →
    c.Caches job (first + k) path (start + k)
  only : ∀ {j : JobId}, (c.jobs[j]?).bind (·.parent) = some job → ∃ k < files.length, j = first + k

/-- The most answers that a job with a fetch waits for. -/
def owed (c : Catalog) (job : JobId) : Nat :=
  match c.stage? job with
  | some (.fetching f _) => f.stage.owed
  | _ => 0

/-- A slot holds the live entry of a stylesheet. -/
def HoldsSheet (c : Catalog) (slot : SlotId) (file : Path) : Prop :=
  ∃ s id e, c.slots[slot]? = some s ∧ s.key = file ∧ s.kind = .css ∧ s.entry = some id ∧
    c.entries[id]? = some e ∧ e.kind = .css ∧ e.path = file ∧ e.isDisposed = false

/-- The entry that is made for a stylesheet. -/
def sheetFor (path : Path) : Entry :=
  ({ kind := .css, path := path, scope := .registry } : Entry).beginFetch

/-- Jobs one after the other have begun to construct the entries of stylesheets. -/
structure Constructs (c : Catalog) (first : JobId) (paths : List Path) (d : Catalog) : Prop where
  config : d.config = c.config
  root : d.root = c.root
  slots : d.slots = c.slots ++ paths.map (⟨·, .css, none⟩)
  registered : d.registered = c.registered ++ List.range' c.slots.length paths.length
  entries : d.entries = c.entries ++ paths.map sheetFor
  owners : d.owners = c.owners ++ List.range' c.entries.length paths.length
  before : ∀ j < first, d.stage? j = c.stage? j
  begun : ∀ k < paths.length, d.stage? (first + k) = some
    (.fetching ⟨c.entries.length + k, 1, c.clock, .stat⟩ (.construct (c.slots.length + k)))

/-- Nothing has changed but for a part of a project, its slot and its entry. -/
structure Touches (c d : Catalog) (part : JobId) (slot : SlotId) (id : EntryId) : Prop where
  config : d.config = c.config
  root : d.root = c.root
  registered : d.registered = c.registered
  owners : d.owners = c.owners
  crew : d.crew = c.crew
  stage : ∀ j, part ≠ j → d.stage? j = c.stage? j
  slots : ∀ i, slot ≠ i → d.slots[i]? = c.slots[i]?
  entries : ∀ i, id ≠ i → d.entries[i]? = c.entries[i]?

variable {root path : Path} {files : List Path} {c d : Catalog} {job part j : JobId}
  {slot start : SlotId} {id : EntryId} {first : JobId} {parts : List JobId} {plan : Plan}

/-! ## Parts -/

/-- The part that a job is depends on the crew alone. -/
theorem parent_congr (same : d.crew = c.crew) (j : JobId) :
    (d.jobs[j]?).bind (·.parent) = (c.jobs[j]?).bind (·.parent) := by
  have at_ : (d.jobs.map (·.parent))[j]? = (c.jobs.map (·.parent))[j]? :=
    congrArg (fun crew : List (Option JobId) × List Checker => crew.1[j]?) same
  rw [List.getElem?_map, List.getElem?_map] at at_
  cases hd : d.jobs[j]? <;> cases hc : c.jobs[j]? <;> simp_all

theorem Caches.lt (h : c.Caches job part path slot) : part < c.jobs.length := by
  obtain ⟨t, ht, -⟩ := Option.bind_eq_some_iff.mp h.parent
  exact (List.getElem?_eq_some_iff.mp ht).1

/-- What a part fetches is the entry of a stylesheet. -/
theorem Caches.kind (h : c.Caches job part path slot) (sound : Sound c) {f : Fetch}
    (hf : c.stage? part = some (.fetching f (.construct slot))) {e : Entry}
    (he : c.entries[f.entry]? = some e) : e.kind = .css := by
  obtain ⟨s, id, e', hs, -, css, own, he', -, ⟨f', hf', rfl, -⟩ | ⟨ended, -⟩⟩ := h.made
  · obtain rfl : f = f' := by simpa using hf.symm.trans hf'
    obtain ⟨x, hx, -, kind, -⟩ := sound.owned.made own hs
    obtain rfl := Option.some.inj (he.symm.trans hx)
    exact kind.trans css
  · cases hf.symm.trans ended

/-- What a part does depends on the part, its slot and its entry. -/
theorem Caches.frame (h : c.Caches job part path slot)
    (parent : (d.jobs[part]?).bind (·.parent) = (c.jobs[part]?).bind (·.parent))
    (stage : d.stage? part = c.stage? part) (slots : d.slots[slot]? = c.slots[slot]?)
    (owners : d.owners = c.owners)
    (entries : ∀ id, c.owners[slot]? = some id → d.entries[id]? = c.entries[id]?) :
    d.Caches job part path slot where
  parent := parent.trans h.parent
  made := by
    obtain ⟨s, id, e, hs, key, css, own, he, live, way⟩ := h.made
    refine ⟨s, id, e, slots.trans hs, key, css, owners ▸ own, (entries id own).trans he, live, ?_⟩
    rw [stage]
    exact way

/-- A part caches its stylesheet as before in a catalogue that has not moved. -/
theorem Caches.unmoved (h : c.Caches job part path slot) (u : Unmoved c d) :
    d.Caches job part path slot := by
  have same := u.jobs part h.lt
  exact h.frame (by rw [same]) (by rw [Catalog.stage?, Catalog.stage?, same]) (by rw [u.slots])
    u.owners fun _ _ => by rw [u.entries]

/-- The parts of a project are jobs of the catalogue. -/
theorem Caching.part_lt (h : c.Caching job files first start) {k : Nat} (lt : k < files.length) :
    first + k < c.jobs.length :=
  (h.parts (List.getElem?_eq_getElem lt)).lt

/-- All parts cache their stylesheets as before in a catalogue that has not moved. -/
theorem Caching.unmoved (h : c.Caching job files first start) (u : Unmoved c d) :
    d.Caching job files first start where
  lt := h.lt
  registered := by
    rcases u.registered with same | ⟨n, id, e, own, he, gone, same⟩
    · rw [same, h.registered]
    · rw [same, ← h.registered, List.filter_eq_self]
      -- what is registered is live
      intro i mem
      rw [bne_iff_ne]
      rintro rfl
      rw [h.registered] at mem
      obtain ⟨k, lt, rfl⟩ := mem_row.mp mem
      obtain ⟨-, id', e', -, -, -, own', he', live, -⟩ :=
        (h.parts (List.getElem?_eq_getElem lt)).made
      obtain rfl := Option.some.inj (own.symm.trans own')
      obtain rfl := Option.some.inj (he.symm.trans he')
      cases gone.symm.trans live
  parts at_ := (h.parts at_).unmoved u
  only {j} part := by
    rcases Nat.lt_or_ge j c.jobs.length with lt | ge
    · exact h.only (u.jobs j lt ▸ part)
    · obtain ⟨t, ht, part⟩ := Option.bind_eq_some_iff.mp part
      cases part.symm.trans (u.ended ht ge).1

/-- What is said of a job itself does not concern its parts. -/
theorem Caching.setStage (h : c.Caching job files first start) (ns : List Notice) (s : Stage) :
    ((c.notify ns).setStage job s).Caching job files first start where
  lt := h.lt
  registered := h.registered
  parts {k path} at_ := by
    have other : job ≠ first + k := Nat.ne_of_lt (Nat.lt_add_right k h.lt)
    exact (h.parts at_).frame (parent_congr (crew_setStage _ _ _) _)
      (by rw [stage?_setStage, if_neg other]; rfl) rfl rfl fun _ _ => rfl
  only {j} part := h.only ((parent_congr (crew_setStage _ _ _) j).symm.trans part)

/-- A project that is over has a registered slot for each of its stylesheets. -/
theorem Caching.holdsSheets (h : c.Caching job files first start) (sound : Sound c)
    (ended : ∀ k < files.length, ∃ outcome, c.stage? (first + k) = some (.done outcome)) :
    List.Forall₂ c.HoldsSheet c.registered files := by
  rw [h.registered, List.forall₂_iff_get]
  refine ⟨List.length_range', fun k _ lt => ?_⟩
  obtain ⟨s, id, e, hs, key, css, own, he, live, way⟩ :=
    (h.parts (List.getElem?_eq_getElem lt)).made
  obtain ⟨outcome, done⟩ := ended k lt
  obtain ⟨e', he', -, kind, path_eq⟩ := sound.owned.made own hs
  obtain rfl := Option.some.inj (he.symm.trans he')
  rcases way with ⟨f, hf, -⟩ | ⟨-, filled⟩
  · cases done.symm.trans hf
  · rw [List.get_eq_getElem, List.get_eq_getElem, List.getElem_range', Nat.one_mul]
    exact ⟨s, id, e, hs, key, css, filled, he, kind.trans css, path_eq.trans key, live⟩

/-! ## Their beginning -/

/-- Stylesheets at different places that nothing is registered for all have their entries
constructed. -/
theorem startPartsFrom_constructs (paths : List Path) (c : Catalog) (first : JobId)
    (apart : paths.Pairwise fun p q => p.same q = false)
    (free : ∀ i ∈ c.registered, ∃ s, c.slots[i]? = some s ∧ ∀ p ∈ paths, s.key.same p = false)
    (there : ∀ k < paths.length, (c.stage? (first + k)).isSome) :
    Constructs c first paths
      (c.startPartsFrom first (paths.map fun path => .create path false)) := by
  induction paths generalizing c first with
  | nil => exact ⟨rfl, rfl, by simp [startPartsFrom], by simp [startPartsFrom],
      by simp [startPartsFrom], by simp [startPartsFrom], fun _ _ => rfl, by simp⟩
  | cons path rest ih =>
      obtain ⟨others, apart⟩ := List.pairwise_cons.mp apart
      have unused : c.find? path = none := by
        refine List.findSome?_eq_none_iff.mpr fun i mem => ?_
        obtain ⟨s, hs, differ⟩ := free i mem
        rw [hs, Option.bind_some, differ path List.mem_cons_self]
        rfl
      have begins : c.startPart first (.create path false) = c.opened first .css path :=
        createAt_of_none unused first .css false
      have stage := stage?_opened c first .css path
      have after : ∀ n k : Nat, n + (k + 1) = n + 1 + k := fun n k =>
        Nat.add_right_comm n k 1
      -- the first path is taken by its new slot, and the others are free as before
      have next := ih (c.opened first .css path) (first + 1) apart (fun i mem => ?_) fun k lt => ?_
      · rw [List.map_cons, startPartsFrom, begins]
        refine ⟨next.config, next.root, ?_, ?_, ?_, ?_, fun j lt => ?_, fun k lt => ?_⟩
        · rw [next.slots, opened, List.append_assoc]
          rfl
        · rw [next.registered, opened, List.append_assoc, List.length_append]
          rfl
        · rw [next.entries, opened, List.append_assoc]
          rfl
        · have owners_eq : (c.opened first .css path).owners = c.owners ++ [c.entries.length] := by
            simp [owners, Catalog.opened, Listener.new]
          rw [next.owners, owners_eq, List.append_assoc, opened, List.length_append]
          rfl
        · rw [next.before j (Nat.lt_succ_of_lt lt), stage, if_neg (Nat.ne_of_gt lt)]
        · cases k with
          | zero =>
              obtain ⟨s, hs⟩ := Option.isSome_iff_exists.mp (there 0 (Nat.zero_lt_succ _))
              refine (next.before first (Nat.lt_succ_self first)).trans ?_
              rw [stage, if_pos rfl, show c.stage? first = some s from hs]
              rfl
          | succ k =>
              refine (congrArg _ (after first k)).trans
                ((next.begun k (Nat.lt_of_succ_lt_succ lt)).trans ?_)
              rw [after c.entries.length k, after c.slots.length k]
              simp only [opened, List.length_append, List.length_singleton]
      · rcases List.mem_append.mp mem with mem | mem
        · obtain ⟨s, hs, differ⟩ := free i mem
          exact ⟨s, getElem?_append_some _ hs, fun p mem => differ p (List.mem_cons_of_mem _ mem)⟩
        · obtain rfl := List.mem_singleton.mp mem
          exact ⟨⟨path, .css, none⟩, List.getElem?_concat_length, others⟩
      · rw [stage, if_neg (Nat.ne_of_lt (Nat.lt_add_right k (Nat.lt_succ_self first))), ← after]
        exact there (k + 1) (Nat.succ_lt_succ lt)

/-- The parts that a job starts are parts of it. -/
theorem parent_startParts {parts : List Part} {k : Nat} (lt : k < parts.length) :
    ((c.startParts job parts plan).jobs[c.jobs.length + k]?).bind (·.parent) = some job := by
  have at_ : (c.startParts job parts plan).crew.1[c.jobs.length + k]? = some (some job) := by
    rw [crew_startParts,
      List.getElem?_append_right (by rw [length_crew]; exact Nat.le_add_right _ _), length_crew,
      Nat.add_sub_cancel_left, List.getElem?_replicate, if_pos lt]
  rw [crew, List.getElem?_map] at at_
  obtain ⟨t, ht, part⟩ := Option.map_eq_some_iff.mp at_
  rw [ht, Option.bind_some, part]

/-- The parts of a project have begun. -/
theorem Constructs.caching (h : Constructs c first files d) (sound : Sound c) (lt : job < first)
    (unregistered : c.registered = [])
    (parent : ∀ k < files.length, (d.jobs[first + k]?).bind (·.parent) = some job)
    (only : ∀ j : JobId, (d.jobs[j]?).bind (·.parent) = some job →
      ∃ k < files.length, j = first + k) :
    d.Caching job files first c.slots.length where
  lt := lt
  registered := by rw [h.registered, unregistered, List.nil_append]
  parts {k path} at_ := by
    have lt := (List.getElem?_eq_some_iff.mp at_).1
    refine ⟨parent k lt, ⟨path, .css, none⟩, c.entries.length + k, sheetFor path, ?_, rfl, rfl, ?_,
      ?_, Entry.isDisposed_beginFetch _, .inl ⟨_, h.begun k lt, rfl, trivial⟩⟩
    · rw [h.slots, List.getElem?_append_right (Nat.le_add_right _ _), Nat.add_sub_cancel_left,
        List.getElem?_map, at_]
      rfl
    · rw [h.owners, ← sound.owned.length_eq, List.getElem?_append_right (Nat.le_add_right _ _),
        Nat.add_sub_cancel_left, List.getElem?_range' lt, Nat.one_mul]
    · rw [h.entries, List.getElem?_append_right (Nat.le_add_right _ _), Nat.add_sub_cancel_left,
        List.getElem?_map, at_]
      rfl
  only {j} := only j

/-! ## Answers -/

theorem Touches.refl (c : Catalog) (part : JobId) (slot : SlotId) (id : EntryId) :
    Touches c c part slot id :=
  ⟨rfl, rfl, rfl, rfl, rfl, fun _ _ => rfl, fun _ _ => rfl, fun _ _ => rfl⟩

theorem Touches.setEntry (h : Touches c d part slot id) (e : Entry) :
    Touches c (d.setEntry id e) part slot id :=
  { h with entries := fun i ne => (List.getElem?_set_ne ne).trans (h.entries i ne) }

theorem Touches.notify (h : Touches c d part slot id) (ns : List Notice) :
    Touches c (d.notify ns) part slot id :=
  { h with }

theorem Touches.fill (h : Touches c d part slot id) (entry : EntryId) :
    Touches c (d.fill slot entry) part slot id :=
  { h with slots := fun i ne => (List.getElem?_modify_ne _ _ ne).trans (h.slots i ne) }

theorem Touches.setStage (h : Touches c d part slot id) (s : Stage) :
    Touches c (d.setStage part s) part slot id :=
  { h with
    crew := (crew_setStage d part s).trans h.crew
    stage := fun j ne => by rw [stage?_setStage, if_neg ne, h.stage j ne] }

/-- A job that is not done has come to nothing yet. -/
theorem outcome?_of_goes {s : Stage} (hs : c.stage? j = some s)
    (goes : ∀ outcome, s ≠ .done outcome) : c.outcome? j = none := by
  cases came : c.outcome? j with
  | none => rfl
  | some outcome =>
      exact absurd (Option.some.inj (hs.symm.trans (stage?_of_outcome? came))) (goes _)

/-- An answer brings a part closer to its end, after which its project goes on. -/
theorem Caches.resume (h : c.Caches job part path slot) (sound : Sound c)
    (registered : c.isRegistered slot = true) {a : Answer} (expected : c.expects part a = true) :
    ∃ d id, Sound d ∧ c.owners[slot]? = some id ∧ Touches c d part slot id ∧
      d.Caches job part path slot ∧ d.owed part < c.owed part ∧
      (c.resume part a = d ∧ d.outcome? part = none ∨ c.resume part a = d.joinParts job) := by
  obtain ⟨s, id, e, hs, key, css, own, he, live, way⟩ := h.made
  rcases way with ⟨f, hf, rfl, single⟩ | ⟨ended, -⟩
  · have awaits : f.expects a = true := by simpa [expects, hf] using expected
    obtain ⟨e', he', -, kind, -⟩ := sound.owned.made own hs
    obtain rfl := Option.some.inj (he.symm.trans he')
    -- only the answer and the stage decide, whatever the purpose
    have goes : c.resume part a = c.resumeFetch part f (.construct slot) a := by
      cases a <;> simp [Catalog.resume, hf]
    generalize hr : f.resume e c.config.maxFileBytes (c.rootOf e.scope) a = r
    obtain ⟨e', notices, progress⟩ := r
    have live' : e'.isDisposed = false := by
      have : (f.resume e c.config.maxFileBytes (c.rootOf e.scope) a).1.isDisposed = false :=
        Fetch.isDisposed_resume live
      rwa [hr] at this
    have turn : e.Turn e' := by
      have := turn_resume f e c.config.maxFileBytes (c.rootOf e.scope) a
      rwa [hr] at this
    have owes : c.owed part = f.stage.owed := by rw [owed, hf]
    let told := (c.setEntry f.entry e').notify notices
    have touched : Touches c told part slot f.entry :=
      ((Touches.refl c part slot f.entry).setEntry e').notify notices
    have moves : Moves (fun _ _ => True) c told :=
      (Move.entries c (.set he turn)).moves.trans (moves_notify _ notices)
    have at_ : told.stage? part = some (.fetching f (.construct slot)) := hf
    have he' : told.entries[f.entry]? = some e' :=
      List.getElem?_set_self (List.getElem?_eq_some_iff.mp he).1
    have parent : ∀ x : Catalog, x.crew = c.crew → (x.jobs[part]?).bind (·.parent) = some job :=
      fun x same => (parent_congr same part).trans h.parent
    cases progress with
    -- the fetch goes on, and owes less
    | waiting stage =>
        obtain ⟨single', less⟩ := Fetch.owed_lt_of_resume (kind.trans css) single awaits hr
        let d := told.setStage part (.fetching { f with stage := stage } (.construct slot))
        have hd : d.stage? part = some (.fetching { f with stage := stage } (.construct slot)) :=
          stage?_setStage_self at_ _
        have moved := touched.setStage (.fetching { f with stage := stage } (.construct slot))
        have sound' : Sound d := (moves.trans
          (moves_setStage trivial at_ (.advance f (.construct slot) stage))).sound sound
        refine ⟨d, f.entry, sound', own, moved, ⟨parent d moved.crew, s, f.entry, e', hs, key, css,
          moved.owners ▸ own, he', live', .inl ⟨_, hd, rfl, single'⟩⟩, ?_, .inl ⟨?_, ?_⟩⟩
        · rw [owes, owed, hd]
          exact less
        · simp only [goes, resumeFetch, he, hr]
          rfl
        · exact outcome?_of_goes hd (by simp)
    -- the fetch has come to an end, and the slot is filled whatever its result
    | finished result =>
        let heard := told.notify (fetchNotices (told.pathOf f.entry) result)
        let kept := heard.fill slot f.entry
        let d := kept.setStage part (.done (.entry (some f.entry)))
        have here : kept.isRegistered slot = true := registered
        have sound' : Sound d := by
          have ends : Sound (heard.concluded part slot f.entry) :=
            ((moves.trans (moves_notify told _)).sound sound).concluded at_
          rwa [concluded, if_pos (show heard.isRegistered slot = true from registered)] at ends
        have hd : d.stage? part = some (.done (.entry (some f.entry))) :=
          stage?_setStage_self (c := kept) at_ _
        have moved := ((touched.notify (fetchNotices (told.pathOf f.entry) result)).fill
          f.entry).setStage (.done (.entry (some f.entry)))
        have filled : d.slots[slot]? = some { s with entry := some f.entry } := by
          show (told.slots.modify slot _)[slot]? = _
          rw [List.getElem?_modify_eq]
          exact congrArg (Option.map _) hs
        refine ⟨d, f.entry, sound', own, moved,
          ⟨parent d moved.crew, _, f.entry, e', filled, key, css,
          moved.owners ▸ own, he', live', .inr ⟨hd, rfl⟩⟩, ?_, .inr ?_⟩
        · rw [owes, owed, hd]
          cases f.stage <;> exact Nat.zero_lt_succ _
        · simp only [goes, resumeFetch, he, hr]
          show afterConstruction (told.notify _) part slot f.entry = _
          rw [afterConstruction, if_pos here, complete, parent d moved.crew]
  · simp [expects, ended] at expected

theorem Caching.touched (h : c.Caching job files first start) (sound : Sound c) {k : Nat}
    (at_ : files[k]? = some path) (own : c.owners[start + k]? = some id)
    (moved : Touches c d (first + k) (start + k) id)
    (here : d.Caches job (first + k) path (start + k)) : d.Caching job files first start where
  lt := h.lt
  registered := moved.registered.trans h.registered
  parts {i p} at_' := by
    rcases Decidable.eq_or_ne k i with rfl | ne
    · cases at_.symm.trans at_'
      exact here
    · refine (h.parts at_').frame (parent_congr moved.crew _)
        (moved.stage _ fun eq => ne (Nat.add_left_cancel eq))
        (moved.slots _ fun eq => ne (Nat.add_left_cancel eq)) moved.owners fun other own' => ?_
      -- another slot has another entry
      refine moved.entries other fun eq => ne (Nat.add_left_cancel ?_ (n := start))
      exact (List.getElem?_inj (List.getElem?_eq_some_iff.mp own).1 sound.owned.nodup).mp
        (own.trans (eq ▸ own'.symm))
  only part := h.only ((parent_congr moved.crew _).symm.trans part)

/-! ## Their end -/

/-- A job waits for its parts as long as one of them is under way. -/
theorem joinParts_waiting (hs : c.stage? job = some (.joining parts plan)) (mem : part ∈ parts)
    (goes : c.outcome? part = none) : c.joinParts job = c := by
  rw [joinParts, hs]
  simp only [mapM_outcome?_of_goes mem goes]

/-- When all parts are done, they have outcomes, and what each comes to is among these. -/
theorem mapM_outcome? {p : Outcome → Prop}
    (ended : ∀ part ∈ parts, ∃ outcome, c.outcome? part = some outcome ∧ p outcome) :
    ∃ outcomes, parts.mapM c.outcome? = some outcomes ∧ outcomes.length = parts.length ∧
      ∀ outcome ∈ outcomes, p outcome := by
  induction parts with
  | nil => exact ⟨[], rfl, rfl, nofun⟩
  | cons first rest ih =>
      obtain ⟨⟨outcome, here, holds⟩, later⟩ := List.forall_mem_cons.mp ended
      obtain ⟨outcomes, eq, length, all⟩ := ih later
      refine ⟨outcome :: outcomes, by simp [here, eq], by simp [length], ?_⟩
      exact List.forall_mem_cons.mpr ⟨holds, all⟩

/-- A project is over when all entries are constructed, and comes to their number. -/
theorem joinParts_project {root : Path} {found : Nat}
    (hs : c.stage? job = some (.joining parts (.project root found)))
    (ended : ∀ part ∈ parts, ∃ id, c.outcome? part = some (.entry (some id))) :
    c.joinParts job = (c.notify [.projectCached root found parts.length]).setStage job
      (.done (.count parts.length)) := by
  obtain ⟨outcomes, eq, length, entries⟩ : ∃ outcomes, parts.mapM c.outcome? = some outcomes ∧
      outcomes.length = parts.length ∧ ∀ outcome ∈ outcomes, ∃ id, outcome = .entry (some id) := by
    refine mapM_outcome? fun part mem => ?_
    obtain ⟨id, came⟩ := ended part mem
    exact ⟨_, came, id, rfl⟩
  have count : countEntries outcomes = parts.length := by
    rw [← length, countEntries, List.countP_eq_length]
    intro outcome mem
    obtain ⟨id, rfl⟩ := entries outcome mem
    rfl
  rw [joinParts, hs]
  simp only [eq, follow, count]

/-- A job that joins its parts keeps the config and the root. -/
theorem joinParts_frame (c : Catalog) (id : JobId) :
    (c.joinParts id).config = c.config ∧ (c.joinParts id).root = c.root := by
  obtain eq | ⟨_, _, _, rs, es, ns, -, -, eq⟩ := joinParts_spec c id
  · rw [eq]; exact ⟨rfl, rfl⟩
  · rw [eq]; exact ⟨rfl, rfl⟩

end Catalog

end SelectorCatalog
