import Mathlib.Algebra.GroupWithZero.Nat
import Mathlib.Algebra.Order.BigOperators.Group.List
import Mathlib.Algebra.Order.Group.Nat
import SelectorCatalog.Proofs.Catalog.Caching

/-!
# Opening a project

A project that is opened while nothing else is under way lists the directories of its tree, then has
an entry constructed for each stylesheet that was found, and comes to their number. The proof
follows the job through these stages (`Opens`): each answer brings it closer to its end, nothing
else moves it, and until it is over some answer is awaited. So `project_is_opened` says what is
registered in the end, whatever the fetches of the stylesheets come to.

It has to be known that no links are left for the listeners: `opening_lets_in` has a link that is
attached meanwhile.
-/

namespace SelectorCatalog.Catalog

open Job (Outcome Purpose Plan Stage)

/-- Whether an event is an answer of the host. -/
def Event.isAnswer : Event → Bool
  | .answer .. => true
  | _ => false

/-- How far a project is. The number is the most answers that are still to come. -/
inductive Opens (tree : FileTree) (root : Path) (job : JobId) (files : List Path) (c : Catalog) :
    Nat → Prop where
  | scanning {left : Nat} : c.Collects tree root job files left → c.registered = [] →
    (∀ j : JobId, (c.jobs[j]?).bind (·.parent) ≠ some job) →
    Opens tree root job files c (left + 4 * files.length)
  | caching {first : JobId} {start : SlotId} : c.Caching job files first start →
    c.stage? job =
      some (.joining (List.range' first files.length) (.project root files.length)) →
    (∃ k < files.length, ∃ f purpose, c.stage? (first + k) = some (.fetching f purpose)) →
    Opens tree root job files c (((List.range' first files.length).map c.owed).sum)
  | cached {first : JobId} {start : SlotId} : c.Caching job files first start →
    c.stage? job = some (.done (.count files.length)) →
    (∀ k < files.length, ∃ outcome, c.stage? (first + k) = some (.done outcome)) →
    Opens tree root job files c 0

/-- A catalogue holds a project: its root, and the entries of these stylesheets alone. What another
one had registered is disposed of. -/
structure IsProject (d : Catalog) (root : Path) (files : List Path) (c : Catalog) : Prop where
  root : d.root = some root
  registered : List.Forall₂ d.HoldsSheet d.registered files
  disposed : ∀ i ∈ c.registered, ∃ s id e, c.slots[i]? = some s ∧ s.entry = some id ∧
    d.entries[id]? = some e ∧ e.isDisposed = true

/-- How far a project is that is opened with nothing else under way: some answer is awaited, or it
is over and its outcome is the number of stylesheets. -/
inductive Opening (d : Catalog) (root : Path) (job : JobId) (files : List Path) (c : Catalog) : Prop
    where
  | waits (j : JobId) (request : Request) : d.outcome? job = none →
    (j = job ∨ (d.jobs[j]?).bind (·.parent) = some job) → d.request? j = some request →
    Opening d root job files c
  | opened : d.outcome? job = some (.count files.length) → IsProject d root files c →
    Opening d root job files c

variable {tree : FileTree} {root path : Path} {files : List Path} {left : Nat} {event : Event}
  {events : List Event} {c d : Catalog} {job j : JobId} {slot : SlotId} {first : JobId}
  {start : SlotId}

/-! ## From stage to stage -/

/-- A project whose parts have gone on is over with the last of them. -/
theorem Caching.joinParts (h : c.Caching job files first start)
    (hs : c.stage? job =
      some (.joining (List.range' first files.length) (.project root files.length))) :
    ∃ left ≤ ((List.range' first files.length).map c.owed).sum,
      Opens tree root job files (c.joinParts job) left := by
  -- either a part still fetches, or all have their entries
  by_cases goes : ∃ k < files.length, ∃ f purpose, c.stage? (first + k) = some (.fetching f purpose)
  · obtain ⟨k, lt, f, purpose, hf⟩ := goes
    have mem : first + k ∈ List.range' first files.length := mem_row.mpr ⟨k, lt, rfl⟩
    rw [joinParts_waiting hs mem (outcome?_of_goes hf (by simp))]
    exact ⟨_, Nat.le_refl _, .caching h hs ⟨k, lt, f, purpose, hf⟩⟩
  · have ended : ∀ k < files.length,
        ∃ id, c.stage? (first + k) = some (.done (.entry (some id))) := by
      intro k lt
      obtain ⟨s, id, e, -, -, -, -, -, -, way⟩ := (h.parts (List.getElem?_eq_getElem lt)).made
      rcases way with ⟨f, hf, -⟩ | ⟨hd, -⟩
      · exact absurd ⟨k, lt, f, _, hf⟩ goes
      · exact ⟨id, hd⟩
    have joined := joinParts_project hs fun part mem => by
      obtain ⟨k, lt, rfl⟩ := mem_row.mp mem
      obtain ⟨id, hd⟩ := ended k lt
      exact ⟨id, outcome?_of_done hd⟩
    -- all parts have their entries, so each file counts
    rw [List.length_range'] at joined
    rw [joined]
    refine ⟨0, Nat.zero_le _, .cached (h.setStage _ _) ?_ fun k lt => ?_⟩
    · exact stage?_setStage_self (c := c.notify _) hs _
    · obtain ⟨id, hd⟩ := ended k lt
      have other : job ≠ first + k := Nat.ne_of_lt (Nat.lt_add_right k h.lt)
      exact ⟨_, by rw [stage?_setStage, if_neg other]; exact hd⟩

/-- No more is due to parts than before. -/
theorem Unmoved.map_owed (u : Unmoved c d) {n : Nat} (there : ∀ k < n, first + k < c.jobs.length) :
    (List.range' first n).map d.owed = (List.range' first n).map c.owed := by
  refine List.map_congr_left fun j mem => ?_
  obtain ⟨k, lt, rfl⟩ := mem_row.mp mem
  have same := u.jobs _ (there k lt)
  rw [owed, owed, Catalog.stage?, Catalog.stage?, same]

/-- A project is as far as it is in a catalogue that has not moved. -/
theorem Opens.unmoved (h : Opens tree root job files c left) (u : Unmoved c d) :
    Opens tree root job files d left := by
  cases h with
  | scanning scans none alone =>
      obtain ⟨pending, found, dirs, rest, hs, walks⟩ := scans
      have scans : d.Collects tree root job files _ :=
        ⟨pending, found, dirs, rest, u.stage? hs, u.config ▸ walks⟩
      refine .scanning scans ?_ fun j part => ?_
      · rcases u.registered with same | ⟨_, _, _, -, -, -, same⟩
        · rw [same, none]
        · rw [same, none]
          rfl
      · rcases Nat.lt_or_ge j c.jobs.length with lt | ge
        · exact alone j (u.jobs j lt ▸ part)
        · obtain ⟨t, ht, part⟩ := Option.bind_eq_some_iff.mp part
          cases part.symm.trans (u.ended ht ge).1
  | @caching first start core hs open_ =>
      rw [← u.map_owed fun k lt => core.part_lt lt]
      obtain ⟨k, lt, f, purpose, goes⟩ := open_
      exact .caching (core.unmoved u) (u.stage? hs) ⟨k, lt, f, purpose, u.stage? goes⟩
  | @cached first start core hs ended =>
      refine .cached (core.unmoved u) (u.stage? hs) fun k lt => ?_
      obtain ⟨outcome, at_⟩ := ended k lt
      exact ⟨outcome, u.stage? at_⟩

/-- When a part is closer to its end, so are the parts together. -/
theorem Touches.sum_owed_lt {part : JobId} {id : EntryId} {parts : List JobId}
    (moved : Touches c d part slot id) (less : d.owed part < c.owed part) (mem : part ∈ parts) :
    (parts.map d.owed).sum < (parts.map c.owed).sum := by
  refine List.sum_lt_sum _ _ (fun j _ => ?_) ⟨part, mem, less⟩
  rcases Decidable.eq_or_ne part j with rfl | ne
  · exact Nat.le_of_lt less
  · rw [owed, owed, moved.stage j ne]

/-- An answer to a part brings the project closer to its end. -/
theorem Caching.resume (h : c.Caching job files first start) (sound : Sound c)
    (hs : c.stage? job =
      some (.joining (List.range' first files.length) (.project root files.length)))
    {k : Nat} (lt : k < files.length) {a : Answer} (expected : c.expects (first + k) a = true) :
    (∃ left < ((List.range' first files.length).map c.owed).sum,
      Opens tree root job files (c.resume (first + k) a) left) ∧
      (c.resume (first + k) a).config = c.config ∧ (c.resume (first + k) a).root = c.root := by
  have at_ : files[k]? = some files[k] := List.getElem?_eq_getElem lt
  have registered : c.isRegistered (start + k) = true := by
    rw [isRegistered, List.contains_iff_mem, h.registered, mem_row]
    exact ⟨k, lt, rfl⟩
  obtain ⟨d, id, -, own, moved, here, less, goes⟩ := (h.parts at_).resume sound registered expected
  have core := h.touched sound at_ own moved here
  have mem : first + k ∈ List.range' first files.length := mem_row.mpr ⟨k, lt, rfl⟩
  have joins : d.stage? job =
      some (.joining (List.range' first files.length) (.project root files.length)) :=
    (moved.stage job (Nat.ne_of_gt (Nat.lt_add_right k h.lt))).trans hs
  have less := moved.sum_owed_lt less mem
  -- as long as the part goes on, the project waits
  have next : c.resume (first + k) a = d.joinParts job := by
    rcases goes with ⟨eq, open_⟩ | eq
    · rw [eq, joinParts_waiting joins mem open_]
    · exact eq
  obtain ⟨left, le, opens⟩ : ∃ left ≤ ((List.range' first files.length).map d.owed).sum,
    Opens tree root job files (d.joinParts job) left := core.joinParts joins
  rw [next, (joinParts_frame d job).1, (joinParts_frame d job).2]
  exact ⟨⟨left, Nat.lt_of_le_of_lt le less, opens⟩, moved.config, moved.root⟩

/-- When the walk is over, the entries of what was found are constructed. -/
theorem opens_startParts (sound : Sound c) {s : Stage} (hs : c.stage? job = some s)
    (isOpen : s.isOpen = true)
    (apart : files.Pairwise fun p q => p.same q = false) (unregistered : c.registered = [])
    (alone : ∀ j : JobId, (c.jobs[j]?).bind (·.parent) ≠ some job) :
    (∃ left ≤ 4 * files.length, Opens tree root job files
      (c.startParts job (files.map fun path => .create path false) (.project root files.length))
        left) ∧
      (c.startParts job (files.map fun path => .create path false)
        (.project root files.length)).config = c.config ∧
      (c.startParts job (files.map fun path => .create path false)
        (.project root files.length)).root = c.root := by
  let parts : List Part := files.map fun path => .create path false
  let x := c.enlisted job parts (.project root files.length)
  have length : parts.length = files.length := List.length_map _
  have moves : Moves (fun _ _ => True) c x := moves_enlisted trivial hs isOpen
  -- the paths are apart and nothing is registered, so all of them are constructed
  have begins : Constructs x c.jobs.length files (x.startPartsFrom c.jobs.length parts) := by
    refine startPartsFrom_constructs files x _ apart (fun i mem => ?_) fun k lt => ?_
    · rw [show x.registered = [] from unregistered] at mem
      cases mem
    · rw [stage?_enlisted hs (length ▸ lt)]
      rfl
  generalize hd : x.startPartsFrom c.jobs.length parts = d at begins
  have eq : c.startParts job parts (.project root files.length) = d.joinParts job := by
    rw [← hd]
    rfl
  have crew_eq : d.crew = (c.startParts job parts (.project root files.length)).crew := by
    rw [eq, crew_joinParts]
  have core : d.Caching job files c.jobs.length x.slots.length := by
    refine begins.caching (moves.sound sound) (stage?_lt hs) unregistered (fun k lt => ?_)
      fun j part => ?_
    · exact (parent_congr crew_eq _).trans (parent_startParts (length ▸ lt))
    · rw [parent_congr crew_eq] at part
      obtain ⟨k, lt, rfl⟩ := exists_part_of_parent alone part
      exact ⟨k, length ▸ lt, rfl⟩
  have joins : d.stage? job =
      some (.joining (List.range' c.jobs.length files.length) (.project root files.length)) := by
    rw [begins.before job (stage?_lt hs), ← length]
    rw [length]
    exact (stage?_setStage_self (stage?_append _ hs) _).trans (by rw [length])
  obtain ⟨left, le, opens⟩ : ∃ left ≤ ((List.range' c.jobs.length files.length).map d.owed).sum,
    Opens tree root job files (d.joinParts job) left := core.joinParts joins
  rw [eq, (joinParts_frame d job).1, (joinParts_frame d job).2]
  refine ⟨⟨left, Nat.le_trans le ?_, opens⟩, begins.config, begins.root⟩
  -- each of the parts waits for the first of its answers
  have each : (List.range' c.jobs.length files.length).map d.owed =
      List.replicate files.length 4 := by
    refine List.eq_replicate_iff.mpr ⟨by rw [List.length_map, List.length_range'], fun n mem => ?_⟩
    obtain ⟨j, among, rfl⟩ := List.mem_map.mp mem
    obtain ⟨k, lt, rfl⟩ := mem_row.mp among
    rw [owed, begins.begun k lt]
    rfl
  rw [each, List.sum_replicate_nat, Nat.mul_comm]

/-- A scan goes on as long as directories are pending. -/
theorem opens_scan (sound : Sound c) {s : Stage} (hs : c.stage? job = some s)
    (isOpen : s.isOpen = true) {pending found dirs rest : List Path}
    (walk : tree.Walk c.config pending dirs rest) (all : files = found ++ rest)
    (apart : files.Pairwise fun p q => p.same q = false) (unregistered : c.registered = [])
    (alone : ∀ j : JobId, (c.jobs[j]?).bind (·.parent) ≠ some job) :
    (∃ left ≤ dirs.length + 4 * files.length,
      Opens tree root job files (c.scan job root found pending) left) ∧
      (c.scan job root found pending).config = c.config ∧
      (c.scan job root found pending).root = c.root := by
  cases pending with
  | nil =>
      cases walk
      rw [List.append_nil] at all
      rw [scan, ← all, List.length_nil, Nat.zero_add]
      exact opens_startParts sound hs isOpen apart unregistered alone
  | cons dir pending =>
      have scans : (c.setStage job (.scanning root (dir :: pending) found)).Collects tree root job
          files dirs.length :=
        ⟨dir :: pending, found, dirs, rest, stage?_setStage_self hs _, List.cons_ne_nil _ _, walk,
          all, rfl⟩
      refine ⟨⟨_, Nat.le_refl _, .scanning scans unregistered fun j part => alone j ?_⟩, rfl, rfl⟩
      exact (parent_congr (crew_setStage c job _) j).symm.trans part

/-! ## Events -/

/-- Who can be answered is under way. -/
theorem stage?_of_expects {a : Answer} (expected : c.expects j a = true) :
    ∃ s, c.stage? j = some s ∧ ∀ outcome, s ≠ .done outcome := by
  cases hs : c.stage? j with
  | none => simp [expects, hs] at expected
  | some s =>
      refine ⟨s, rfl, ?_⟩
      rintro outcome rfl
      simp [expects, hs] at expected

/-- An answer brings a project closer to its end. -/
theorem Opens.answer (h : Opens tree root job files c left) (sound : Sound c)
    (apart : files.Pairwise fun p q => p.same q = false) (alone : c.isAlone job = true) {a : Answer}
    (expected : c.expects j a = true)
    (listed : ∀ x ∈ c.listing? (.answer j a), x.2 = tree.list x.1) :
    (∃ left' < left, Opens tree root job files (c.resume j a) left') ∧
      (c.resume j a).config = c.config ∧ (c.resume j a).root = c.root := by
  obtain ⟨s, at_, goes⟩ := stage?_of_expects expected
  have who := own_of_isAlone alone at_ goes
  cases h with
  | scanning scans unregistered single =>
      -- before its parts there is nothing but the scan to answer
      obtain rfl := who.resolve_right (single j)
      have ⟨_, _, _, _, hs, _⟩ := scans
      obtain ⟨ns, pending, found, dirs, rest, eq, walk, all, rfl⟩ := scans.resume expected listed
      have told : Moves (fun _ _ => True) c (c.notify ns) := moves_notify c ns
      obtain ⟨⟨left, le, opens⟩, frame⟩ :=
        opens_scan (told.sound sound) hs rfl walk all apart unregistered single
      rw [eq]
      exact ⟨⟨left, by omega, opens⟩, frame⟩
  | @caching first start core hs goes =>
      -- the call itself waits for its parts and expects nothing
      rcases who with rfl | part
      · simp [expects, hs] at expected
      · obtain ⟨k, lt, rfl⟩ := core.only part
        exact core.resume sound hs lt expected
  | @cached first start core hs ended =>
      -- with all parts over, nobody expects an answer
      rcases who with rfl | part
      · simp [expects, hs] at expected
      · obtain ⟨k, lt, rfl⟩ := core.only part
        obtain ⟨outcome, at_⟩ := ended k lt
        simp [expects, at_] at expected

/-- Who is under way while a project is opened: its job, or a part that constructs an entry. -/
theorem Opens.under_way (h : Opens tree root job files c left) (alone : c.isAlone job = true)
    {s : Stage} (hs : c.stage? j = some s) (goes : ∀ outcome, s ≠ .done outcome) :
    (j = job ∧ ((∃ root pending found, s = .scanning root pending found) ∨
        ∃ parts plan, s = .joining parts plan)) ∨
      ∃ f path slot, s = .fetching f (.construct slot) ∧ c.Caches job j path slot := by
  have who := own_of_isAlone alone hs goes
  -- a part that is not over constructs its entry
  have constructs : ∀ {first start}, c.Caching job files first start →
      (c.jobs[j]?).bind (·.parent) = some job →
      ∃ f path slot, s = .fetching f (.construct slot) ∧ c.Caches job j path slot := by
    intro first start core part
    obtain ⟨k, lt, rfl⟩ := core.only part
    have caches := core.parts (List.getElem?_eq_getElem lt)
    obtain ⟨_, _, _, -, -, -, -, -, -, ⟨f, hf, -⟩ | ⟨ended, -⟩⟩ := caches.made
    · exact ⟨f, _, _, Option.some.inj (hs.symm.trans hf), caches⟩
    · exact absurd (Option.some.inj (hs.symm.trans ended)) (goes _)
  cases h with
  | scanning scans _ single =>
      obtain rfl := who.resolve_right (single j)
      obtain ⟨_, _, _, _, at_, _⟩ := scans
      exact .inl ⟨rfl, .inl ⟨_, _, _, Option.some.inj (hs.symm.trans at_)⟩⟩
  | caching core joins _ =>
      rcases who with rfl | part
      · exact .inl ⟨rfl, .inr ⟨_, _, Option.some.inj (hs.symm.trans joins)⟩⟩
      · exact .inr (constructs core part)
  | cached core ended _ =>
      rcases who with rfl | part
      · exact absurd (Option.some.inj (hs.symm.trans ended)) (goes _)
      · exact .inr (constructs core part)

/-- No job of a project waits for a construction by another. -/
theorem Opens.not_awaiting (h : Opens tree root job files c left) (alone : c.isAlone job = true)
    {byPath : Bool} : c.stage? j ≠ some (.awaiting slot path byPath) := by
  intro waits
  rcases h.under_way alone waits nofun with ⟨-, ⟨_, _, _, eq⟩ | ⟨_, _, eq⟩⟩ | ⟨_, _, _, eq, -⟩ <;>
    cases eq

/-- Only the job of a project scans. -/
theorem Opens.scans (h : Opens tree root job files c left) (alone : c.isAlone job = true)
    (scanning : c.IsScanning j) : j = job := by
  obtain ⟨root, pending, found, hs⟩ := scanning
  rcases h.under_way alone hs nofun with ⟨own, -⟩ | ⟨_, _, _, eq, -⟩
  · exact own
  · cases eq

/-- While a project is opened only stylesheets are fetched. -/
theorem Opens.sheets (h : Opens tree root job files c left) (alone : c.isAlone job = true)
    (sound : Sound c) : c.FetchesSheets := by
  intro j f e fetches he
  obtain ⟨s, hs, at_⟩ := Option.bind_eq_some_iff.mp fetches
  have goes : ∀ outcome, s ≠ .done outcome := by
    rintro outcome rfl
    cases at_
  rcases h.under_way alone hs goes with ⟨-, ⟨_, _, _, rfl⟩ | ⟨_, _, rfl⟩⟩ |
    ⟨_, path, slot, rfl, part⟩
  · cases at_
  · cases at_
  · obtain rfl := Option.some.inj at_
    exact part.kind sound hs he

/-- What passes of itself while a project is opened brings it closer to its end or leaves it where
it is. -/
theorem Opens.step? (h : Opens tree root job files c left) (sound : Sound c)
    (apart : files.Pairwise fun p q => p.same q = false) (alone : c.Alone job)
    (step : c.step? event = some d) (passive : event.isPassive = true)
    (listed : ∀ x ∈ c.listing? event, x.2 = tree.list x.1) :
    (∃ left', left' + (if event.isAnswer then 1 else 0) ≤ left ∧
        Opens tree root job files d left') ∧
      d.config = c.config ∧ d.root = c.root := by
  -- whatever is no answer leaves the project where it is
  have rests : event.isAnswer = false → Unmoved c d →
      (∃ left', left' + (if event.isAnswer then 1 else 0) ≤ left ∧
        Opens tree root job files d left') ∧ d.config = c.config ∧ d.root = c.root := by
    intro no u
    rw [no]
    exact ⟨⟨left, Nat.le_refl _, h.unmoved u⟩, u.config, u.root⟩
  cases event with
  | answer j a =>
      simp only [Catalog.step?] at step
      split at step
      · next expected =>
          cases step
          obtain ⟨⟨left', lt, opens⟩, frame⟩ := h.answer sound apart alone.jobs expected listed
          exact ⟨⟨left', lt, opens⟩, frame⟩
      · cases step
  | wake j =>
      -- no part waits for another, as their paths are apart
      simp only [Catalog.step?, wake?] at step
      split at step
      · next waits => exact absurd waits (h.not_awaiting alone.jobs)
      · cases step
  | listen n => exact rests rfl (unmoved_listen? sound alone.unheard step)
  | pass ms =>
      cases step
      exact rests rfl { Unmoved.refl c with }
  | clock time =>
      simp only [Catalog.step?] at step
      split at step
      · cases step
        exact rests rfl { Unmoved.refl c with }
      · cases step
  | _ => cases passive

/-- A project that is opened while nothing else is under way comes closer to its end with each
answer. -/
theorem Opens.run (h : Opens tree root job files c left) (run : Run c events d) (sound : Sound c)
    (supervised : Supervised c) (apart : files.Pairwise fun p q => p.same q = false)
    (alone : c.Alone job) (passive : ∀ event ∈ events, event.isPassive = true)
    (listed : ∀ x ∈ c.listings events, x.2 = tree.list x.1) :
    (∃ left', left' + events.countP Event.isAnswer ≤ left ∧ Opens tree root job files d left') ∧
      d.config = c.config ∧ d.root = c.root := by
  induction run generalizing left with
  | nil => exact ⟨⟨left, Nat.le_refl _, h⟩, rfl, rfl⟩
  | @cons c d e event events step run ih =>
      obtain ⟨passes, passive⟩ := List.forall_mem_cons.mp passive
      rw [listings, step] at listed
      obtain ⟨⟨left₁, le₁, opens⟩, config₁, root₁⟩ := h.step? sound apart alone step passes
        fun x mem => listed x (List.mem_append_left _ (Option.mem_toList.mpr mem))
      have still : d.Alone job :=
        alone.step? sound (h.sheets alone.jobs sound) (h.scans alone.jobs) step passes
      obtain ⟨⟨left₂, le₂, opens⟩, config₂, root₂⟩ := ih opens (supervised.sound_step? sound step)
        (supervised.step? sound step) still passive fun x mem =>
          listed x (List.mem_append_right _ mem)
      refine ⟨⟨left₂, ?_, opens⟩, config₂.trans config₁, root₂.trans root₁⟩
      rw [List.countP_cons]
      omega

/-! ## The whole -/

/-- When all jobs are done, all slots are filled. -/
theorem Sound.entry_of_done (sound : Sound c) (done : c.jobs.all Job.isDone = true) {i : SlotId}
    {s : Slot} (hs : c.slots[i]? = some s) : ∃ id, s.entry = some id := by
  cases filled : s.entry with
  | some id => exact ⟨id, rfl⟩
  | none =>
      obtain ⟨j, x, site, -⟩ := sound.built.vacant hs filled
      obtain ⟨stage, at_, constructs⟩ := Option.bind_eq_some_iff.mp site
      obtain ⟨t, ht, rfl⟩ := Option.map_eq_some_iff.mp at_
      have ended := List.all_eq_true.mp done t (List.mem_of_getElem? ht)
      obtain ⟨stage, parent, ofCatalog⟩ := t
      cases stage with
      | done => cases constructs
      | _ => cases ended

/-- A project that is opened is scanned from its root, with nothing registered any more. -/
theorem start_openProject (c : Catalog) (root : Path) :
    (c.start (.openProject root)).1.config = c.config ∧
      (c.start (.openProject root)).1.root = some root ∧
      (c.start (.openProject root)).1.registered = [] ∧
      ∀ i ∈ c.registered, ∀ id, (c.slots[i]?).bind (·.entry) = some id →
        ∀ e, (c.start (.openProject root)).1.entries[id]? = some e → e.isDisposed = true := by
  obtain ⟨es, eq, -, gone⟩ := reset_spec (c.addJob { stage := .starting }).1
  have started : (c.start (.openProject root)).1 =
      { (c.addJob { stage := .starting }).1.reset with root := some root }.setStage c.jobs.length
        (.scanning root [root] []) := rfl
  rw [started, eq]
  exact ⟨rfl, rfl, rfl, gone⟩

/-- Neither is the new job a part of another, nor does it have parts. -/
theorem parent_openProject (c : Catalog) (root : Path) (j : JobId) :
    ((c.start (.openProject root)).1.jobs[j]?).bind (·.parent) = (c.jobs[j]?).bind (·.parent) := by
  let fresh : Job := { stage := .starting }
  have crew_eq : (c.start (.openProject root)).1.crew = (c.addJob fresh).1.crew :=
    (crew_setStage _ _ _).trans (crew_reset _)
  rw [parent_congr crew_eq]
  show ((c.jobs ++ [fresh])[j]?).bind _ = _
  rcases Nat.lt_trichotomy j c.jobs.length with lt | rfl | gt
  · rw [List.getElem?_append_left lt]
  · simp [fresh]
  · rw [List.getElem?_eq_none (Nat.le_of_lt gt),
      List.getElem?_eq_none (by simpa using Nat.succ_le_of_lt gt)]

/-- The config stays along a run. -/
theorem config_of_run (run : Run c events d) : d.config = c.config :=
  run.invariant (p := fun x => x.config = c.config)
    (fun _ _ _ same step => (config_of_step? step).trans same) rfl

/-- As long as a project is not over, some answer is awaited. -/
theorem Opens.opening (h : Opens tree root job files d left)
    (project : List.Forall₂ d.HoldsSheet d.registered files → IsProject d root files c)
    (sound : Sound d) : Opening d root job files c := by
  cases h with
  | scanning scans =>
      -- a scan that goes on has a directory to list
      obtain ⟨pending, found, dirs, rest, hs, more, -⟩ := scans
      cases pending with
      | nil => exact absurd rfl more
      | cons dir pending =>
          exact .waits job (.list dir) (outcome?_of_goes hs (by simp)) (.inl rfl)
            (by rw [request?, hs])
  | @caching first start core hs goes =>
      -- a part that goes on waits for the answer to its fetch
      obtain ⟨k, lt, f, purpose, hf⟩ := goes
      have part := core.parts (List.getElem?_eq_getElem lt)
      obtain ⟨s, id, e, -, -, -, -, -, -, way⟩ := part.made
      rcases way with ⟨f', hf', -, single⟩ | ⟨ended, -⟩
      · obtain ⟨rfl, rfl⟩ : f = f' ∧ purpose = .construct (start + k) := by
          simpa using hf.symm.trans hf'
        obtain ⟨request, awaits⟩ :=
          Option.isSome_iff_exists.mp (Fetch.request?_isSome single (d.pathOf f.entry))
        refine .waits (first + k) request (outcome?_of_goes hs (by simp)) (.inr part.parent) ?_
        rw [Catalog.request?, hf]
        exact awaits
      · cases hf.symm.trans ended
  | cached core hs ended =>
      exact .opened (outcome?_of_done hs) (project (core.holdsSheets sound ended))

/-- A tree of files that does not change is finite. Then there are a number of listings and a list
of stylesheets, no two of them at one place, which are exactly those that lie below the root,
without failures and exclusions on the way, such that the following holds. Take any run, then the
call to open a project at this root, and then again any run, in which directories are listed as the
tree has them.

The job of the call scans the tree until it has had this number of listings, whatever else happens,
and then starts a part for each of these stylesheets. If nothing was under way and no links were
left for the listeners, and no more calls are made, no more than so many answers follow in all, and
as long as the job is not done some answer is awaited. When it is done its outcome is the number of
these stylesheets, the project has its root, a live entry is registered for each of them and for
nothing else, whatever the fetches came to, and whatever was registered before is disposed of. -/
theorem project_is_opened (finite : tree.IsFinite) (config : Config) (root : Path) :
    ∃ (n : Nat) (files : List Path), files.Pairwise (fun p q => p.same q = false) ∧
      (∀ file, file ∈ files ↔ tree.Finds config root file) ∧
      ∀ {clock : Time} {early : List Event} {c : Catalog} {events : List Event} {d : Catalog},
        Run (new config clock) early c → Run (c.start (.openProject root)).1 events d →
        (∀ x ∈ (c.start (.openProject root)).1.listings events, x.2 = tree.list x.1) →
        Scanned (c.start (.openProject root)).1 c.jobs.length root files n events d ∧
          (c.jobs.all Job.isDone = true → c.LinksHeard →
            (∀ event ∈ events, event.isPassive = true) →
            events.countP Event.isAnswer ≤ n + 4 * files.length ∧
              Opening d root c.jobs.length files c) := by
  obtain ⟨dirs, files, walk⟩ := finite.exists_walk config [root]
  have apart := walk.apart_found finite (List.pairwise_singleton _ root)
  refine ⟨dirs.length, files, apart, fun file => ?_,
    fun {clock early c events d} before run listed => ?_⟩
  · rw [walk.mem_found_iff finite]
    simp
  · obtain ⟨sound, supervised⟩ := sound_of_run before
    obtain ⟨config_eq, root_eq, registered_eq, gone⟩ := start_openProject c root
    have call : Run c [.call (.openProject root)] (c.start (.openProject root)).1 :=
      .cons rfl (.nil _)
    obtain ⟨sound', supervised'⟩ := sound_along call sound supervised
    -- at first the root alone is to be listed
    have scans : (c.start (.openProject root)).1.Collects tree root c.jobs.length files
        dirs.length := by
      refine ⟨[root], [], dirs, files, ?_, List.cons_ne_nil _ _, ?_, rfl, rfl⟩
      · rw [stage?_openProject, if_pos rfl]
      · rw [config_eq, config_of_run before]
        exact walk
    refine ⟨scans.run run sound' supervised' listed, fun done heard passive => ?_⟩
    have opens : Opens tree root c.jobs.length files (c.start (.openProject root)).1
        (dirs.length + 4 * files.length) := by
      refine .scanning scans registered_eq fun j part => ?_
      rw [parent_openProject] at part
      obtain ⟨t, ht, part⟩ := Option.bind_eq_some_iff.mp part
      exact Nat.lt_irrefl _ (supervised.known ht part)
    obtain ⟨⟨left, le, opens⟩, -, root_eq'⟩ :=
      opens.run run sound' supervised' apart (alone_start done heard _) passive listed
    refine ⟨Nat.le_trans (Nat.le_add_left _ _) le,
      opens.opening (fun sheets => ⟨root_eq'.trans root_eq, sheets, fun i mem => ?_⟩)
        (sound_along run sound' supervised').1⟩
    -- what was registered before was disposed of at the reset, and stays so
    have lt : i < c.slots.length := (sound.registered.lt i mem).trans_eq (List.length_map _)
    have hs : c.slots[i]? = some c.slots[i] := List.getElem?_eq_getElem lt
    obtain ⟨id, filled⟩ := sound.entry_of_done done hs
    obtain ⟨-, e, -, -, he, -⟩ := sound.filled hs filled
    obtain ⟨e₁, he₁, -⟩ := entry_of_run call he
    obtain ⟨e₂, he₂, lasts⟩ := entry_of_run run he₁
    refine ⟨_, id, e₂, hs, filled, he₂, lasts.disposed (gone i mem id ?_ e₁ he₁)⟩
    rw [hs]
    exact filled

/-- A tree with a stylesheet, a directory that a configuration may exclude and one that cannot be
listed. -/
def lockedTree : FileTree where
  members dir :=
    if dir = ⟨"/p"⟩ then
      [⟨⟨"/p/a.css"⟩, "a.css", true, false⟩, ⟨⟨"/p/skip"⟩, "skip", false, true⟩,
        ⟨⟨"/p/locked"⟩, "locked", false, true⟩]
    else if dir = ⟨"/p/skip"⟩ then [⟨⟨"/p/skip/b.css"⟩, "b.css", true, false⟩]
    else []
  failure? dir := if dir = ⟨"/p/locked"⟩ then some (.readFailed dir "denied") else none

theorem lockedTree_cases {dir : Path} {m : DirEntry} (mem : m ∈ lockedTree.members dir) :
    dir = ⟨"/p"⟩ ∧ m ∈ lockedTree.members ⟨"/p"⟩ ∨
      dir = ⟨"/p/skip"⟩ ∧ m ∈ lockedTree.members ⟨"/p/skip"⟩ := by
  simp only [lockedTree] at mem
  split at mem
  · next at_ => exact .inl ⟨at_, mem⟩
  · split at mem
    · next at_ => exact .inr ⟨at_, mem⟩
    · cases mem

theorem isFinite_lockedTree : lockedTree.IsFinite where
  child {dir m} mem := by
    have here : ∀ m ∈ lockedTree.members ⟨"/p"⟩,
        m.path.parts = (⟨"/p"⟩ : Path).parts ++ [.name m.name] := by decide +kernel
    have skipped : ∀ m ∈ lockedTree.members ⟨"/p/skip"⟩,
        m.path.parts = (⟨"/p/skip"⟩ : Path).parts ++ [.name m.name] := by decide +kernel
    rcases lockedTree_cases mem with ⟨rfl, mem⟩ | ⟨rfl, mem⟩
    · exact ⟨m.name, here m mem⟩
    · exact ⟨m.name, skipped m mem⟩
  once dir := by
    simp only [lockedTree]
    split
    · decide +kernel
    · split
      · exact List.pairwise_singleton _ _
      · exact .nil
  kind {dir m} mem := by
    have here : ∀ m ∈ lockedTree.members ⟨"/p"⟩, m.isFile = true → m.isDirectory = false := by
      decide +kernel
    have skipped : ∀ m ∈ lockedTree.members ⟨"/p/skip"⟩, m.isFile = true →
        m.isDirectory = false := by
      decide +kernel
    rcases lockedTree_cases mem with ⟨rfl, mem⟩ | ⟨rfl, mem⟩
    · exact here m mem
    · exact skipped m mem
  finite := by
    -- only the root has subdirectories, and it is none itself
    refine Subrelation.wf ?_ (measure fun dir : Path => if dir = ⟨"/p"⟩ then 1 else 0).wf
    rintro sub dir ⟨m, mem, isDir, rfl⟩
    have here : ∀ m ∈ lockedTree.members ⟨"/p"⟩, m.path ≠ ⟨"/p"⟩ := by decide +kernel
    have skipped : ∀ m ∈ lockedTree.members ⟨"/p/skip"⟩, m.isDirectory = false := by decide +kernel
    show (if m.path = ⟨"/p"⟩ then 1 else 0) < if dir = ⟨"/p"⟩ then 1 else 0
    rcases lockedTree_cases mem with ⟨rfl, mem⟩ | ⟨rfl, mem⟩
    · rw [if_neg (here m mem), if_pos rfl]
      exact Nat.zero_lt_one
    · cases isDir.symm.trans (skipped m mem)

/-- A catalogue that skips a directory has one stylesheet. -/
def beforeLocked : List Event :=
  .call (.create .css ⟨"/old.css"⟩ false) :: emptyFile 0

/-- Then the project of that tree is opened, and its stylesheet turns out to be gone. -/
def openingLocked : List Event :=
  [.answer 1 (.listing (lockedTree.list ⟨"/p"⟩)), .listen 0,
    .answer 1 (.listing (lockedTree.list ⟨"/p/locked"⟩)),
    .answer 2 (.stat (.error (.notFound ⟨"/p/a.css"⟩)))]

/-- The stylesheet that could not be read is registered. -/
theorem lockedProject_is_opened :
    ∃ n files c d, Run (new { excludeDirs := ["skip"] } 0) beforeLocked c ∧
      Run (c.start (.openProject ⟨"/p"⟩)).1 openingLocked d ∧
      (∀ file, file ∈ files ↔ lockedTree.Finds { excludeDirs := ["skip"] } ⟨"/p"⟩ file) ∧
      openingLocked.countP Event.isAnswer ≤ n + 4 * files.length ∧ 1 = files.length ∧
      IsProject d ⟨"/p"⟩ files c := by
  obtain ⟨n, files, -, found, opens⟩ :=
    project_is_opened isFinite_lockedTree { excludeDirs := ["skip"] } ⟨"/p"⟩
  have first : ((new { excludeDirs := ["skip"] } 0).replay? beforeLocked).bind (fun c =>
      ((c.start (.openProject ⟨"/p"⟩)).1.replay? openingLocked).map fun d =>
        (c.jobs.length, c.jobs.all Job.isDone, d.registered.length, (d.outcome? 1).isSome)) =
      some (1, true, 1, true) := by
    decide +kernel
  have along : ((new { excludeDirs := ["skip"] } 0).replay? beforeLocked).map (fun c =>
      (((c.start (.openProject ⟨"/p"⟩)).1.listings openingLocked).all fun x =>
        x.2 == lockedTree.list x.1, decide c.LinksHeard)) = some (true, true) := by
    decide +kernel
  obtain ⟨c, hc, later⟩ := Option.bind_eq_some_iff.mp first
  obtain ⟨d, hd, facts⟩ := Option.map_eq_some_iff.mp later
  simp only [Prod.mk.injEq] at facts
  obtain ⟨job, done, registered, outcome⟩ := facts
  rw [hc, Option.map_some, Option.some.injEq, Prod.mk.injEq] at along
  obtain ⟨listed, heard⟩ := along
  have before := run_iff_replay?.mpr hc
  have run := run_iff_replay?.mpr hd
  -- the steps taken are those of the theorem, so only its ending is left
  obtain ⟨bound, opening⟩ := (opens before run
    (fun x mem => eq_of_beq (List.all_eq_true.mp listed x mem))).2 done
    (of_decide_eq_true heard) (by decide)
  refine ⟨n, files, c, d, before, run, found, bound, ?_⟩
  cases opening with
  | waits _ _ goes =>
      rw [job] at goes
      rw [goes] at outcome
      cases outcome
  | opened _ project => exact ⟨registered.symm.trans project.registered.length_eq, project⟩

/-- A tree of empty directories. -/
def bareTree : FileTree where
  members _ := []
  failure? _ := none

theorem isFinite_bareTree : bareTree.IsFinite where
  child mem := by cases mem
  once _ := .nil
  kind mem := by cases mem
  finite := by
    constructor
    intro dir
    constructor
    rintro sub ⟨m, mem, -⟩
    cases mem

/-- A document has been read, whose listener has yet to hear of the link. -/
def beforeBare : List Event :=
  [.call (.create .html ⟨"/i.html"⟩ false), .answer 0 (.stat (.ok ⟨0, 32⟩)),
    .answer 0 (.text (.ok "<link rel=stylesheet href=a.css>")), .answer 0 .built]

/-- The link is attached while the project is scanned. -/
def openingBare : List Event :=
  [.listen 0, .answer 3 (.resolved (.ok ⟨"/a.css"⟩))] ++ emptyFile 3 ++
    [.answer 1 (.listing (bareTree.list ⟨"/p"⟩))]

/-- With no job under way a project without stylesheets is opened, in a finite tree. When that is
done a stylesheet is registered that lies elsewhere. -/
theorem opening_lets_in :
    bareTree.IsFinite ∧ ∃ c d, Run (new {} 0) beforeBare c ∧ c.jobs.all Job.isDone = true ∧
      Run (c.start (.openProject ⟨"/p"⟩)).1 openingBare d ∧
      (∀ event ∈ openingBare, event.isPassive = true) ∧
      (∀ x ∈ (c.start (.openProject ⟨"/p"⟩)).1.listings openingBare, x.2 = bareTree.list x.1) ∧
      (d.outcome? c.jobs.length).isSome = true ∧ (d.find? ⟨"/a.css"⟩).isSome = true ∧
      ¬bareTree.Finds {} ⟨"/p"⟩ ⟨"/a.css"⟩ := by
  have facts : ((new {} 0).replay? beforeBare).bind (fun c =>
      ((c.start (.openProject ⟨"/p"⟩)).1.replay? openingBare).map fun d =>
        (c.jobs.all Job.isDone && (d.find? ⟨"/a.css"⟩).isSome,
          ((c.start (.openProject ⟨"/p"⟩)).1.listings openingBare).all fun x =>
            x.2 == bareTree.list x.1, (d.outcome? c.jobs.length).isSome)) =
      some (true, true, true) := by
    decide +kernel
  obtain ⟨c, hc, facts⟩ := Option.bind_eq_some_iff.mp facts
  obtain ⟨d, hd, facts⟩ := Option.map_eq_some_iff.mp facts
  simp only [Prod.mk.injEq, Bool.and_eq_true] at facts
  obtain ⟨⟨done, found⟩, listed, outcome⟩ := facts
  refine ⟨isFinite_bareTree, c, d, run_iff_replay?.mpr hc, done, run_iff_replay?.mpr hd, by decide,
    fun x mem => ?_, outcome, found, ?_⟩
  · exact eq_of_beq (List.all_eq_true.mp listed x mem)
  · rintro ⟨way, dir, m, -, -, -, mem, -⟩
    cases mem

end SelectorCatalog.Catalog
