import SelectorCatalog.Proofs.Catalog.Lookup

/-!
# Scans

A scan lists the directories below a root one after the other and collects stylesheets. On a tree of
files that does not change, what it does is a walk (`FileTree.Walk`): the directories that are
pending determine which will be listed and what will be found. Every walk comes to an end
(`exists_walk`), what it finds is what lies at the end of a way without failures and exclusions
(`Walk.mem_found_iff`), and nothing is found twice (`Walk.apart_found`).
-/

namespace SelectorCatalog

/-- A tree of files that does not change: the members of each directory, and why a directory cannot
be listed. -/
structure FileTree where
  members : Path → List DirEntry
  failure? : Path → Option Error

namespace FileTree

/-- What is answered when a directory is to be listed. -/
def list (tree : FileTree) (dir : Path) : Except Error (List DirEntry) :=
  match tree.failure? dir with
  | some error => .error error
  | none => .ok (tree.members dir)

/-- Members are direct children, each of them once and either a file or a directory, and there is no
endless way down. -/
structure IsFinite (tree : FileTree) : Prop where
  child : ∀ {dir m}, m ∈ tree.members dir → ∃ name, m.path.parts = dir.parts ++ [.name name]
  once : ∀ dir, (tree.members dir).Pairwise fun m n => m.path.same n.path = false
  kind : ∀ {dir m}, m ∈ tree.members dir → m.isFile = true → m.isDirectory = false
  finite : WellFounded fun sub dir => ∃ m ∈ tree.members dir, m.isDirectory = true ∧ m.path = sub

/-- The directories on the way down to a directory, the one at the top apart. -/
inductive Way (tree : FileTree) : Path → List DirEntry → Path → Prop where
  | here (dir : Path) : Way tree dir [] dir
  | down {top dir : Path} {m : DirEntry} {way : List DirEntry} : m ∈ tree.members top →
    m.isDirectory = true → Way tree m.path way dir → Way tree top (m :: way) dir

/-- A stylesheet lies below a root, the root and all directories on the way can be listed, and none
on the way has an excluded name. -/
def Finds (tree : FileTree) (config : Config) (root file : Path) : Prop :=
  ∃ way dir m, tree.Way root way dir ∧ tree.failure? root = none ∧
    (∀ sub ∈ way, tree.failure? sub.path = none ∧ config.isExcluded sub.name = false) ∧
    m ∈ tree.members dir ∧ m.isFile = true ∧ m.path = file ∧ config.isStylesheet file = true

/-- The rest of a scan: the directories that will be listed, and the stylesheets that will be found.
-/
inductive Walk (tree : FileTree) (config : Config) : List Path → List Path → List Path → Prop where
  | empty : Walk tree config [] [] []
  | failed {dir : Path} {pending dirs found : List Path} {error : Error} :
    tree.failure? dir = some error → Walk tree config pending dirs found →
    Walk tree config (dir :: pending) (dir :: dirs) found
  | listed {dir : Path} {pending dirs found : List Path} : tree.failure? dir = none →
    Walk tree config
      ((Catalog.subdirectories config (tree.members dir)).reverse ++ pending) dirs found →
    Walk tree config (dir :: pending) (dir :: dirs)
      (Catalog.stylesheetsIn config (tree.members dir) ++ found)

/-- Neither of two paths is above the other, and they are not the same. -/
def Apart (p q : Path) : Prop :=
  ¬p.parts <+: q.parts ∧ ¬q.parts <+: p.parts

variable {tree : FileTree} {config : Config} {root dir sub file p q : Path}
  {pending dirs found : List Path} {m : DirEntry}

/-! ## Members -/

/-- Of a listing the files are taken that have the extension of a stylesheet. -/
theorem mem_stylesheetsIn {members : List DirEntry} (kind : ∀ m ∈ members, m.isFile = true →
    m.isDirectory = false) : file ∈ Catalog.stylesheetsIn config members ↔
      ∃ m ∈ members, m.isFile = true ∧ m.path = file ∧ config.isStylesheet file = true := by
  simp only [Catalog.stylesheetsIn, List.mem_map, List.mem_filter]
  constructor
  · rintro ⟨m, ⟨mem, kept⟩, rfl⟩
    simp only [Bool.and_eq_true] at kept
    exact ⟨m, mem, kept.1.2, rfl, kept.2⟩
  · rintro ⟨m, mem, isFile, rfl, sheet⟩
    exact ⟨m, ⟨mem, by simp [kind m mem isFile, isFile, sheet]⟩, rfl⟩

/-- The directories are gone into that are not excluded by their name. -/
theorem mem_subdirectories {members : List DirEntry} :
    sub ∈ Catalog.subdirectories config members ↔
      ∃ m ∈ members, m.isDirectory = true ∧ config.isExcluded m.name = false ∧ m.path = sub := by
  simp [Catalog.subdirectories, and_assoc]

/-- A stylesheet is found directly in a directory, or below one of its subdirectories. -/
theorem IsFinite.finds_iff (finite : tree.IsFinite) : tree.Finds config dir file ↔
    tree.failure? dir = none ∧ (file ∈ Catalog.stylesheetsIn config (tree.members dir) ∨
      ∃ sub ∈ Catalog.subdirectories config (tree.members dir), tree.Finds config sub file) := by
  simp only [mem_stylesheetsIn fun m => finite.kind, mem_subdirectories]
  constructor
  · rintro ⟨way, bottom, m, down, opens, allowed, found⟩
    refine ⟨opens, ?_⟩
    cases down with
    | here => exact .inl ⟨m, found⟩
    | @down _ _ s way mem isDir rest =>
        obtain ⟨⟨opens', kept⟩, allowed⟩ := List.forall_mem_cons.mp allowed
        exact .inr ⟨s.path, ⟨s, mem, isDir, kept, rfl⟩, way, bottom, m, rest, opens', allowed,
          found⟩
  · rintro ⟨opens, ⟨m, found⟩ | ⟨_, ⟨s, mem, isDir, kept, rfl⟩, way, bottom, m, down, opens',
      allowed, found⟩⟩
    · exact ⟨[], dir, m, .here dir, opens, nofun, found⟩
    · exact ⟨s :: way, bottom, m, .down mem isDir down, opens,
        List.forall_mem_cons.mpr ⟨⟨opens', kept⟩, allowed⟩, found⟩

/-! ## Walks -/

/-- What a walk finds is what is found below the directories that are pending. -/
theorem Walk.mem_found_iff (walk : tree.Walk config pending dirs found) (finite : tree.IsFinite) :
    file ∈ found ↔ ∃ dir ∈ pending, tree.Finds config dir file := by
  induction walk with
  | empty => simp
  | @failed dir pending dirs found error closed _ ih =>
      have nothing : ¬tree.Finds config dir file := by
        rw [finite.finds_iff, closed]
        exact fun h => nomatch h.1
      simp [ih, nothing]
  | @listed dir pending dirs found opens _ ih =>
      have here : tree.Finds config dir file ↔ _ := finite.finds_iff
      rw [List.mem_append, ih, List.exists_mem_cons_iff, here]
      simp only [List.mem_append, List.mem_reverse, or_and_right, exists_or, opens, true_and,
        or_assoc]

/-- Every walk comes to an end. -/
theorem IsFinite.exists_walk (finite : tree.IsFinite) (config : Config) (pending : List Path) :
    ∃ dirs found, tree.Walk config pending dirs found := by
  have further : ∀ dir pending, (∃ dirs found, tree.Walk config pending dirs found) →
      ∃ dirs found, tree.Walk config (dir :: pending) dirs found := by
    intro dir
    -- by induction on the tree below the directory
    induction dir using finite.finite.induction with
    | _ dir ih =>
      rintro pending ⟨dirs, found, walk⟩
      cases opens : tree.failure? dir with
      | some error => exact ⟨_, _, .failed opens walk⟩
      | none =>
          have below : ∀ subs : List Path,
              (∀ sub ∈ subs, sub ∈ Catalog.subdirectories config (tree.members dir)) →
              ∃ dirs found, tree.Walk config (subs ++ pending) dirs found := by
            intro subs among
            induction subs with
            | nil => exact ⟨dirs, found, walk⟩
            | cons sub subs rest =>
                obtain ⟨first, others⟩ := List.forall_mem_cons.mp among
                obtain ⟨m, mem, isDir, -, path⟩ := mem_subdirectories.mp first
                exact ih sub ⟨m, mem, isDir, path⟩ _ (rest others)
          obtain ⟨dirs', found', walk'⟩ := below _ fun sub mem => List.mem_reverse.mp mem
          exact ⟨_, _, .listed opens walk'⟩
  induction pending with
  | nil => exact ⟨[], [], .empty⟩
  | cons dir pending ih => exact further dir pending ih

/-! ## Places -/

theorem IsFinite.length_child (finite : tree.IsFinite) (mem : m ∈ tree.members dir) :
    dir.parts <+: m.path.parts ∧ m.path.parts.length = dir.parts.length + 1 := by
  obtain ⟨name, eq⟩ := finite.child mem
  exact ⟨⟨_, eq.symm⟩, by rw [eq, List.length_append]; rfl⟩

/-- A way leads to places below where it starts. -/
theorem Way.prefix {way : List DirEntry} (down : tree.Way root way dir) (finite : tree.IsFinite) :
    root.parts <+: dir.parts := by
  induction down with
  | here => exact List.prefix_rfl
  | down mem _ _ ih => exact (finite.length_child mem).1.trans ih

/-- What is found lies below where it is found from. -/
theorem Finds.below (finds : tree.Finds config root file) (finite : tree.IsFinite) :
    root.parts <+: file.parts ∧ root.parts.length < file.parts.length := by
  obtain ⟨way, dir, m, down, -, -, mem, -, rfl, -⟩ := finds
  obtain ⟨under, length⟩ := finite.length_child mem
  have above := down.prefix finite
  exact ⟨above.trans under, by rw [length]; exact Nat.lt_succ_of_le above.length_le⟩

/-- The subdirectories of a directory are apart from each other, and from what the directory is
apart from. -/
theorem IsFinite.apart_subdirectories (finite : tree.IsFinite)
    (apart : (dir :: pending).Pairwise Apart) :
    ((Catalog.subdirectories config (tree.members dir)).reverse ++ pending).Pairwise Apart := by
  obtain ⟨top, rest⟩ := List.pairwise_cons.mp apart
  refine List.pairwise_append.mpr ⟨List.pairwise_reverse.mpr ?_, rest, ?_⟩
  · refine List.pairwise_map.mpr (((finite.once dir).filter _).imp_of_mem ?_)
    intro m n mem_m mem_n other
    have same_length : m.path.parts.length = n.path.parts.length := by
      rw [(finite.length_child (List.mem_of_mem_filter mem_m)).2,
        (finite.length_child (List.mem_of_mem_filter mem_n)).2]
    have differ : m.path.parts ≠ n.path.parts := fun eq => by
      rw [Path.same_iff.mpr eq] at other
      cases other
    exact ⟨fun below => differ (below.eq_of_length same_length.symm).symm,
      fun below => differ (below.eq_of_length same_length)⟩
  · intro sub mem_sub q mem_q
    obtain ⟨m, mem, -, -, rfl⟩ := mem_subdirectories.mp (List.mem_reverse.mp mem_sub)
    obtain ⟨under, length⟩ := finite.length_child mem
    obtain ⟨not_above, not_below⟩ := top q mem_q
    refine ⟨fun below => not_above (under.trans below), fun below => ?_⟩
    -- a prefix of the child is a prefix of the directory, or the child itself
    rcases Nat.lt_or_ge dir.parts.length q.parts.length with lt | le
    · exact not_above (List.prefix_of_prefix_length_le under below (Nat.le_of_lt lt))
    · exact not_below (List.prefix_of_prefix_length_le below under le)

/-- No walk finds two files of one place. -/
theorem Walk.apart_found (walk : tree.Walk config pending dirs found) (finite : tree.IsFinite)
    (apart : pending.Pairwise Apart) : found.Pairwise fun p q => p.same q = false := by
  induction walk with
  | empty => exact .nil
  | failed _ _ ih => exact ih (List.pairwise_cons.mp apart).2
  | @listed dir pending dirs found opens walk ih =>
      obtain ⟨top, -⟩ := List.pairwise_cons.mp apart
      refine List.pairwise_append.mpr
        ⟨List.pairwise_map.mpr ((finite.once dir).filter _), ih (finite.apart_subdirectories apart),
          fun p mem_p q mem_q => Bool.eq_false_iff.mpr fun same => ?_⟩
      obtain ⟨m, mem, -, rfl, -⟩ := (mem_stylesheetsIn fun m => finite.kind).mp mem_p
      obtain ⟨under, length⟩ := finite.length_child mem
      obtain ⟨from_, listed, finds⟩ := (walk.mem_found_iff finite).mp mem_q
      obtain ⟨above, deeper⟩ := finds.below finite
      rw [← Path.same_iff.mp same] at above deeper
      -- a file of the directory itself is no file of what is left
      rcases List.mem_append.mp listed with listed | listed
      · obtain ⟨s, mem_s, -, -, rfl⟩ := mem_subdirectories.mp (List.mem_reverse.mp listed)
        rw [length, (finite.length_child mem_s).2] at deeper
        exact Nat.lt_irrefl _ deeper
      · rw [length] at deeper
        exact (top _ listed).2
          (List.prefix_of_prefix_length_le above under (Nat.le_of_lt_succ deeper))

end FileTree

namespace Catalog

open Job (Outcome Purpose Plan Stage Leads Act)

/-- Whether an event is an answer to a job. -/
def Event.isAnswerTo (job : JobId) : Event → Bool
  | .answer j _ => j == job
  | _ => false

/-- The directory that an event brings the listing of, and the listing. -/
def listing? (c : Catalog) : Event → Option (Path × Except Error (List DirEntry))
  | .answer job (.listing result) =>
    match c.stage? job with
    | some (.scanning _ (dir :: _) _) => some (dir, result)
    | _ => none
  | _ => none

/-- All directories that are listed along a list of events, with the listings. -/
def listings (c : Catalog) : List Event → List (Path × Except Error (List DirEntry))
  | [] => []
  | event :: events =>
    match c.step? event with
    | some d => (c.listing? event).toList ++ d.listings events
    | none => []

/-- A job scans, and has `left` directories before it until it has found these files. -/
def Collects (c : Catalog) (tree : FileTree) (root : Path) (job : JobId) (files : List Path)
    (left : Nat) : Prop :=
  ∃ pending found dirs rest, c.stage? job = some (.scanning root pending found) ∧ pending ≠ [] ∧
    tree.Walk c.config pending dirs rest ∧ files = found ++ rest ∧ dirs.length = left

/-- What a job that scans has come to: it waits for the next of `n` listings, or the last of them
let it go on with the files found, and a part was started for each. -/
inductive Scanned (c : Catalog) (job : JobId) (root : Path) (files : List Path) (n : Nat)
    (events : List Event) (d : Catalog) : Prop where
  | waits (dir : Path) : events.countP (Event.isAnswerTo job) < n →
    d.request? job = some (.list dir) → Scanned c job root files n events d
  | goesOn {early late : List Event} {a : Answer} {x : Catalog} (ns : List Notice) :
    events = early ++ .answer job a :: late → early.countP (Event.isAnswerTo job) + 1 = n →
    Run c early x → Run ((x.notify ns).startParts job
      (files.map fun path => .create path false) (.project root files.length)) late d →
    Scanned c job root files n events d

variable {tree : FileTree} {event : Event} {events : List Event} {c d e : Catalog}
    {id j job : JobId}
  {root p : Path} {pending found files : List Path} {left : Nat} {s : Stage} {a : Answer}

/-! ## The configuration -/

@[simp] theorem config_setStage (c : Catalog) (id : JobId) (s : Stage) :
    (c.setStage id s).config = c.config := rfl

@[simp] theorem config_notify (c : Catalog) (ns : List Notice) : (c.notify ns).config = c.config :=
  rfl

@[simp] theorem config_joinParts (c : Catalog) (id : JobId) :
    (c.joinParts id).config = c.config := by
  obtain eq | ⟨_, _, _, rs, es, ns, -, -, eq⟩ := joinParts_spec c id
  · rw [eq]
  · rw [eq]
    rfl

@[simp] theorem config_complete (c : Catalog) (id : JobId) (outcome : Outcome) :
    (c.complete id outcome).config = c.config := by
  rw [complete]
  split
  · exact config_joinParts _ _
  · rfl

@[simp] theorem config_afterFetch (c : Catalog) (id : JobId) (entry : EntryId)
    (result : Except Error Unit) (purpose : Purpose) :
    (c.afterFetch id entry result purpose).config = c.config := by
  cases purpose with
  | construct slot =>
      simp only [afterFetch, afterConstruction]
      split <;> rw [config_complete] <;> rfl
  | refresh | saved | direct => simp [afterFetch]
  | update | opened => cases result <;> simp [afterFetch]

@[simp] theorem config_startFetch (c : Catalog) (id : JobId) (entry : EntryId) (purpose : Purpose) :
    (c.startFetch id entry purpose).config = c.config := by
  rw [startFetch]
  split
  · rfl
  · split
    · exact config_afterFetch _ _ _ _ _
    · rfl

@[simp] theorem config_resumeFetch (c : Catalog) (id : JobId) (f : Fetch) (purpose : Purpose)
    (a : Answer) : (c.resumeFetch id f purpose a).config = c.config := by
  rw [resumeFetch]
  split
  · rfl
  · dsimp only
    split
    · rfl
    · exact config_afterFetch _ _ _ _ _

@[simp] theorem config_share (c : Catalog) (id : JobId) (slot : SlotId) (entry : EntryId)
    (path : Path) (byPath : Bool) : (c.share id slot entry path byPath).config = c.config := by
  rw [share]
  split
  · simp
  · split <;> simp

@[simp] theorem config_createAt (c : Catalog) (id : JobId) (kind : EntryKind) (path : Path)
    (byPath : Bool) : (c.createAt id kind path byPath).config = c.config := by
  cases found : c.find? path with
  | none =>
      rw [createAt_of_none found]
      rfl
  | some found' =>
      rw [createAt_of_some found]
      split
      · cases found'.2.entry <;> simp
      · simp

@[simp] theorem config_startCreate (c : Catalog) (id : JobId) (kind : EntryKind) (path : Path)
    (byPath : Bool) : (c.startCreate id kind path byPath).config = c.config := by
  rw [startCreate]
  split <;> simp

@[simp] theorem config_startCheck (c : Catalog) (id : JobId) (entry : EntryId) :
    (c.startCheck id entry).config = c.config := by
  rw [startCheck]
  split <;> simp

@[simp] theorem config_afterStat (c : Catalog) (id : JobId) (entry : EntryId)
    (result : Except Error FileStat) : (c.afterStat id entry result).config = c.config := by
  cases result with
  | error error =>
      simp only [afterStat]
      split
      · rw [config_complete]
        rfl
      · simp
  | ok stat =>
      simp only [afterStat]
      split <;> simp

@[simp] theorem config_startPartsFrom (parts : List Part) (c : Catalog) (first : JobId) :
    (c.startPartsFrom first parts).config = c.config := by
  induction parts generalizing c first with
  | nil => rfl
  | cons part rest ih =>
      rw [startPartsFrom, ih]
      cases part <;> simp [startPart]

@[simp] theorem config_startParts (c : Catalog) (id : JobId) (parts : List Part) (plan : Plan) :
    (c.startParts id parts plan).config = c.config := by
  rw [startParts_eq, config_joinParts, config_startPartsFrom]
  rfl

@[simp] theorem config_scan (c : Catalog) (id : JobId) (root : Path) (found pending : List Path) :
    (c.scan id root found pending).config = c.config := by
  cases pending <;> simp [scan]

@[simp] theorem config_remove (c : Catalog) (path : Path) :
    (c.remove path).1.config = c.config := by
  obtain ⟨rs, es, eq, -⟩ := remove_spec c path
  rw [eq]

@[simp] theorem config_reset (c : Catalog) : c.reset.config = c.config := by
  obtain ⟨es, eq, -⟩ := reset_spec c
  rw [eq]

theorem config_resume (c : Catalog) (id : JobId) (a : Answer) :
    (c.resume id a).config = c.config := by
  unfold resume
  split
  · next result _ => cases result <;> simp
  · simp
  · simp
  · next result _ => cases result <;> simp [afterListing]
  · rfl

theorem config_start (c : Catalog) (call : Call) : (c.start call).1.config = c.config := by
  cases call with
  | create | checkAll | fetch | check => simp [start, addJob, startChecks]
  | saved path =>
      simp only [start]
      split <;> simp [addJob]
  | change change =>
      simp only [start, startChange]
      split <;> simp [addJob]
  | openProject root => simp [start, addJob, startProject]
  | openStandalone path => simp [start, addJob, addStandalone, addEntry]

/-- No event changes the configuration. -/
theorem config_of_step? (step : c.step? event = some d) : d.config = c.config := by
  cases event with
  | call call =>
      cases step
      exact config_start c call
  | answer job a =>
      simp only [Catalog.step?] at step
      -- an answer brings the next listing, the last one the parts
      split at step
      · cases step
        exact config_resume c job a
      · cases step
  | wake job =>
      simp only [Catalog.step?, wake?] at step
      split at step
      · obtain ⟨entry, -, rfl⟩ := Option.map_eq_some_iff.mp step
        exact config_share c job _ entry _ _
      · cases step
  | listen n =>
      obtain ⟨l, e, event, seen, -, -, -, -, rfl⟩ := listen?_some step
      cases event <;> simp only [hear] <;> split <;> try rfl
      exact config_startParts _ _ _ _
  | tick i =>
      cases ticks_of_tick? step with
      | begins => exact config_startParts _ _ _ _
      | deserts | ends => rfl
  | remove path =>
      cases step
      exact config_remove c path
  | reset =>
      cases step
      exact config_reset c
  | stopChecker i =>
      cases step
      rw [stopChecker]
      split <;> rfl
  | clock time =>
      simp only [Catalog.step?] at step
      split at step <;> cases step
      rfl
  | _ =>
      cases step
      rfl

/-! ## Jobs that scan -/

/-- When a scan is over, its job waits for parts. -/
theorem not_scanning_startParts (hs : c.stage? id = some s) (paths : List Path) (plan : Plan) :
    (c.startParts id (paths.map fun path => .create path false) plan).stage? id ≠
      some (.scanning root pending found) := by
  intro scanning
  let parts : List Part := paths.map fun path => .create path false
  have moves : Moves (fun _ a => a ≠ .scan) (c.enlisted id parts plan)
      (c.startParts id parts plan) := by
    rw [startParts_eq]
    refine (moves_startPartsFrom parts _ _ (fun i part h => ?_)
      fun i lt => stage?_enlisted hs lt).trans (moves_joinParts _ _)
    obtain ⟨path, -, rfl⟩ := List.mem_map.mp (List.mem_of_getElem? h)
    exact ⟨by simp, by simp [Part.act, askAct]⟩
  have joins : (c.enlisted id parts plan).stage? id =
      some (.joining (List.range' c.jobs.length parts.length) plan) :=
    stage?_setStage_self (stage?_append _ hs) _
  rcases moves.act scanning (by simp [Stage.act]) with ⟨t, ht, act⟩ | leave
  · obtain rfl := Option.some.inj (joins.symm.trans ht)
    cases act
  · exact leave rfl

/-- A scan that goes on keeps what it has found. -/
theorem found_of_scan {now later : List Path} (hs : c.stage? id = some s)
    (scanning : (c.scan id root now later).stage? id = some (.scanning p pending found)) :
    found = now := by
  cases later with
  | nil => exact absurd scanning (not_scanning_startParts hs now _)
  | cons dir later =>
      rw [scan, stage?_setStage_self hs] at scanning
      cases scanning
      rfl
      nofun

/-- A job that is added has not started, and the others stay where they are. -/
theorem stage?_added (c : Catalog) (ofCatalog : Bool) (j : JobId) :
    (c.addJob { stage := .starting, ofCatalog := ofCatalog }).1.stage? j =
      if c.jobs.length = j then some .starting else c.stage? j := by
  rw [stage?, stage?, addJob, List.getElem?_append]
  grind

/-- A project that is opened is scanned by the new job. -/
theorem stage?_openProject (c : Catalog) (root : Path) (j : JobId) :
    (c.start (.openProject root)).1.stage? j =
      if c.jobs.length = j then some (.scanning root [root] []) else c.stage? j := by
  obtain ⟨es, eq, -⟩ := reset_spec (c.addJob { stage := .starting }).1
  have started : (c.start (.openProject root)).1 =
      { (c.addJob { stage := .starting }).1.reset with root := some root }.setStage c.jobs.length
        (.scanning root [root] []) := rfl
  rw [started, eq, stage?_setStage]
  show (if _ then ((c.addJob { stage := .starting }).1.stage? j).map _ else
    (c.addJob { stage := .starting }).1.stage? j) = _
  rw [stage?_added]
  split <;> rfl

/-- A job scans only if it did so before, or if it opens a project. -/
theorem scanning_of_step? (step : c.step? event = some d)
    (hs : d.stage? j = some (.scanning root pending found)) :
    c.IsScanning j ∨ event = .call (.openProject root) ∧ found = [] := by
  -- stopping a checker ends jobs and begins none
  by_cases stop : ∃ i, event = .stopChecker i
  · obtain ⟨i, rfl⟩ := stop
    cases step
    have same : (c.stopChecker i).jobs.length = c.jobs.length := by
      rw [stopChecker]
      split <;> simp [abandon, setChecker]
    obtain ⟨t, there⟩ : ∃ t, c.stage? j = some t :=
      ⟨_, congrArg (Option.map _) (List.getElem?_eq_getElem (same ▸ stage?_lt hs))⟩
    rcases stage?_stopChecker there i with stays | ⟨ended, -⟩
    · exact .inl ⟨_, _, _, there.trans (stays.symm.trans hs)⟩
    · cases hs.symm.trans ended
  -- a scan is begun by a move of its own, or was one before
  · rcases (step?_moves step fun i eq => stop ⟨i, eq⟩).act hs (by simp [Stage.act]) with
      ⟨u, hu, act⟩ | leave
    · exact .inl (isScanning_iff.mpr ⟨u, hu, act⟩)
    · cases event with
      | call call =>
          cases call with
          -- this is the one call that scans
          | openProject top =>
              cases step
              rw [stage?_openProject] at hs
              split at hs
              · cases hs
                exact .inr ⟨rfl, rfl⟩
              · exact absurd (stage?_lt hs) (Nat.not_lt.mpr leave.1)
          | create kind path byPath =>
              cases byPath <;> simp [Event.leave, Call.acts, Stage.act, askAct] at leave
          | _ => simp [Event.leave, Call.acts, Stage.act] at leave
      | answer job answer =>
          simp only [Event.leave] at leave
          split at leave
          · simp [Stage.act] at leave
          -- the answer went to this very scan
          · next hu =>
              obtain rfl : j = job := by simpa [Stage.act] using leave
              exact .inl ⟨_, _, _, hu⟩
          · simp [Stage.act] at leave
      | _ => simp [Event.leave, Stage.act] at leave

/-- A job that scans takes the listing of the next directory in. -/
theorem Collects.resume (h : c.Collects tree root job files left)
    (expected : c.expects job a = true)
    (listed : ∀ x ∈ c.listing? (.answer job a), x.2 = tree.list x.1) :
    ∃ ns pending found dirs rest, c.resume job a = (c.notify ns).scan job root found pending ∧
      tree.Walk c.config pending dirs rest ∧ files = found ++ rest ∧ dirs.length + 1 = left := by
  obtain ⟨pending, found, dirs, rest, hs, more, walk, all, length⟩ := h
  cases pending with
  | nil => exact absurd rfl more
  | cons dir pending =>
      cases a with
      | listing result =>
          have eq : result = tree.list dir := listed (dir, result) (by simp [listing?, hs])
          have goes : c.resume job (.listing result) =
              c.afterListing job root dir pending found result := by simp [Catalog.resume, hs]
          cases walk with
          | @failed _ _ dirs _ error closed walk =>
              refine ⟨[.listFailed dir error], pending, found, dirs, rest, ?_, walk, all, length⟩
              rw [goes, eq, FileTree.list, closed]
              rfl
          | @listed _ _ dirs found' opens walk =>
              rw [← List.append_assoc] at all
              refine ⟨[], _, _, dirs, found', ?_, walk, all, length⟩
              rw [goes, eq, FileTree.list, opens, notify, List.append_nil]
              rfl
      | _ => simp [expects, hs] at expected

/-- A scan goes on by the listings alone, whatever else happens. -/
theorem Collects.step? (h : c.Collects tree root job files left) (supervised : Supervised c)
    (step : c.step? event = some d) (listed : ∀ x ∈ c.listing? event, x.2 = tree.list x.1) :
    (event.isAnswerTo job = false ∧ d.Collects tree root job files left) ∨
      ∃ a, event = .answer job a ∧ ((∃ n, n + 1 = left ∧ d.Collects tree root job files n) ∨
        left = 1 ∧ ∃ ns, d = (c.notify ns).startParts job (files.map fun path => .create path false)
          (.project root files.length)) := by
  by_cases own : ∃ a, event = .answer job a
  · obtain ⟨a, rfl⟩ := own
    refine .inr ⟨a, rfl, ?_⟩
    simp only [Catalog.step?] at step
    split at step
    · next expected =>
        cases step
        have scans := h
        obtain ⟨_, _, _, _, hs, -⟩ := scans
        obtain ⟨ns, pending, found, dirs, rest, eq, walk, all, length⟩ := h.resume expected listed
        rw [eq]
        cases pending with
        | nil =>
            cases walk
            rw [List.append_nil] at all
            exact .inr ⟨length.symm, ns, by rw [scan, all]⟩
        | cons dir pending =>
            refine .inl ⟨dirs.length, length, dir :: pending, found, dirs, rest, ?_,
              List.cons_ne_nil _ _, ?_, all, rfl⟩
            · exact stage?_setStage_self (c := c.notify ns) hs _
            · exact walk
    · cases step
  -- whatever is no answer to the scan leaves it where it is
  · obtain ⟨pending, found, dirs, rest, hs, walks⟩ := h
    have not_own : event.isAnswerTo job = false := by
      cases event with
      | answer j a => exact beq_false_of_ne fun eq => own ⟨a, eq ▸ rfl⟩
      | _ => rfl
    refine .inl ⟨not_own, pending, found, dirs, rest, ?_, config_of_step? step ▸ walks⟩
    cases step?_fares step hs with
    -- a stopped checker gives up checks alone
    | stays same => exact same
    | stopped i eq given =>
        subst eq
        cases step
        rcases supervised.stage?_stopChecker i hs with same | ⟨check, -⟩
        · exact same
        · cases check
    | answered a eq => exact absurd ⟨a, eq⟩ own
    | woken entry _ awaits => cases awaits
    | joins parts plan joining => cases joining

/-- What is collected after an event is collected with it, one answer further if it is one. -/
theorem Scanned.cons {n : Nat} (h : Scanned d job root files n events e)
    (step : c.step? event = some d) :
    Scanned c job root files (n + if event.isAnswerTo job then 1 else 0) (event :: events) e := by
  cases h with
  | waits dir lt request =>
      refine .waits dir ?_ request
      rw [List.countP_cons]
      exact Nat.add_lt_add_right lt _
  | @goesOn early late a x ns eq count first rest =>
      have split : event :: events = (event :: early) ++ .answer job a :: late := by
        rw [eq]
        rfl
      refine .goesOn ns split ?_ (.cons step first) rest
      rw [List.countP_cons, ← count]
      exact Nat.add_right_comm _ _ _

/-- A scan of an unchanging tree is over with the listing of its last directory, whatever else
happens. -/
theorem Collects.run (h : c.Collects tree root job files left) (run : Run c events d)
    (sound : Sound c) (supervised : Supervised c)
    (listed : ∀ x ∈ c.listings events, x.2 = tree.list x.1) :
    Scanned c job root files left events d := by
  induction run generalizing left with
  | nil c =>
      obtain ⟨pending, found, dirs, rest, hs, more, walk, all, rfl⟩ := h
      cases walk with
      | empty => exact absurd rfl more
      | failed | listed => exact .waits _ (Nat.zero_lt_succ _) (by rw [request?, hs])
  | @cons c c' d event events step run ih =>
      rw [listings, step] at listed
      have next : ∀ {n}, c'.Collects tree root job files n → Scanned c job root files
          (n + if event.isAnswerTo job then 1 else 0) (event :: events) d := fun later =>
        (ih later (supervised.sound_step? sound step) (supervised.step? sound step)
          fun x mem => listed x (List.mem_append_right _ mem)).cons step
      rcases h.step? supervised step fun x mem =>
          listed x (List.mem_append_left _ (Option.mem_toList.mpr mem)) with
        ⟨other, later⟩ | ⟨a, rfl, ⟨n, rfl, later⟩ | ⟨rfl, ns, rfl⟩⟩
      · have := next later
        rwa [other] at this
      · have := next later
        rwa [show (Event.answer job a).isAnswerTo job = true from beq_self_eq_true job] at this
      · have now : Event.answer job a :: events = [] ++ .answer job a :: events := rfl
        exact .goesOn ns now rfl (.nil c) run

end Catalog

end SelectorCatalog
