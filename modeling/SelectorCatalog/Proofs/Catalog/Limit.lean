import SelectorCatalog.Host.Store
import SelectorCatalog.Proofs.Catalog.Course
import SelectorCatalog.Proofs.Catalog.Project

/-!
# The size of what is indexed

A fetch asks for the size of its file first and for the text later, and files may change at any time
in between. A `World` is a catalogue together with the files that it reads: an act changes the
files, or it is an event of the catalogue, where no fetch is told of a size or of a text that its
file does not have just then.

The size that a fetch was told is within the limit, and so is the text that it has read and that is
indexed, unless the files were changed after the size was told and before the text was
(`World.indexed_within_limit`). A change just there brings in a text of any length
(`World.overrun_is_indexed`).
-/

namespace SelectorCatalog

namespace Host

/-- The text of some bytes is as long as these. -/
theorem Disk.utf8ByteSize_of_decode {bytes : List UInt8} {text : String}
    (decoded : decode bytes = .ok text) : text.utf8ByteSize = bytes.length := by
  rw [decode, String.fromUTF8?] at decoded
  by_cases valid : (ByteArray.mk bytes.toArray).IsValidUTF8
  · simp only [valid, dite_true, Except.ok.injEq] at decoded
    subst decoded
    exact List.size_toArray
  · simp [valid] at decoded

/-- The size of a file is that of its text, in memory and on a disk. -/
theorem Store.size_eq {s : Store} {path : Path} {stat : FileStat} {text : String}
    (size : s.stat path = .ok stat) (read : s.read path = .ok text) :
    stat.size = text.utf8ByteSize := by
  cases s with
  | memory files =>
      rw [Store.stat, Memory.stat] at size
      rw [Store.read, Memory.read] at read
      -- both answers come from the same file, or the size was refused
      cases found : files.find? path with
      | none => simp [found] at size
      | some file =>
          simp only [found, Except.ok.injEq] at size read
          rw [← size, ← read]
  | disk d =>
      rw [Store.stat, Disk.stat] at size
      rw [Store.read, Disk.read, Disk.textAt] at read
      cases located : d.locate path with
      | error fault => simp [located] at size
      | ok place =>
          simp only [located] at size
          split at size
          · next bytes modified there =>
              obtain rfl := Except.ok.inj size
              -- a text decodes to as many bytes as the file has
              have decoded : Disk.decode bytes = .ok text := by
                cases h : Disk.decode bytes with
                | ok t => simpa [located, there, h, bind, Except.bind, Except.mapError] using read
                | error fault =>
                    simp [located, there, h, bind, Except.bind, Except.mapError] at read
              exact (Disk.utf8ByteSize_of_decode decoded).symm
          · cases size

end Host

/-- A catalogue together with the files that it reads. -/
structure World where
  catalog : Catalog
  store : Host.Store

namespace World

/-- Something that happens to the files or to the catalogue. -/
inductive Act where
  /-- The files become others. -/
  | files (store : Host.Store)
  | catalog (event : Catalog.Event)

/-- What happens to the catalogue, if it does. -/
def Act.event? : Act → Option Catalog.Event
  | .catalog event => some event
  | .files _ => none

/-- The file that a job fetches. -/
def file? (w : World) (job : JobId) : Option Path :=
  (w.catalog.fetch? job).bind fun f => (w.catalog.entries[f.entry]?).map (·.path)

/-- Whether a fetch is told of a size or of a text that its file has, if it is told of one. -/
def tells (w : World) (job : JobId) : Answer → Bool
  | .stat (.ok stat) => (w.file? job).all fun path => w.store.stat path = .ok stat
  | .text (.ok text) => (w.file? job).all fun path => w.store.read path = .ok text
  | _ => true

/-- Whether an event may happen among the files as they are. -/
def allows (w : World) : Catalog.Event → Bool
  | .answer job a => w.tells job a
  | _ => true

/-- The state after an act; `none` when it cannot happen now. -/
def step? (w : World) : Act → Option World
  | .files store => some { w with store := store }
  | .catalog event => if w.allows event then (w.catalog.step? event).map (⟨·, w.store⟩) else none

/-- The state after a list of acts. -/
def run? (w : World) (acts : List Act) : Option World :=
  acts.foldlM step? w

/-- Along a list of acts the fetch of a number of an entry was told of the size of its file and,
after some further acts, of its text. -/
def Reads (w : World) (acts : List Act) (id : EntryId) (number : Nat) (stat : FileStat)
    (between : List Act) (text : String) : Prop :=
  ∃ before after j k x y f g, acts = before ++ .catalog (.answer j (.stat (.ok stat))) ::
      (between ++ .catalog (.answer k (.text (.ok text))) :: after) ∧
    w.run? before = some x ∧ x.catalog.fetch? j = some f ∧ f.entry = id ∧ f.generation = number ∧
    w.run? (before ++ .catalog (.answer j (.stat (.ok stat))) :: between) = some y ∧
    y.catalog.fetch? k = some g ∧ g.entry = id ∧ g.generation = number

variable {w v x : World} {acts more : List Act} {events early late : List Catalog.Event}
  {event : Catalog.Event} {job : JobId} {f : Fetch} {e : Entry} {id : EntryId}

/-! ## Runs -/

/-- A run of two parts passes through a state between them. -/
theorem run?_append (run : w.run? (acts ++ more) = some v) :
    ∃ x, w.run? acts = some x ∧ x.run? more = some v := by
  rw [run?, List.foldlM_append] at run
  exact Option.bind_eq_some_iff.mp run

/-- A run passes through the state after its first act. -/
theorem run?_cons {act : Act} (run : w.run? (act :: acts) = some v) :
    ∃ x, w.step? act = some x ∧ x.run? acts = some v :=
  Option.bind_eq_some_iff.mp run

/-- An event happens to the catalogue alone. -/
theorem step?_event (step : w.step? (.catalog event) = some v) :
    w.allows event = true ∧ w.catalog.step? event = some v.catalog ∧ v.store = w.store := by
  rw [step?] at step
  obtain ⟨allowed, step⟩ := Option.ite_none_right_eq_some.mp step
  obtain ⟨c, hc, rfl⟩ := Option.map_eq_some_iff.mp step
  exact ⟨allowed, hc, rfl⟩

/-- The run of the catalogue among the files. -/
theorem catalog_of_run? (run : w.run? acts = some v) :
    Catalog.Run w.catalog (acts.filterMap Act.event?) v.catalog := by
  induction acts generalizing w with
  | nil =>
      cases run
      exact .nil _
  | cons act acts ih =>
      obtain ⟨x, step, rest⟩ := run?_cons run
      have later := ih rest
      cases act with
      | files store =>
          obtain rfl := Option.some.inj step
          exact later
      | catalog event => exact .cons (step?_event step).2.1 later

/-- Files change by acts of their own only. -/
theorem store_of_run? (run : w.run? acts = some v) (kept : ∀ store, .files store ∉ acts) :
    v.store = w.store := by
  induction acts generalizing w with
  | nil =>
      cases run
      rfl
  | cons act acts ih =>
      obtain ⟨x, step, rest⟩ := run?_cons run
      have later := ih rest fun store mem => kept store (List.mem_cons_of_mem _ mem)
      cases act with
      | files store => exact absurd List.mem_cons_self (kept store)
      | catalog event => exact later.trans (step?_event step).2.2

/-- What is told along the run of the catalogue is told by one of the acts. -/
theorem exists_act_of_tells (run : w.run? acts = some v) {number : Nat} {stage : Fetch.Stage}
    {a : Answer}
    (told : Catalog.Tells w.catalog (acts.filterMap Act.event?) id number stage a) :
    ∃ before job after x f, acts = before ++ .catalog (.answer job a) :: after ∧
      w.run? before = some x ∧ x.tells job a = true ∧ x.catalog.fetch? job = some f ∧
      f.entry = id ∧ f.generation = number ∧ f.stage = stage := by
  obtain ⟨early, job, late, c, f, eq, first, hf, rest⟩ := told
  obtain ⟨xs, ys, rfl, rfl, later⟩ := List.filterMap_eq_append_iff.mp eq
  obtain ⟨zs, act, after, rfl, silent, this, -⟩ := List.filterMap_eq_cons_iff.mp later
  cases act with
  | files store => cases this
  | catalog event =>
      obtain rfl := Option.some.inj this
      rw [← List.append_assoc] at run
      obtain ⟨x, before, run⟩ := run?_append run
      obtain ⟨y, step, -⟩ := run?_cons run
      -- the catalogue is in the same state, for the acts in between are none of its events
      have same : x.catalog = c := by
        have here := catalog_of_run? before
        rw [List.filterMap_append, List.filterMap_eq_nil_iff.mpr silent, List.append_nil,
          Catalog.run_iff_replay?] at here
        exact Option.some.inj (here.symm.trans (Catalog.run_iff_replay?.mp first))
      exact ⟨xs ++ zs, job, after, x, f, by simp, before, (step?_event step).1, same ▸ hf, rest⟩

/-! ## The limit -/

/-- What a fetch of an entry is told of is that of the entry's file. -/
theorem file?_of_fetch? (hf : w.catalog.fetch? job = some f) (entry : f.entry = id)
    (he : w.catalog.entries[id]? = some e) : w.file? job = some e.path := by
  subst entry
  simp [file?, hf, he]

/-- A fetch that was told of a text was told of a size within the limit before. If the files were
not changed in between, that is the size of the text. -/
theorem reads_of_tells {config : Config} {clock : Time} {store : Host.Store}
    (run : run? ⟨.new config clock, store⟩ acts = some w) {number : Nat} {stat : FileStat}
    {text : String} (told : Catalog.Tells (.new config clock) (acts.filterMap Act.event?) id number
      (.read stat) (.text (.ok text))) :
    ∃ between, Reads ⟨.new config clock, store⟩ acts id number stat between text ∧
      stat.size ≤ config.maxFileBytes ∧
      (stat.size = text.utf8ByteSize ∨ ∃ store, .files store ∈ between) := by
  obtain ⟨before, k, after, y, g, rfl, first, read, hg, rfl, rfl, at_⟩ :=
    exists_act_of_tells run told
  -- the fetch that is told of the text follows from what it was told of the size
  have here := catalog_of_run? first
  obtain ⟨e, he, follows⟩ := (Catalog.follows_of_run here).fetch hg
  rw [at_] at follows
  cases follows with
  | read sized small _ =>
      obtain ⟨start, j, between, x, f, rfl, earlier, size, hf, entry, number, -⟩ :=
        exists_act_of_tells first sized
      have limit : y.catalog.work.limit = config.maxFileBytes :=
        congrArg Config.maxFileBytes (Catalog.config_of_run here)
      refine ⟨between, ⟨start, after, j, k, x, y, f, g, by simp, earlier, hf, entry, number, first,
        hg, rfl, rfl⟩, limit ▸ small, ?_⟩
      -- with the files as they were the text has the size that was told
      by_cases kept : ∀ store, .files store ∉ between
      · left
        obtain ⟨x', earlier', rest⟩ := run?_append first
        obtain rfl := Option.some.inj (earlier.symm.trans earlier')
        obtain ⟨z, step, rest⟩ := run?_cons rest
        obtain ⟨-, step, same⟩ := step?_event step
        have store_eq : y.store = x.store := (store_of_run? rest kept).trans same
        obtain ⟨e', he', -⟩ := (Catalog.follows_of_run (catalog_of_run? earlier)).fetch hf
        rw [entry] at he'
        have path : e.path = e'.path := by
          have run : Catalog.Run x.catalog _ y.catalog := .cons step (catalog_of_run? rest)
          obtain ⟨later, there, lasts⟩ := Catalog.entry_of_run run he'
          rw [Option.some.inj (he.symm.trans there), lasts.path]
        rw [tells, file?_of_fetch? hf entry he', Option.all_some, decide_eq_true_iff] at size
        rw [tells, file?_of_fetch? hg rfl he, Option.all_some, decide_eq_true_iff, path,
          store_eq] at read
        exact Host.Store.size_eq size read
      · right
        simpa using kept

/-- Any run, whatever the files become in it and whenever. An entry shows nothing, or what follows
from a text that a fetch of it has read. That fetch was told of a size within the limit before, and
the text is within the limit as well unless the files were changed after that and before the text
was told. -/
theorem indexed_within_limit {config : Config} {clock : Time} {store : Host.Store}
    (run : run? ⟨.new config clock, store⟩ acts = some w) (he : w.catalog.entries[id]? = some e) :
    e.index = .disposed ∨ e.index = .empty ∨ ∃ stat between text outcomes,
      Reads ⟨.new config clock, store⟩ acts id e.installed stat between text ∧
      outcomes.length = (Fetch.parsedTexts e.kind text).length ∧
      e.index = SelectorIndex.empty.addTaken (Fetch.parsedTexts e.kind text) outcomes ∧
      stat.size ≤ config.maxFileBytes ∧
      (text.utf8ByteSize ≤ config.maxFileBytes ∨ ∃ store, .files store ∈ between) := by
  refine ((Catalog.follows_of_run (catalog_of_run? run)).shown he).imp_right (Or.imp_right ?_)
  rintro ⟨stat, text, outcomes, has, length_eq, -, index⟩
  obtain ⟨between, reads, small, same | changed⟩ := reads_of_tells run has.read
  · exact ⟨stat, between, text, outcomes, reads, length_eq, index, small, .inl (same ▸ small)⟩
  · exact ⟨stat, between, text, outcomes, reads, length_eq, index, small, .inr changed⟩

/-- One stylesheet in memory. -/
def oneSheet (text : String) : Host.Store :=
  .memory ⟨[⟨⟨"/a.css"⟩, text, 0⟩]⟩

/-- A catalogue that indexes up to five bytes, and a stylesheet of four. -/
def smallSheet : World :=
  ⟨.new { maxFileBytes := 5 } 0, oneSheet ".a{}"⟩

/-- The stylesheet is written anew, and then asked for. -/
def writtenBefore : List Act :=
  .files (oneSheet ".b{}") :: (.call (.create .css ⟨"/a.css"⟩ false) ::
    Catalog.fetchAnswers 0 ⟨0, 4⟩ ".b{}" [.style ".b"]).map .catalog

/-- What is indexed then was read after its size was told. -/
theorem writtenBefore_is_read :
    ∃ w e stat between text, smallSheet.run? writtenBefore = some w ∧
      w.catalog.entries[0]? = some e ∧ e.index = .live ⟨[("", ["b"])], []⟩ ∧
      Reads smallSheet writtenBefore 0 e.installed stat between text ∧ stat.size ≤ 5 ∧
      (text.utf8ByteSize ≤ 5 ∨ ∃ store, .files store ∈ between) := by
  have facts : ((smallSheet.run? writtenBefore).bind fun w => (w.catalog.entries[0]?).map
      (·.index)) = some (.live ⟨[("", ["b"])], []⟩) := by decide +kernel
  obtain ⟨w, hw, facts⟩ := Option.bind_eq_some_iff.mp facts
  obtain ⟨e, he, index⟩ := Option.map_eq_some_iff.mp facts
  obtain gone | empty | ⟨stat, between, text, outcomes, reads, -, -, small, within⟩ :=
    indexed_within_limit hw he
  · cases gone.symm.trans index
  · cases empty.symm.trans index
  · exact ⟨w, e, stat, between, text, hw, he, index, reads, small, within⟩

/-- The stylesheet is asked for, and written anew after its size was told. -/
def overrun : List Act :=
  (.call (.create .css ⟨"/a.css"⟩ false) :: [.answer 0 (.stat (.ok ⟨0, 4⟩))]).map .catalog ++
    .files (oneSheet ".a{} .b{}") ::
      [.answer 0 (.text (.ok ".a{} .b{}")),
        .answer 0 (.parsed 0 (.ok [.style ".a", .style ".b"])), .answer 0 .built].map .catalog

/-- What is indexed then is nine bytes long. -/
theorem overrun_is_indexed :
    ∃ w e, smallSheet.run? overrun = some w ∧ w.catalog.entries[0]? = some e ∧
      e.index = SelectorIndex.empty.addRules [.style ".a", .style ".b"] ".a{} .b{}" ∧
      w.store.read e.path = .ok ".a{} .b{}" ∧
      w.catalog.config.maxFileBytes < ".a{} .b{}".utf8ByteSize := by
  have facts : ((smallSheet.run? overrun).bind fun w => (w.catalog.entries[0]?).map fun e =>
      (e.index, w.store.read e.path, w.catalog.config.maxFileBytes)) =
      some (SelectorIndex.empty.addRules [.style ".a", .style ".b"] ".a{} .b{}",
        .ok ".a{} .b{}", 5) := by decide +kernel
  obtain ⟨w, hw, facts⟩ := Option.bind_eq_some_iff.mp facts
  obtain ⟨e, he, eq⟩ := Option.map_eq_some_iff.mp facts
  simp only [Prod.mk.injEq] at eq
  obtain ⟨index, read, limit⟩ := eq
  exact ⟨w, e, hw, he, index, read, by rw [limit]; decide⟩

end World

end SelectorCatalog
