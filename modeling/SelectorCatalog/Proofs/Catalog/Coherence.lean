import SelectorCatalog.Catalog.Editor
import SelectorCatalog.Proofs.Catalog.Listening
import SelectorCatalog.Proofs.Catalog.Lookup

/-!
# The paths of an entry

A path is looked up only when an entry is asked for by it. The entry is registered at the file that
the path has led to, and from then on it is found by what names this place (`ReachedAt`), whatever
leads there otherwise.

So what is asked of a catalogue by the path that an entry was created for concerns this entry as far
as the path names the place of its file (`created_is_reached_at_file`). And a stylesheet that a
document links is searched for it as far as one of the links names the place of its file
(`linked_is_consulted_iff`).
-/

namespace SelectorCatalog.Catalog

open Job (Stage)

/-- The entries that are consulted in a search for a document (`targets_eq_consulted`). -/
def consulted (c : Catalog) (document : Path) : List EntryId :=
  ((c.entryOf? .html document).toList ++ c.stylesheetsFor document).filter fun id =>
    (c.entries[id]?).any fun e => !e.isDisposed

/-- Whether a save of the document at a path starts a fetch of an entry. -/
def FetchesOnSave (c : Catalog) (path : Path) (id : EntryId) : Prop :=
  ∃ f, (c.start (.saved path)).1.fetch? c.jobs.length = some f ∧ f.entry = id

/-- Whether a call asks for an entry by a path, as a user does, or an editor that becomes active. -/
def Call.AsksFor (call : Call) (kind : EntryKind) (path : Path) : Prop :=
  call = .create kind path true ∨
    ∃ editor : Editor, editor.call? = some call ∧ editor.path = path ∧ kind = .html

/-- What a job looks a path up for, and the path. -/
def sought? (c : Catalog) (job : JobId) : Option (EntryKind × Path) :=
  match c.stage? job with
  | some (.resolving kind path) => some (kind, path)
  | _ => none

/-- A registered entry answers to all paths that name one place, and to no other. -/
structure ReachedAt (c : Catalog) (file : Path) (slot : SlotId) (id : EntryId) (e : Entry) :
    Prop where
  found : ∀ path, c.entryAt? path = some id ↔ file.same path = true
  ofKind : ∀ path, c.entryOf? e.kind path = some id ↔ file.same path = true
  contained : ∀ path, file.same path = true → c.contains path = true
  saved : ∀ path, c.FetchesOnSave path id ↔ file.same path = true ∧ e.isDisposed = false
  removed : ∀ path, slot ∉ (c.remove path).1.registered ↔ file.same path = true
  gone : ∀ path, file.same path = true →
    ∃ d, (c.remove path).1.entries[id]? = some d ∧ d.isDisposed = true
  consulted : e.kind = .html → ∀ path,
    id ∈ c.consulted path ↔ file.same path = true ∧ e.isDisposed = false
  links : e.kind = .html → ∀ path, file.same path = true → c.linksOf path = e.dependencies

variable {early late : List Event} {c m : Catalog} {job : JobId} {slot : SlotId} {s : Slot}
  {id sheet : EntryId} {e d : Entry} {kind : EntryKind} {document path file link p q : Path}

/-! ## What is consulted -/

/-- The entries that are searched are those that are consulted. -/
theorem targets_eq_consulted (c : Catalog) (document : Path) :
    c.targets document = (c.consulted document).filterMap fun id => c.entries[id]? := by
  rw [targets, consulted, List.filter_filterMap, List.filterMap_filter]
  congr 1
  funext id
  cases c.entries[id]? with
  | none => rfl
  | some e => cases live : e.isDisposed <;> simp [live]

/-- What is consulted for a document is its own entry and the stylesheets it links, as far as they
are live. -/
theorem mem_consulted (he : c.entries[id]? = some e) :
    id ∈ c.consulted document ↔
      (c.entryOf? .html document = some id ∨ id ∈ c.stylesheetsFor document) ∧
        e.isDisposed = false := by
  simp [consulted, he, or_and_right]

/-- Paths that name the same place lead to the same slot. -/
theorem find?_congr (same : p.same q = true) : c.find? p = c.find? q := by
  have same_as : ∀ key : Path, key.same p = key.same q := fun key => by
    rw [Path.same, Path.same, Path.same_iff.mp same]
  simp only [find?, same_as]

/-- What a document links is found link by link. -/
theorem mem_stylesheetsFor (links : c.linksOf document ≠ []) :
    sheet ∈ c.stylesheetsFor document ↔
      ∃ link ∈ c.linksOf document, c.entryOf? .css link = some sheet := by
  have eq : c.stylesheetsFor document =
      (distinct (c.linksOf document)).filterMap (c.entryOf? .css) := by
    rw [stylesheetsFor]
    split
    · next none => exact absurd none links
    · rfl
  rw [eq, List.mem_filterMap]
  constructor
  · rintro ⟨link, mem, found⟩
    exact ⟨link, mem_of_mem_distinct mem, found⟩
  · rintro ⟨link, mem, found⟩
    obtain ⟨kept, among, same⟩ := exists_same_in_distinct mem
    refine ⟨kept, among, ?_⟩
    rwa [entryOf?, find?_congr same] at found

/-- What is searched along with a document is held by slots of stylesheets. -/
theorem slot_of_mem_stylesheetsFor (mem : sheet ∈ c.stylesheetsFor document) :
    ∃ (i : SlotId) (s : Slot), c.slots[i]? = some s ∧ s.kind = .css ∧ s.entry = some sheet := by
  by_cases links : c.linksOf document = []
  · rw [stylesheetsFor, links] at mem
    obtain ⟨s, ready, held⟩ := List.mem_filterMap.mp mem
    obtain ⟨i, -, hs⟩ := List.mem_filterMap.mp (List.mem_filter.mp ready).1
    obtain ⟨kind, filled⟩ := Option.ite_none_right_eq_some.mp held
    exact ⟨i, s, hs, eq_of_beq kind, filled⟩
  · obtain ⟨link, -, found⟩ := (mem_stylesheetsFor links).mp mem
    obtain ⟨i, s, at_, css, filled⟩ := find?_of_entryOf? found
    exact ⟨i, s, (find?_some at_).2.1, css, filled⟩

/-! ## Where an entry is found -/

/-- The slot of an entry is found where something that holds the entry is found. -/
theorem Sound.find?_iff (sound : Sound c) (mem : slot ∈ c.registered)
    (hs : c.slots[slot]? = some s) (filled : s.entry = some id) :
    (∃ i t, c.find? path = some (i, t) ∧ t.entry = some id) ↔ s.key.same path = true := by
  constructor
  · rintro ⟨i, t, found, filled'⟩
    obtain ⟨-, ht, same⟩ := find?_some found
    obtain rfl := sound.slot_unique hs filled ht filled'
    obtain rfl := Option.some.inj (hs.symm.trans ht)
    exact same
  · intro same
    exact ⟨slot, s, sound.find? mem hs same, filled⟩

theorem Sound.entryAt?_iff (sound : Sound c) (mem : slot ∈ c.registered)
    (hs : c.slots[slot]? = some s) (filled : s.entry = some id) :
    c.entryAt? path = some id ↔ s.key.same path = true := by
  rw [← sound.find?_iff mem hs filled, entryAt?, Option.bind_eq_some_iff]
  exact Prod.exists

/-- An entry is found by its kind at the path of its slot alone. -/
theorem Sound.entryOf?_iff (sound : Sound c) (mem : slot ∈ c.registered)
    (hs : c.slots[slot]? = some s) (filled : s.entry = some id) (kind_eq : s.kind = kind) :
    c.entryOf? kind path = some id ↔ s.key.same path = true := by
  subst kind_eq
  constructor
  · intro found
    obtain ⟨i, t, at_, -, filled'⟩ := find?_of_entryOf? found
    exact (sound.find?_iff mem hs filled).mp ⟨i, t, at_, filled'⟩
  · intro same
    simp [entryOf?, sound.find? mem hs same, filled]

/-! ## Saves and removals -/

/-- A fetch for a save is one of the entry, and is started unless the entry is disposed of. -/
theorem fetch?_startFetch_saved (hs : c.stage? job = some .starting) (entry : EntryId)
    (path : Path) :
    (∃ f, (c.startFetch job entry (.saved path)).fetch? job = some f ∧ f.entry = id) ↔
      entry = id ∧ ∃ e, c.entries[id]? = some e ∧ e.isDisposed = false := by
  -- without an entry there is no fetch, and nothing to be live
  cases he : c.entries[entry]? with
  | none =>
      rw [startFetch, he, fetch?, hs]
      refine iff_of_false (by simp [Stage.fetch?]) ?_
      rintro ⟨rfl, e, he', -⟩
      cases he.symm.trans he'
  | some e =>
      -- a disposed entry ends the call at once
      cases live : e.isDisposed with
      | true =>
          have ended : (c.startFetch job entry (.saved path)).stage? job =
              some (.done (.flag true)) := by
            rw [startFetch_of_disposed he live]
            exact stage?_complete (c := c.notify _) (Option.isSome_of_eq_some hs) _
          rw [fetch?, ended]
          refine iff_of_false (by simp [Stage.fetch?]) ?_
          rintro ⟨rfl, e', he', live'⟩
          obtain rfl := Option.some.inj (he.symm.trans he')
          cases live.symm.trans live'
      | false =>
          rw [startFetch_of_live he live, fetch?,
            stage?_setStage_self (c := c.setEntry entry e.beginFetch) hs]
          constructor
          · rintro ⟨f, hf, rfl⟩
            cases hf
            exact ⟨rfl, e, he, live⟩
          · rintro ⟨rfl, -⟩
            exact ⟨_, rfl, rfl⟩

/-- A save fetches the entry that is found at the path, unless that is disposed of. -/
theorem fetchesOnSave_iff (he : c.entries[id]? = some e) :
    c.FetchesOnSave path id ↔ c.entryAt? path = some id ∧ e.isDisposed = false := by
  let added := (c.addJob { stage := .starting }).1
  have hs : added.stage? c.jobs.length = some .starting := stage?_addJob c true
  have started : (c.start (.saved path)).1 = (added.entryAt? path).elim
      (added.complete c.jobs.length (.flag false))
      fun entry => added.startFetch c.jobs.length entry (.saved path) := by
    simp only [start, Call.ofCatalog]
    generalize (c.addJob { stage := .starting }).1.entryAt? path = found
    cases found <;> rfl
  have found : added.entryAt? path = c.entryAt? path := rfl
  rw [FetchesOnSave, started, found]
  cases c.entryAt? path with
  | none =>
      rw [Option.elim_none, fetch?, stage?_complete (Option.isSome_of_eq_some hs)]
      simp [Stage.fetch?]
  | some entry =>
      refine (fetch?_startFetch_saved hs entry path).trans (and_congr ?_ ?_)
      · exact Option.some_inj.symm
      · constructor
        · rintro ⟨x, hx, live⟩
          exact Option.some.inj (he.symm.trans hx) ▸ live
        · exact fun live => ⟨e, he, live⟩

/-- A removal takes out the slot that is found at the path. -/
theorem Sound.not_mem_registered_remove (sound : Sound c) (mem : slot ∈ c.registered)
    (hs : c.slots[slot]? = some s) :
    slot ∉ (c.remove path).1.registered ↔ s.key.same path = true := by
  have removed : ∀ i t, c.find? path = some (i, t) →
      (c.remove path).1.registered = c.registered.filter (· != i) := by
    intro i t found
    obtain ⟨es, eq, -⟩ := disposeSlot_spec (c.unregister i) i
    rw [remove, found]
    exact congrArg Catalog.registered eq
  constructor
  · intro out
    cases found : c.find? path with
    | none =>
        rw [remove, found] at out
        exact absurd mem out
    | some x =>
        obtain ⟨i, t⟩ := x
        obtain ⟨-, ht, same⟩ := find?_some found
        rw [removed i t found] at out
        obtain rfl : slot = i := by simpa [mem] using out
        obtain rfl := Option.some.inj (hs.symm.trans ht)
        exact same
  · intro same
    rw [removed slot s (sound.find? mem hs same)]
    simp

/-- What a removed slot holds is disposed of. -/
theorem Sound.isDisposed_remove (sound : Sound c) (mem : slot ∈ c.registered)
    (hs : c.slots[slot]? = some s) (filled : s.entry = some id) (he : c.entries[id]? = some e)
    (same : s.key.same path = true) :
    ∃ d, (c.remove path).1.entries[id]? = some d ∧ d.isDisposed = true := by
  obtain ⟨es, eq, disposals, gone⟩ := disposeSlot_spec (c.unregister slot) slot
  have entries : (c.remove path).1.entries = es := by
    rw [remove, sound.find? mem hs same]
    exact congrArg Catalog.entries eq
  obtain ⟨d, hd⟩ : ∃ d, es[id]? = some d := by
    rcases disposals.2 id e he with hd | hd <;> exact ⟨_, hd⟩
  exact ⟨d, entries ▸ hd, gone id (by simp [unregister, hs, filled]) d hd⟩

/-! ## One place for all -/

theorem stage?_of_sought? (sought : c.sought? job = some (kind, path)) :
    c.stage? job = some (.resolving kind path) := by
  rw [sought?] at sought
  split at sought
  · cases sought
    assumption
  · cases sought

/-- A registered entry is reached by what names the place of its file. -/
theorem Sound.reachedAt (sound : Sound c) (mem : slot ∈ c.registered)
    (hs : c.slots[slot]? = some s) (filled : s.entry = some id) (he : c.entries[id]? = some e)
    (at_ : e.path.same file = true) : c.ReachedAt file slot id e := by
  obtain ⟨-, e', -, -, he', -, kind_eq, path_eq⟩ := sound.filled hs filled
  obtain rfl := Option.some.inj (he.symm.trans he')
  have key : ∀ path, s.key.same path = true ↔ file.same path = true := fun path => by
    rw [Path.same_iff, Path.same_iff, ← path_eq, Path.same_iff.mp at_]
  have found : ∀ path, c.entryAt? path = some id ↔ file.same path = true := fun path =>
    (sound.entryAt?_iff mem hs filled).trans (key path)
  have ofKind : ∀ path, c.entryOf? e.kind path = some id ↔ file.same path = true := fun path =>
    (sound.entryOf?_iff mem hs filled kind_eq.symm).trans (key path)
  constructor
  case found => exact found
  case ofKind => exact ofKind
  case contained =>
    intro path same
    rw [contains, (found path).mpr same]
    rfl
  case saved =>
    intro path
    rw [fetchesOnSave_iff he, found path]
  case removed => exact fun path => (sound.not_mem_registered_remove mem hs).trans (key path)
  case gone =>
    exact fun path same => sound.isDisposed_remove mem hs filled he ((key path).mpr same)
  case consulted =>
    intro html path
    -- no stylesheet that is searched along with it can be the document itself
    have apart : id ∉ c.stylesheetsFor path := by
      intro listed
      obtain ⟨i, t, ht, css, filled'⟩ := slot_of_mem_stylesheetsFor listed
      cases html.symm.trans ((sound.kind_of_filled ht filled' he).trans css)
    rw [mem_consulted he, ← html, ofKind path]
    simp [apart]
  case links =>
    intro html path same
    rw [linksOf, ← html, (ofKind path).mpr same]
    simp [he]

/-- A call that asks for a path is a create call by path. -/
theorem Call.AsksFor.eq {call : Call} (asks : call.AsksFor kind path) :
    call = .create kind path true := by
  obtain eq | ⟨editor, called, rfl, rfl⟩ := asks
  · exact eq
  · rw [Editor.call?] at called
    split at called
    · exact (Option.some.inj called).symm
    · cases called

/-- Any run in which an entry is asked for by a path and handed out, and any state in which the
entry is still registered. The path has led to a file, and all that is asked of the catalogue by a
path concerns the entry just if the path names the place of that file, the path that was asked for
like any other. -/
theorem created_is_reached_at_file {config : Config} {clock : Time} {call : Call}
    (asks : call.AsksFor kind path) (first : Run (new config clock) early m)
    (rest : Run (m.start call).1 late c)
    (came : c.outcome? m.jobs.length = some (.entry (some id))) (mem : slot ∈ c.registered)
    (hs : c.slots[slot]? = some s) (filled : s.entry = some id) :
    ∃ file e, (path, .ok file) ∈ (m.start call).1.lookups late ∧
      c.entries[id]? = some e ∧ e.kind = kind ∧ e.path.same file = true ∧
      c.ReachedAt file slot id e := by
  obtain rfl := asks.eq
  have step : m.step? (.call (.create kind path true)) =
    some (m.start (.create kind path true)).1 := rfl
  obtain ⟨sound, supervised⟩ := sound_of_run (first.append (.cons step (.nil _)))
  have waits : (m.start (.create kind path true)).1.stage? m.jobs.length =
      some (.resolving kind path) :=
    stage?_setStage_self (stage?_addJob m true) _
  obtain ⟨file, i, t, e, looked, ht, filled', he, kind_eq, -, at_⟩ :=
    entry_of_lookup rest sound supervised waits came
  exact ⟨file, e, looked, he, kind_eq, at_,
    (sound_along rest sound supervised).1.reachedAt mem hs filled he at_⟩

/-- A stylesheet is asked for by a path that leads elsewhere. -/
def askedAround : List Event :=
  .answer 0 (.resolved (.ok ⟨"/a.css"⟩)) :: emptyFile 0

/-- It is found at its file, and not at the path that it was asked for. -/
theorem askedAround_is_reached_at_file :
    ∃ c e, Run ((new {} 0).start (.create .css ⟨"/p/../a.css"⟩ true)).1 askedAround c ∧
      c.entries[0]? = some e ∧ c.ReachedAt ⟨"/a.css"⟩ 0 0 e ∧
      c.entryAt? ⟨"/a.css"⟩ = some 0 ∧ c.entryAt? ⟨"/p/../a.css"⟩ ≠ some 0 := by
  have facts : (((new {} 0).start (.create .css ⟨"/p/../a.css"⟩ true)).1.replay? askedAround).bind
      (fun c => (c.slots[0]?).map fun s => (c.handed? 0, s.entry, c.registered)) =
      some (some 0, some 0, [0]) := by
    decide +kernel
  have looked : (((new {} 0).start (.create .css ⟨"/p/../a.css"⟩ true)).1.lookups askedAround).all
      (fun p => p.2 == .ok ⟨"/a.css"⟩) = true := by
    decide +kernel
  obtain ⟨c, hc, facts⟩ := Option.bind_eq_some_iff.mp facts
  obtain ⟨s, hs, eq⟩ := Option.map_eq_some_iff.mp facts
  simp only [Prod.mk.injEq] at eq
  obtain ⟨came, filled, registered⟩ := eq
  have run := run_iff_replay?.mpr hc
  obtain ⟨file, e, mem, he, -, -, reached⟩ := created_is_reached_at_file (.inl rfl)
    (.nil (new {} 0)) run (outcome?_of_done (stage?_of_handed? came)) (by simp [registered])
    hs filled
  obtain rfl : file = ⟨"/a.css"⟩ :=
    Except.ok.inj (eq_of_beq (List.all_eq_true.mp looked _ mem))
  exact ⟨c, e, run, he, reached, (reached.found _).mpr (by decide +kernel),
    fun found => absurd ((reached.found _).mp found) (by decide +kernel)⟩

/-- A call is handed an entry that is registered and live when nothing is under way, but the
catalogue does not know it by the path of the call: the entry is not found there, it is not fetched
when the path is saved and not removed by it, and a document is not searched for it. -/
def IsUnreachable (kind : EntryKind) (path : Path) (events : List Event) : Prop :=
  ∃ c slot id s e, Run (new {} 0) (.call (.create kind path true) :: events) c ∧
    c.isQuiet = true ∧ c.handed? 0 = some id ∧ slot ∈ c.registered ∧ c.slots[slot]? = some s ∧
    s.entry = some id ∧ c.entries[id]? = some e ∧ e.isDisposed = false ∧
    c.entryOf? kind path = none ∧ c.contains path = false ∧ ¬c.FetchesOnSave path id ∧
    slot ∈ (c.remove path).1.registered ∧ (kind = .html → id ∉ c.consulted path)

/-- A replay is enough to see that what was handed out cannot be reached by its path. -/
theorem isUnreachable_of_replay (slot : SlotId) {events : List Event}
    (replay : ((new {} 0).replay? (.call (.create kind path true) :: events)).bind (fun c =>
      (c.handed? 0).bind fun id => (c.slots[slot]?).bind fun s => (c.entries[id]?).map fun e =>
        (c.isQuiet && c.registered.contains slot && (c.remove path).1.registered.contains slot,
          s.entry == some id && !e.isDisposed && (kind == .css || !(c.consulted path).contains id),
          c.entryAt? path)) = some (true, true, none)) :
    IsUnreachable kind path events := by
  obtain ⟨c, hc, facts⟩ := Option.bind_eq_some_iff.mp replay
  obtain ⟨id, came, facts⟩ := Option.bind_eq_some_iff.mp facts
  obtain ⟨s, hs, facts⟩ := Option.bind_eq_some_iff.mp facts
  obtain ⟨e, he, eq⟩ := Option.map_eq_some_iff.mp facts
  simp only [Prod.mk.injEq, Bool.and_eq_true, Bool.or_eq_true, List.contains_iff_mem, beq_iff_eq,
    Bool.not_eq_true', ← Bool.not_eq_true] at eq
  obtain ⟨⟨⟨quiet, mem⟩, stays⟩, ⟨⟨filled, live⟩, apart⟩, unfound⟩ := eq
  refine ⟨c, slot, id, s, e, run_iff_replay?.mpr hc, quiet, came, mem, hs, filled, he,
    Bool.eq_false_iff.mpr live, ?_, ?_, ?_, stays, ?_⟩
  · refine Option.eq_none_iff_forall_ne_some.mpr fun x found => ?_
    obtain ⟨i, t, at_, -, filled'⟩ := find?_of_entryOf? found
    rw [entryAt?, at_] at unfound
    cases filled'.symm.trans unfound
  · rw [contains, unfound]
    rfl
  · simp [fetchesOnSave_iff he, unfound]
  · rintro rfl listed
    exact (apart.resolve_left (by decide)) listed

/-- A stylesheet and a document that are asked for by a path which leads elsewhere. -/
theorem askedAround_is_unreachable :
    IsUnreachable .css ⟨"/p/../a.css"⟩ askedAround ∧
    IsUnreachable .html ⟨"/p/../a.html"⟩
      [.answer 0 (.resolved (.ok ⟨"/a.html"⟩)), .answer 0 (.stat (.ok ⟨0, 0⟩)),
        .answer 0 (.text (.ok "")), .answer 0 .built, .listen 0] :=
  ⟨isUnreachable_of_replay 0 (by decide +kernel), isUnreachable_of_replay 0 (by decide +kernel)⟩

/-- Any run in which a link is looked up for a stylesheet, by the listener of a document that shows
it as by anyone else, and any state in which the stylesheet is live. For a registered document that
shows this link then, the stylesheet is searched just if one of its links names the place of the
file that the link has led to. -/
theorem linked_is_consulted_iff {config : Config} {clock : Time}
    (first : Run (new config clock) early m) (waits : m.stage? job = some (.resolving .css link))
    (rest : Run m late c) (came : c.outcome? job = some (.entry (some sheet)))
    (hx : c.entries[sheet]? = some d) (live : d.isDisposed = false)
    (found : c.entryOf? .html document = some id) (he : c.entries[id]? = some e)
    (shown : link ∈ e.dependencies) :
    ∃ file, (link, .ok file) ∈ m.lookups late ∧ d.kind = .css ∧ d.path.same file = true ∧
      (sheet ∈ c.consulted document ↔ ∃ other ∈ e.dependencies, other.same file = true) := by
  obtain ⟨sound, supervised⟩ := sound_of_run first
  obtain ⟨file, i, s, d', looked, hs, filled, hx', css, path_eq, at_⟩ :=
    entry_of_lookup rest sound supervised waits came
  obtain rfl := Option.some.inj (hx.symm.trans hx')
  refine ⟨file, looked, css, at_, ?_⟩
  have sound_c := (sound_along rest sound supervised).1
  -- what is live is registered
  have mem : i ∈ c.registered := Classical.byContradiction fun out => by
    cases (sound_c.evicted.gone hs filled out hx).symm.trans live
  have reached := sound_c.reachedAt mem hs filled hx at_
  have links : c.linksOf document = e.dependencies := by
    rw [linksOf, found]
    simp [he]
  have listed : sheet ∈ c.stylesheetsFor document ↔
      ∃ other ∈ e.dependencies, other.same file = true := by
    rw [mem_stylesheetsFor (by rw [links]; exact List.ne_nil_of_mem shown), links]
    simp only [← css, reached.ofKind, Path.same_comm file]
  rw [mem_consulted hx, listed]
  have apart : c.entryOf? .html document ≠ some sheet := by
    intro same
    obtain ⟨k, t, at_, html, filled'⟩ := find?_of_entryOf? same
    cases css.symm.trans ((sound_c.kind_of_filled (find?_some at_).2.1 filled' hx).trans html)
  simp [apart, live]

/-- A document is constructed. -/
def documentRead (text : String) : List Event :=
  [.call (.create .html ⟨"/i.html"⟩ false), .answer 0 (.stat (.ok ⟨0, 68⟩)),
    .answer 0 (.text (.ok text)), .answer 0 .built]

/-- A document links a stylesheet under another name, and then under its own. -/
def linkedTwice : List Event :=
  documentRead "<link rel=stylesheet href=link.css><link rel=stylesheet href=real.css>" ++
    [.listen 0]

/-- Both links lead to the same file. -/
def bothLead : List Event :=
  .answer 2 (.resolved (.ok ⟨"/real.css"⟩)) :: emptyFile 2 ++
    .answer 3 (.resolved (.ok ⟨"/real.css"⟩)) :: emptyFile 3

/-- The stylesheet that the first link leads to is searched because of the second. -/
theorem linkedTwice_is_consulted :
    ∃ m c, Run (new {} 0) linkedTwice m ∧ m.stage? 2 = some (.resolving .css ⟨"/link.css"⟩) ∧
      Run m bothLead c ∧ c.outcome? 2 = some (.entry (some 1)) ∧ 1 ∈ c.consulted ⟨"/i.html"⟩ := by
  have facts : ((new {} 0).replay? linkedTwice).bind (fun m => (m.replay? bothLead).bind fun c =>
      (c.entries[0]?).bind fun e => (c.entries[1]?).map fun d =>
        (m.sought? 2, c.handed? 2, c.entryOf? .html ⟨"/i.html"⟩, e.dependencies, d.isDisposed)) =
      some (some (.css, ⟨"/link.css"⟩), some 1, some 0, [⟨"/link.css"⟩, ⟨"/real.css"⟩], false) := by
    decide +kernel
  have looked : ((new {} 0).replay? linkedTwice).all (fun m =>
      (m.lookups bothLead).all fun p => p.2 == .ok ⟨"/real.css"⟩) = true := by
    decide +kernel
  obtain ⟨m, hm, facts⟩ := Option.bind_eq_some_iff.mp facts
  obtain ⟨c, hc, facts⟩ := Option.bind_eq_some_iff.mp facts
  obtain ⟨e, he, facts⟩ := Option.bind_eq_some_iff.mp facts
  obtain ⟨d, hd, eq⟩ := Option.map_eq_some_iff.mp facts
  simp only [Prod.mk.injEq] at eq
  obtain ⟨sought, came, found, links, live⟩ := eq
  have first := run_iff_replay?.mpr hm
  have rest := run_iff_replay?.mpr hc
  have waits := stage?_of_sought? sought
  have came := outcome?_of_done (stage?_of_handed? came)
  obtain ⟨file, mem, -, -, searched⟩ :=
    linked_is_consulted_iff first waits rest came hd live found he (by simp [links])
  obtain rfl : file = ⟨"/real.css"⟩ := by
    rw [hm] at looked
    exact Except.ok.inj (eq_of_beq (List.all_eq_true.mp looked _ mem))
  -- the document links the file itself too, and that path leads to its entry
  exact ⟨m, c, first, waits, rest, came,
    searched.mpr ⟨⟨"/real.css"⟩, by simp [links], by decide +kernel⟩⟩

/-- The listener of a document looks its only link up, which leads to a file of another name. The
live stylesheet that it comes to is not searched for the document when nothing is under way. -/
theorem linked_elsewhere_is_not_consulted :
    ∃ x m c e d, Run (new {} 0) (documentRead "<link rel=stylesheet href=link.css>") x ∧
      x.listen? 0 = some m ∧ x.stage? 2 = none ∧
      m.stage? 2 = some (.resolving .css ⟨"/link.css"⟩) ∧
      Run m (.answer 2 (.resolved (.ok ⟨"/real.css"⟩)) :: emptyFile 2) c ∧ c.isQuiet = true ∧
      c.outcome? 2 = some (.entry (some 1)) ∧ c.entries[1]? = some d ∧ d.kind = .css ∧
      d.isDisposed = false ∧ c.entryOf? .html ⟨"/i.html"⟩ = some 0 ∧ c.entries[0]? = some e ∧
      e.dependencies = [⟨"/link.css"⟩] ∧ c.consulted ⟨"/i.html"⟩ = [0] := by
  have facts : ((new {} 0).replay? (documentRead "<link rel=stylesheet href=link.css>")).bind
      (fun x => (x.listen? 0).bind fun m =>
      (m.replay? (.answer 2 (.resolved (.ok ⟨"/real.css"⟩)) :: emptyFile 2)).bind fun c =>
      (c.entries[0]?).bind fun e => (c.entries[1]?).map fun d =>
        ((x.stage? 2).isNone && c.isQuiet && !d.isDisposed && d.kind == .css,
          c.handed? 2 == some 1 && c.entryOf? .html ⟨"/i.html"⟩ == some 0,
          e.dependencies == [⟨"/link.css"⟩] && c.consulted ⟨"/i.html"⟩ == [0], m.sought? 2)) =
      some (true, true, true, some (.css, ⟨"/link.css"⟩)) := by
    decide +kernel
  obtain ⟨x, hx, facts⟩ := Option.bind_eq_some_iff.mp facts
  obtain ⟨m, listens, facts⟩ := Option.bind_eq_some_iff.mp facts
  obtain ⟨c, hc, facts⟩ := Option.bind_eq_some_iff.mp facts
  obtain ⟨e, he, facts⟩ := Option.bind_eq_some_iff.mp facts
  obtain ⟨d, hd, eq⟩ := Option.map_eq_some_iff.mp facts
  simp only [Prod.mk.injEq, Bool.and_eq_true, Bool.not_eq_true', beq_iff_eq,
    Option.isNone_iff_eq_none] at eq
  obtain ⟨⟨⟨⟨fresh, quiet⟩, live⟩, css⟩, ⟨came, found⟩, ⟨links, searched⟩, sought⟩ :=
    eq
  -- the document links only the other path, so just its own entry is searched
  exact ⟨x, m, c, e, d, run_iff_replay?.mpr hx, listens, fresh, stage?_of_sought? sought,
    run_iff_replay?.mpr hc, quiet, outcome?_of_done (stage?_of_handed? came), hd, css, live, found,
    he, links, searched⟩

end SelectorCatalog.Catalog
