import SelectorCatalog.Proofs.Catalog.Claims
import SelectorCatalog.Proofs.Catalog.Coherence
import SelectorCatalog.Proofs.Catalog.Project

/-!
# What a catalogue becomes

A catalogue in which nothing is under way is brought up to date: stylesheets are added, with entries
that are constructed in their own time, and then others are removed. `Reflects` says what may have
become of it so far. It is kept by each kind of change there is on the way, in whatever order these
come, so that nothing has to be said of the order itself.

* `Reflects.opened`, `Reflects.shared`: a stylesheet is added where nothing is registered, or
  something is already.
* `Reflects.touched`, `Reflects.unmoved`: entries are constructed, listeners go on.
* `Reflects.removeGone`: stylesheets are removed.
* `Reflects.isUpToDate`: what is registered in the end.
-/

namespace SelectorCatalog

/-- A path leads to none of the places of some paths. -/
def Path.IsApartFrom (path : Path) (paths : List Path) : Prop :=
  ∀ p ∈ paths, path.same p = false

namespace Catalog

open Job (Outcome Purpose Plan Stage)

/-- What a catalogue has become once some paths were added and others are gone. Of the slots that it
had only those at places that are gone have changed. Each new slot is that of a stylesheet added
where nothing was registered, and its entry is new too. -/
structure Reflects (c : Catalog) (added gone : List Path) (x : Catalog) : Prop where
  length_le : c.entries.length ≤ x.entries.length
  slot : ∀ {i : SlotId} {s : Slot}, c.slots[i]? = some s → x.slots[i]? = some s
  entry : ∀ {i : SlotId} {s : Slot} {id : EntryId} {e : Entry}, c.slots[i]? = some s →
    s.entry = some id → c.entries[id]? = some e → s.key.IsApartFrom gone → x.entries[id]? = some e
  known : ∀ {i : SlotId}, i ∈ x.registered → i < c.slots.length → i ∈ c.registered
  fresh : ∀ {i : SlotId} {s : Slot}, c.slots.length ≤ i → x.slots[i]? = some s →
    s.key ∈ added ∧ c.find? s.key = none ∧ s.kind = .css ∧ ∃ id e, x.owners[i]? = some id ∧
      c.entries.length ≤ id ∧ x.entries[id]? = some e ∧
      (s.key.IsApartFrom gone → i ∈ x.registered ∧ e.isDisposed = false)
  gone : ∀ {i : SlotId} {s : Slot}, i ∈ x.registered → x.slots[i]? = some s →
    s.key.IsApartFrom gone
  covered : ∀ p ∈ added, c.find? p = none →
    ∃ i s, c.slots.length ≤ i ∧ x.slots[i]? = some s ∧ s.key.same p = true

/-- A catalogue is up to date with stylesheets that were added and others that were removed after
that. -/
structure IsUpToDate (c : Catalog) (added removed : List Path) (d : Catalog) : Prop where
  /-- Nothing is registered at a path that was removed, and what was registered there is disposed
  of. -/
  gone : ∀ path ∈ removed, d.find? path = none ∧
    ∀ slot s, c.find? path = some (slot, s) →
      ∃ id e, s.entry = some id ∧ d.entries[id]? = some e ∧ e.isDisposed = true
  /-- What was registered elsewhere is the same as before, of whatever kind, and also where a
  stylesheet was added. It is registered still, unless it was disposed of already. -/
  kept : ∀ {path : Path} {slot : SlotId} {s : Slot}, path.IsApartFrom removed →
    c.find? path = some (slot, s) →
    ∃ id e, s.entry = some id ∧ c.entries[id]? = some e ∧ d.entries[id]? = some e ∧
      (d.find? path = some (slot, s) ∨ e.isDisposed = true ∧ d.find? path = none)
  /-- A stylesheet that was added where nothing was registered has a new entry there. -/
  made : ∀ path ∈ added, path.IsApartFrom removed → c.find? path = none →
    ∃ slot s id e, d.find? path = some (slot, s) ∧ s.kind = .css ∧ s.entry = some id ∧
      d.entries[id]? = some e ∧ e.kind = .css ∧ e.isDisposed = false ∧ c.entries[id]? = none
  /-- Nothing else is registered. -/
  nothing : ∀ {path : Path}, path.IsApartFrom added → c.find? path = none → d.find? path = none

variable {c x y : Catalog} {added gone : List Path} {path : Path} {job part : JobId} {slot : SlotId}
  {id : EntryId}

/-- A list in which only one place has changed is as long as before. -/
theorem length_le_of_getElem? {α : Type} {xs ys : List α} {n : Nat} {y : α}
    (there : ys[n]? = some y)
    (same : ∀ i, n ≠ i → ys[i]? = xs[i]?) : xs.length ≤ ys.length := by
  by_contra less
  have lt : n < ys.length := (List.getElem?_eq_some_iff.mp there).1
  have beyond := same ys.length (Nat.ne_of_lt lt)
  rw [List.getElem?_eq_getElem (Nat.lt_of_not_le less)] at beyond
  simp at beyond

/-- A path is apart from no paths at all. -/
theorem isApartFrom_nil (path : Path) : path.IsApartFrom [] := by
  simp [Path.IsApartFrom]

namespace Reflects

/-- At first nothing was added or is gone. -/
theorem refl (c : Catalog) : Reflects c [] [] c where
  length_le := Nat.le_refl _
  slot hs := hs
  entry _ _ he _ := he
  known mem _ := mem
  fresh ge hs := absurd (List.getElem?_eq_some_iff.mp hs).1 (Nat.not_lt.mpr ge)
  gone _ _ := isApartFrom_nil _
  covered p mem := by cases mem

/-- Jobs and notices do not matter. -/
theorem congr (h : Reflects c added gone x) (slots : y.slots = x.slots)
    (entries : y.entries = x.entries) (registered : y.registered = x.registered)
    (owners : y.owners = x.owners) : Reflects c added gone y where
  length_le := entries ▸ h.length_le
  slot hs := slots ▸ h.slot hs
  entry hs filled he apart := entries ▸ h.entry hs filled he apart
  known mem := h.known (registered ▸ mem)
  fresh ge hs := by
    rw [slots] at hs
    rw [owners, entries, registered]
    exact h.fresh ge hs
  gone mem hs := h.gone (registered ▸ mem) (slots ▸ hs)
  covered := by
    rw [slots]
    exact h.covered

theorem slots_le (h : Reflects c added gone x) : c.slots.length ≤ x.slots.length := by
  by_contra less
  have hs : c.slots[x.slots.length]? = some c.slots[x.slots.length] :=
    List.getElem?_eq_getElem (Nat.lt_of_not_le less)
  simpa using h.slot hs

/-- A slot that is registered for a path was registered for it before, or is new. -/
theorem find?_of_old (h : Reflects c added gone x) (sound : Sound c) {i : SlotId} {s : Slot}
    (mem : i ∈ x.registered) (hs : x.slots[i]? = some s) (same : s.key.same path = true)
    (old : i < c.slots.length) : c.find? path = some (i, s) := by
  have hs' : c.slots[i]? = some c.slots[i] := List.getElem?_eq_getElem old
  obtain rfl := Option.some.inj ((h.slot hs').symm.trans hs)
  exact sound.find? (h.known mem old) hs' same

/-! ## Additions -/

/-- A stylesheet is added where nothing is registered: its entry is constructed. -/
theorem opened (h : Reflects c added [] x) (sound : Sound x) (free : c.find? path = none)
    (job : JobId) : Reflects c (added ++ [path]) [] (x.opened job .css path) where
  length_le := Nat.le_trans h.length_le (by simp [Catalog.opened])
  slot hs := getElem?_append_some _ (h.slot hs)
  entry hs filled he apart := getElem?_append_some _ (h.entry hs filled he apart)
  known {i} mem old := by
    rcases List.mem_append.mp mem with mem | mem
    · exact h.known mem old
    · exact absurd old (Nat.not_lt.mpr (List.mem_singleton.mp mem ▸ h.slots_le))
  -- a fresh slot is an earlier one, or the slot just claimed
  fresh {i s} ge hs := by
    have owners_eq : (x.opened job .css path).owners = x.owners ++ [x.entries.length] := by
      simp [owners, Catalog.opened, Listener.new]
    rw [owners_eq]
    rcases getElem?_concat hs with hs | ⟨rfl, rfl⟩
    · obtain ⟨mem, none, css, id, e, own, new, he, live⟩ := h.fresh ge hs
      refine ⟨List.mem_append_left _ mem, none, css, id, e, getElem?_append_some _ own, new,
        getElem?_append_some _ he, fun apart => ⟨List.mem_append_left _ (live apart).1, ?_⟩⟩
      exact (live apart).2
    · refine ⟨List.mem_append_right _ (List.mem_singleton_self _), free, rfl, x.entries.length,
        sheetFor path, ?_, h.length_le, List.getElem?_concat_length, fun _ => ⟨?_, ?_⟩⟩
      · rw [← sound.owned.length_eq, List.getElem?_concat_length]
      · exact List.mem_append_right _ (List.mem_singleton_self _)
      · exact Entry.isDisposed_beginFetch _
  gone _ _ := isApartFrom_nil _
  -- the path just claimed is covered by its slot
  covered p mem none := by
    rcases List.mem_append.mp mem with mem | mem
    · obtain ⟨i, s, ge, hs, same⟩ := h.covered p mem none
      exact ⟨i, s, ge, getElem?_append_some _ hs, same⟩
    · obtain rfl := List.mem_singleton.mp mem
      exact ⟨x.slots.length, ⟨p, .css, .none⟩, h.slots_le, List.getElem?_concat_length,
        Path.same_iff.mpr rfl⟩

/-- A stylesheet is added where something is registered already. -/
theorem shared (h : Reflects c added [] x) (sound : Sound c) {s : Slot}
    (found : x.find? path = some (slot, s)) : Reflects c (added ++ [path]) [] x where
  length_le := h.length_le
  slot := h.slot
  entry := h.entry
  known := h.known
  fresh ge hs := by
    obtain ⟨mem, rest⟩ := h.fresh ge hs
    exact ⟨List.mem_append_left _ mem, rest⟩
  gone := h.gone
  covered p mem none := by
    rcases List.mem_append.mp mem with mem | mem
    · exact h.covered p mem none
    · obtain rfl := List.mem_singleton.mp mem
      obtain ⟨registered, hs, same⟩ := find?_some found
      rcases Nat.lt_or_ge slot c.slots.length with old | new
      · cases none.symm.trans (h.find?_of_old sound registered hs same old)
      · exact ⟨slot, s, new, hs, same⟩

/-- The entry of a new slot is constructed. -/
theorem touched (h : Reflects c added [] x) (moved : Touches x y part slot id)
    (new : c.slots.length ≤ slot) {s : Slot} (hs : x.slots[slot]? = some s)
    (own : x.owners[slot]? = some id) (here : y.Caches job part s.key slot) :
    Reflects c added [] y := by
  obtain ⟨t, id', e, ht, key, css, own', he, live, -⟩ := here.made
  obtain rfl : id = id' := Option.some.inj (own.symm.trans (moved.owners ▸ own'))
  obtain ⟨among, none, -, id', _, own', new', -, registered⟩ := h.fresh new hs
  obtain rfl : id = id' := Option.some.inj (own.symm.trans own')
  constructor
  case length_le => exact Nat.le_trans h.length_le (length_le_of_getElem? he moved.entries)
  case slot =>
    intro i u hu
    have old := (List.getElem?_eq_some_iff.mp hu).1
    rw [moved.slots i (Nat.ne_of_gt (Nat.lt_of_lt_of_le old new))]
    exact h.slot hu
  case entry =>
    intro i u n d hu filled hd apart
    have old := (List.getElem?_eq_some_iff.mp hd).1
    rw [moved.entries n (Nat.ne_of_gt (Nat.lt_of_lt_of_le old new'))]
    exact h.entry hu filled hd apart
  case known =>
    intro i mem
    exact h.known (moved.registered ▸ mem)
  case fresh =>
    intro i u ge hu
    rw [moved.owners, moved.registered]
    -- the slot in question is the one that the part has touched, or another
    rcases Decidable.eq_or_ne slot i with rfl | ne
    -- its entry is the one that the part caches, and live
    · obtain rfl := Option.some.inj (ht.symm.trans hu)
      rw [key]
      exact ⟨among, none, css, id, e, own, new', he, fun apart => ⟨(registered apart).1, live⟩⟩
    · rw [moved.slots i ne] at hu
      obtain ⟨among, none, css, n, d, own', new', hd, registered⟩ := h.fresh ge hu
      rcases Decidable.eq_or_ne id n with rfl | ne
      · exact ⟨among, none, css, id, e, own', new', he, fun apart => ⟨(registered apart).1, live⟩⟩
      · exact ⟨among, none, css, n, d, own', new', (moved.entries n ne).trans hd, registered⟩
  case gone =>
    intro i u _ _
    exact isApartFrom_nil _
  case covered =>
    intro p mem none
    obtain ⟨i, u, ge, hu, same⟩ := h.covered p mem none
    rcases Decidable.eq_or_ne slot i with rfl | ne
    · obtain rfl := Option.some.inj (hs.symm.trans hu)
      exact ⟨slot, t, ge, ht, key ▸ same⟩
    · exact ⟨i, u, ge, (moved.slots i ne).trans hu, same⟩

/-- A listener goes on: the slot of an entry that was disposed of before may leave the registry. -/
theorem unmoved (h : Reflects c added gone x) (u : Unmoved x y) : Reflects c added gone y := by
  have subset : ∀ i ∈ y.registered, i ∈ x.registered := by
    intro i mem
    rcases u.registered with same | ⟨_, _, _, -, -, -, same⟩
    · exact same ▸ mem
    · rw [same] at mem
      exact (List.mem_filter.mp mem).1
  constructor
  case length_le => exact u.entries ▸ h.length_le
  case slot =>
    rw [u.slots]
    exact h.slot
  case entry =>
    rw [u.entries]
    exact h.entry
  case known =>
    intro i mem
    exact h.known (subset i mem)
  case fresh =>
    intro i s ge hs
    rw [u.slots] at hs
    obtain ⟨among, none, css, id, e, own, new, he, registered⟩ := h.fresh ge hs
    refine ⟨among, none, css, id, e, u.owners ▸ own, new, u.entries ▸ he, ?_⟩
    intro apart
    obtain ⟨mem, live⟩ := registered apart
    refine ⟨?_, live⟩
    rcases u.registered with same | ⟨n, id', e', own', he', gone', same⟩
    · exact same ▸ mem
    · rw [same, List.mem_filter]
      refine ⟨mem, bne_iff_ne.mpr ?_⟩
      -- the entry of the slot that leaves is disposed of, and this one is live
      rintro rfl
      obtain rfl := Option.some.inj (own.symm.trans own')
      obtain rfl := Option.some.inj (he.symm.trans he')
      cases live.symm.trans gone'
  case gone =>
    intro i s mem hs
    exact h.gone (subset i mem) (u.slots ▸ hs)
  case covered =>
    rw [u.slots]
    exact h.covered

/-! ## Removals -/

/-- A removal leaves the entries of other places as they are. -/
theorem entry_of_remove (sound : Sound x) {i : SlotId} {s : Slot} (hs : x.slots[i]? = some s)
    (own : x.owners[i]? = some id) (apart : s.key.same path = false) :
    (x.remove path).1.entries[id]? = x.entries[id]? := by
  rw [remove]
  cases found : x.find? path with
  | none => rfl
  | some at_ =>
      obtain ⟨j, t⟩ := at_
      obtain ⟨-, ht, same⟩ := find?_some found
      show ((x.unregister j).disposeSlot j).entries[id]? = _
      have held : ((x.unregister j).slots[j]?).bind (·.entry) = t.entry := by
        show (x.slots[j]?).bind _ = _
        rw [ht, Option.bind_some]
      rw [disposeSlot, held]
      cases filled : t.entry with
      | none => rfl
      | some id' =>
          refine List.getElem?_modify_ne _ _ ?_
          rintro rfl
          -- no two slots have the same entry
          have own' := sound.owned.filled ht filled
          obtain rfl : j = i :=
            (List.getElem?_inj (List.getElem?_eq_some_iff.mp own').1 sound.owned.nodup).mp
              (own'.trans own.symm)
          obtain rfl := Option.some.inj (hs.symm.trans ht)
          cases apart.symm.trans same

/-- A path is apart from one path more when it is apart from that one too. -/
theorem isApartFrom_concat {paths : List Path} {p : Path} :
    path.IsApartFrom (paths ++ [p]) ↔ path.IsApartFrom paths ∧ path.same p = false := by
  simp [Path.IsApartFrom, or_imp, forall_and]

/-- One path is removed. -/
theorem remove (h : Reflects c added gone x) (sound : Sound x) (path : Path) :
    Reflects c added (gone ++ [path]) (x.remove path).1 := by
  obtain ⟨rs, es, eq, disposals⟩ := remove_spec x path
  have slots : (x.remove path).1.slots = x.slots := by rw [eq]
  have owners : (x.remove path).1.owners = x.owners := by
    rw [eq]
    rfl
  have before : ∀ i ∈ (x.remove path).1.registered, i < x.slots.length → i ∈ x.registered := by
    intro i mem lt
    have step : x.step? (.remove path) = some (x.remove path).1 := rfl
    exact mem_registered_step? step mem lt
  constructor
  case length_le =>
    rw [eq]
    exact disposals.1 ▸ h.length_le
  case slot =>
    rw [slots]
    exact h.slot
  case entry =>
    intro i s id e hs filled he apart
    obtain ⟨apart, here⟩ := isApartFrom_concat.mp apart
    rw [entry_of_remove sound (h.slot hs) (sound.owned.filled (h.slot hs) filled) here]
    exact h.entry hs filled he apart
  case known =>
    intro i mem old
    exact h.known (before i mem (Nat.lt_of_lt_of_le old h.slots_le)) old
  case fresh =>
    -- what was added stays, unless it is removed now
    intro i s ge hs
    rw [slots] at hs
    obtain ⟨among, none, css, id, e, own, new, he, registered⟩ := h.fresh ge hs
    obtain ⟨d, hd⟩ : ∃ d, (x.remove path).1.entries[id]? = some d := by
      rw [eq]
      rcases disposals.2 id e he with hd | hd <;> exact ⟨_, hd⟩
    refine ⟨among, none, css, id, d, owners ▸ own, new, hd, ?_⟩
    intro apart
    obtain ⟨apart, here⟩ := isApartFrom_concat.mp apart
    obtain ⟨mem, live⟩ := registered apart
    rw [entry_of_remove sound hs own here] at hd
    obtain rfl := Option.some.inj (he.symm.trans hd)
    refine ⟨?_, live⟩
    by_contra out
    cases here.symm.trans ((sound.not_mem_registered_remove mem hs).mp out)
  case gone =>
    intro i s mem hs
    rw [slots] at hs
    have mem' := before i mem (List.getElem?_eq_some_iff.mp hs).1
    refine isApartFrom_concat.mpr ⟨h.gone mem' hs, ?_⟩
    rw [← Bool.not_eq_true]
    intro same
    exact (sound.not_mem_registered_remove mem' hs).mpr same mem
  case covered =>
    rw [slots]
    exact h.covered

/-- Paths are removed one after the other, which is reported. -/
theorem removeGone (h : Reflects c added gone x) (sound : Sound x) (paths : List Path) :
    Reflects c added (gone ++ paths) (x.removeGone paths) := by
  induction paths generalizing gone x with
  | nil => simpa [Catalog.removeGone] using h
  | cons path rest ih =>
      have next := h.remove sound path
      have moves : Moves (fun _ _ => True) x (x.remove path).1 := moves_remove x path
      have sound' := moves.sound sound
      rw [List.append_cons, Catalog.removeGone, List.foldl_cons]
      generalize hr : x.remove path = r at next sound' ⊢
      obtain ⟨d, found⟩ := r
      cases found with
      | false => exact ih next sound'
      | true =>
          have told : Moves (fun _ _ => True) d (d.notify [.stylesheetGone path]) :=
            moves_notify d _
          exact ih (next.congr rfl rfl rfl rfl) (told.sound sound')

/-! ## What is found in the end -/

/-- What is apart from some paths is so in each of its forms. -/
theorem isApartFrom_of_same {paths : List Path} {key : Path} (apart : path.IsApartFrom paths)
    (same : key.same path = true) : key.IsApartFrom paths := by
  intro p mem
  rw [Path.same, Path.same_iff.mp same]
  exact apart p mem

/-- What is found at a path was found there before, or its slot is new. -/
theorem find?_cases (h : Reflects c added gone x) (sound : Sound c) {s : Slot}
    (found : x.find? path = some (slot, s)) :
    c.find? path = some (slot, s) ∨
      c.find? path = none ∧ c.slots.length ≤ slot ∧ s.key ∈ added := by
  obtain ⟨mem, hs, same⟩ := find?_some found
  rcases Nat.lt_or_ge slot c.slots.length with old | new
  · exact .inl (h.find?_of_old sound mem hs same old)
  · obtain ⟨among, none, -⟩ := h.fresh new hs
    exact .inr ⟨(find?_congr same).symm.trans none, new, among⟩

/-- When nothing is under way any more, a catalogue is up to date with what was added and then
removed. -/
theorem isUpToDate (h : Reflects c added gone x) (sound : Sound c)
    (done : c.jobs.all Job.isDone = true) (sound' : Sound x)
    (done' : x.jobs.all Job.isDone = true) : IsUpToDate c added gone x where
  -- nothing is found at a removed path, and what was there is disposed of
  gone path mem := by
    have out : ∀ {i : SlotId} {s : Slot}, x.slots[i]? = some s → s.key.same path = true →
        i ∉ x.registered := by
      intro i s hs same mem'
      cases same.symm.trans (h.gone mem' hs path mem)
    refine ⟨?_, fun slot s found => ?_⟩
    · cases found : x.find? path with
      | none => rfl
      | some at_ =>
          obtain ⟨mem', hs, same⟩ := find?_some found
          exact absurd mem' (out hs same)
    · obtain ⟨-, hs, same⟩ := find?_some found
      obtain ⟨id, filled⟩ := sound.entry_of_done done hs
      obtain ⟨-, e, -, -, he, -⟩ := sound'.filled (h.slot hs) filled
      exact ⟨id, e, filled, he, sound'.evicted.gone (h.slot hs) filled (out (h.slot hs) same) he⟩
  kept {path slot s} apart found := by
    obtain ⟨-, hs, same⟩ := find?_some found
    obtain ⟨id, filled⟩ := sound.entry_of_done done hs
    obtain ⟨-, e, -, -, he, -⟩ := sound.filled hs filled
    have he' := h.entry hs filled he (isApartFrom_of_same apart same)
    refine ⟨id, e, filled, he, he', ?_⟩
    by_cases mem : slot ∈ x.registered
    · exact .inl (sound'.find? mem (h.slot hs) same)
    · refine .inr ⟨sound'.evicted.gone (h.slot hs) filled mem he', ?_⟩
      cases found' : x.find? path with
      | none => rfl
      | some at_ =>
          rcases h.find?_cases sound found' with before | ⟨none, -⟩
          · cases found.symm.trans before
            exact absurd (find?_some found').1 mem
          · cases none.symm.trans found
  made path among apart none := by
    obtain ⟨slot, s, new, hs, same⟩ := h.covered path among none
    obtain ⟨-, -, css, id, e, own, fresh, he, registered⟩ := h.fresh new hs
    obtain ⟨mem, live⟩ := registered (isApartFrom_of_same apart same)
    obtain ⟨id', filled⟩ := sound'.entry_of_done done' hs
    obtain rfl := Option.some.inj (own.symm.trans (sound'.owned.filled hs filled))
    exact ⟨slot, s, id, e, sound'.find? mem hs same, css, filled, he,
      (sound'.kind_of_filled hs filled he).trans css, live, List.getElem?_eq_none fresh⟩
  -- where nothing was, something is found only among the added
  nothing {path} apart none := by
    cases found : x.find? path with
    | none => rfl
    | some at_ =>
        rcases h.find?_cases sound found with before | ⟨-, -, among⟩
        · cases none.symm.trans before
        · have same := (find?_some found).2.2
          rw [Path.same_comm] at same
          cases same.symm.trans (apart _ among)

end Reflects

end Catalog

end SelectorCatalog
