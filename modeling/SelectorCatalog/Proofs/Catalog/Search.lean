import SelectorCatalog.Proofs.Catalog.Coherence

/-!
# What a search reads

A search for a document is put together from the searches of single indices (`findings`): that of
the document's own entry, then those of stylesheets. `Consults` says which these are and in which
order. Links are followed in the order in which they come first, and a document without links is
searched with all stylesheets in the order of their slots.

So a search for a document with links reads the indices found at the document and at its links, and
nothing else (`map_index_targets`): catalogues that agree on these find the same, whatever else they
hold (`search_is_composed`).
-/

namespace SelectorCatalog.Catalog

/-- A slot that is registered for a kind, at the place of a path, holds a live entry. -/
structure HoldsLive (c : Catalog) (kind : EntryKind) (path : Path) (slot : SlotId) (id : EntryId) :
    Prop where
  registered : slot ∈ c.registered
  filled : ∃ s, c.slots[slot]? = some s ∧ s.kind = kind ∧ s.key.same path = true ∧ s.entry = some id
  live : ∃ e, c.entries[id]? = some e ∧ e.isDisposed = false

/-- Which of the document's links is the first that names the place of a stylesheet. -/
def firstLink (c : Catalog) (document : Path) (sheet : EntryId) : Nat :=
  (c.linksOf document).findIdx (c.pathOf sheet).same

/-- The entries that a search for a document is put together from: its own, and those of
stylesheets.
-/
structure Consults (c : Catalog) (document : Path) (own sheets : List EntryId) : Prop where
  mem_own : ∀ id, id ∈ own ↔ ∃ slot, c.HoldsLive .html document slot id
  once : (own ++ sheets).Nodup
  linked : c.linksOf document ≠ [] → ∀ id,
    id ∈ sheets ↔ ∃ link ∈ c.linksOf document, ∃ slot, c.HoldsLive .css link slot id
  byLink : c.linksOf document ≠ [] →
    sheets.Pairwise fun x y => c.firstLink document x < c.firstLink document y
  unlinked : c.linksOf document = [] → ∀ id,
    id ∈ sheets ↔ ∃ path slot, c.HoldsLive .css path slot id
  bySlot : c.linksOf document = [] → sheets.Pairwise fun x y =>
    ∀ p q i j, c.HoldsLive .css p i x → c.HoldsLive .css q j y → i < j

/-- What the indices of entries find, one after the other. -/
def findings (c : Catalog) (ids : List EntryId) (find : SelectorIndex → List String) :
    List String :=
  (ids.filterMap fun id => c.entries[id]?).flatMap fun e => find e.index

/-- The index found at a path, if its entry is of the kind. -/
def indexAt? (c : Catalog) (kind : EntryKind) (path : Path) : Option SelectorIndex :=
  (c.entryOf? kind path).bind fun id => (c.entries[id]?).map (·.index)

/-- Two catalogues agree on a document: on its links, on its own index and on those at its links. -/
structure AgreesOn (c d : Catalog) (document : Path) : Prop where
  links : c.linksOf document = d.linksOf document
  own : c.indexAt? .html document = d.indexAt? .html document
  linked : ∀ link ∈ c.linksOf document, c.indexAt? .css link = d.indexAt? .css link

variable {events : List Event} {c d : Catalog} {document : Path} {kind : EntryKind} {path : Path}
  {slot : SlotId} {id sheet : EntryId}

/-! ## What slots hold -/

/-- The entry of an id, if it is there and live. -/
def isLive (c : Catalog) (id : EntryId) : Bool :=
  (c.entries[id]?).any fun e => !e.isDisposed

/-- An entry is live when it is there and not disposed of. -/
theorem isLive_iff : c.isLive id = true ↔ ∃ e, c.entries[id]? = some e ∧ e.isDisposed = false := by
  simp [isLive, Option.any_eq_true]

/-- What is found at a path is what a registered slot holds for it. -/
theorem Sound.exists_holdsLive_iff (sound : Sound c) :
    (∃ slot, c.HoldsLive kind path slot id) ↔
      c.entryOf? kind path = some id ∧ c.isLive id = true := by
  rw [isLive_iff]
  constructor
  · rintro ⟨slot, mem, ⟨s, hs, kind_eq, same, filled⟩, live⟩
    exact ⟨(sound.entryOf?_iff mem hs filled kind_eq).mpr same, live⟩
  · rintro ⟨found, live⟩
    obtain ⟨i, s, at_, kind_eq, filled⟩ := find?_of_entryOf? found
    obtain ⟨mem, hs, same⟩ := find?_some at_
    exact ⟨i, mem, ⟨s, hs, kind_eq, same, filled⟩, live⟩

/-- The path of the entry that a slot holds is that of the slot. -/
theorem Sound.pathOf_eq (sound : Sound c) {s : Slot} (hs : c.slots[slot]? = some s)
    (filled : s.entry = some id) : c.pathOf id = s.key := by
  obtain ⟨-, e, -, -, he, -, -, path_eq⟩ := sound.filled hs filled
  simp [pathOf, he, path_eq]

/-! ## All stylesheets -/

/-- The entry that a slot holds for a stylesheet. -/
def sheetIn? (c : Catalog) (slot : SlotId) : Option EntryId :=
  (c.slots[slot]?).bind fun s => if s.kind == .css then s.entry else none

/-- The stylesheets are those of the registered slots, in their order. -/
theorem stylesheets_eq (c : Catalog) : c.stylesheets = c.registered.filterMap c.sheetIn? := by
  rw [stylesheets, readySlots, List.filterMap_filter, List.filterMap_filterMap]
  congr 1
  funext slot
  rw [sheetIn?]
  cases c.slots[slot]? with
  | none => rfl
  | some s =>
      cases filled : s.entry with
      | none => simp [filled]
      | some id => simp [filled]

/-- A slot holds a stylesheet when it is of that kind and filled. -/
theorem sheetIn?_eq_some :
    c.sheetIn? slot = some id ↔
      ∃ s, c.slots[slot]? = some s ∧ s.kind = .css ∧ s.entry = some id := by
  simp [sheetIn?, Option.bind_eq_some_iff]

/-- The live stylesheets are what the slots of that kind hold. -/
theorem mem_stylesheets : sheet ∈ c.stylesheets ∧ c.isLive sheet = true ↔
    ∃ path slot, c.HoldsLive .css path slot sheet := by
  rw [stylesheets_eq, List.mem_filterMap, isLive_iff]
  constructor
  · rintro ⟨⟨slot, mem, held⟩, live⟩
    obtain ⟨s, hs, css, filled⟩ := sheetIn?_eq_some.mp held
    exact ⟨s.key, slot, mem, ⟨s, hs, css, Path.same_iff.mpr rfl, filled⟩, live⟩
  · rintro ⟨path, slot, mem, ⟨s, hs, css, -, filled⟩, live⟩
    exact ⟨⟨slot, mem, sheetIn?_eq_some.mpr ⟨s, hs, css, filled⟩⟩, live⟩

/-- All stylesheets come in the order of their slots. -/
theorem Sound.pairwise_stylesheets (sound : Sound c) : c.stylesheets.Pairwise fun x y =>
    ∀ p q i j, c.HoldsLive .css p i x → c.HoldsLive .css q j y → i < j := by
  rw [stylesheets_eq, List.pairwise_filterMap]
  refine sound.registered.sorted.imp fun {i j} before x hx y hy p q k l holds holds' => ?_
  obtain ⟨s, hs, -, filled⟩ := sheetIn?_eq_some.mp hx
  obtain ⟨t, ht, -, filled'⟩ := sheetIn?_eq_some.mp hy
  obtain ⟨-, ⟨s', hs', -, -, filled_k⟩, -⟩ := holds
  obtain ⟨-, ⟨t', ht', -, -, filled_l⟩, -⟩ := holds'
  obtain rfl := sound.slot_unique hs filled hs' filled_k
  obtain rfl := sound.slot_unique ht filled' ht' filled_l
  exact before

/-! ## Linked stylesheets -/

/-- What is left of paths comes in the order in which each place is named first. -/
theorem pairwise_distinct (paths : List Path) : (distinct paths).Pairwise fun a b =>
    paths.findIdx a.same < paths.findIdx b.same := by
  induction paths using List.reverseRecOn with
  | nil => exact .nil
  | append_singleton paths last ih =>
      -- the places named so far are named at the same positions
      have stays : ∀ a ∈ distinct paths,
          (paths ++ [last]).findIdx a.same = paths.findIdx a.same ∧
            paths.findIdx a.same < paths.length := by
        intro a mem
        have lt : paths.findIdx a.same < paths.length :=
          List.findIdx_lt_length_of_exists ⟨a, mem_of_mem_distinct mem, Path.same_iff.mpr rfl⟩
        exact ⟨by rw [List.findIdx_append, if_pos lt], lt⟩
      have before : (distinct paths).Pairwise fun a b =>
          (paths ++ [last]).findIdx a.same < (paths ++ [last]).findIdx b.same :=
        ih.imp_of_mem fun ma mb lt => by rwa [(stays _ ma).1, (stays _ mb).1]
      rw [distinct_append]
      split
      · exact before
      · next fresh =>
        refine List.pairwise_append.mpr ⟨before, List.pairwise_singleton _ _, ?_⟩
        intro a mem b last_mem
        obtain rfl := List.mem_singleton.mp last_mem
        have missing : ¬paths.findIdx b.same < paths.length := by
          rw [List.findIdx_lt_length]
          rintro ⟨p, among, same⟩
          obtain ⟨kept, mem, same'⟩ := exists_same_in_distinct among
          refine fresh (List.any_eq_true.mpr ⟨kept, mem, ?_⟩)
          rw [Path.same_iff] at same same' ⊢
          exact same.trans same'
        rw [(stays a mem).1, List.findIdx_append, if_neg missing]
        exact Nat.lt_add_left _ (stays a mem).2

/-- A document with links is searched with what is found at them. -/
theorem stylesheetsFor_of_links (links : c.linksOf document ≠ []) :
    c.stylesheetsFor document = (distinct (c.linksOf document)).filterMap (c.entryOf? .css) := by
  rw [stylesheetsFor]
  split
  · next none => exact absurd none links
  · rfl

/-- Linked stylesheets come in the order in which they are linked first. -/
theorem Sound.pairwise_linked (sound : Sound c) (links : c.linksOf document ≠ []) :
    (c.stylesheetsFor document).Pairwise fun x y =>
      c.firstLink document x < c.firstLink document y := by
  have at_link : ∀ link x, c.entryOf? .css link = some x →
      c.firstLink document x = (c.linksOf document).findIdx link.same := by
    intro link x found
    obtain ⟨i, s, at_, -, filled⟩ := find?_of_entryOf? found
    obtain ⟨-, hs, same⟩ := find?_some at_
    rw [firstLink, sound.pathOf_eq hs filled]
    congr 1
    funext other
    rw [Path.same, Path.same, Path.same_iff.mp same]
  rw [stylesheetsFor_of_links links, List.pairwise_filterMap]
  refine (pairwise_distinct (c.linksOf document)).imp fun lt x hx y hy => ?_
  rwa [at_link _ x hx, at_link _ y hy]

/-! ## The composition of a search -/

/-- What a search consults is the document's own entry, then stylesheets. -/
theorem Sound.consults (sound : Sound c) (document : Path) :
    c.Consults document ((c.entryOf? .html document).toList.filter c.isLive)
      ((c.stylesheetsFor document).filter c.isLive) := by
  -- with links the stylesheets stand in the order of the first link to them
  have byLink : c.linksOf document ≠ [] →
      ((c.stylesheetsFor document).filter c.isLive).Pairwise fun x y =>
        c.firstLink document x < c.firstLink document y :=
    fun links => (sound.pairwise_linked links).filter _
  have linked : c.linksOf document ≠ [] → ∀ id, id ∈ (c.stylesheetsFor document).filter c.isLive ↔
      ∃ link ∈ c.linksOf document, ∃ slot, c.HoldsLive .css link slot id := by
    intro links id
    simp only [List.mem_filter, mem_stylesheetsFor links, sound.exists_holdsLive_iff]
    grind
  have all : c.linksOf document = [] → c.stylesheetsFor document = c.stylesheets := by
    intro links
    rw [stylesheetsFor, links]
  have unlinked : c.linksOf document = [] → ∀ id,
      id ∈ (c.stylesheetsFor document).filter c.isLive ↔
        ∃ path slot, c.HoldsLive .css path slot id := by
    intro links id
    rw [all links, List.mem_filter]
    exact mem_stylesheets
  -- without links they stand in the order of their slots
  have bySlot : c.linksOf document = [] →
      ((c.stylesheetsFor document).filter c.isLive).Pairwise fun x y =>
        ∀ p q i j, c.HoldsLive .css p i x → c.HoldsLive .css q j y → i < j := by
    intro links
    rw [all links]
    exact sound.pairwise_stylesheets.filter _
  refine ⟨fun id => ?_, List.nodup_append.mpr ⟨?_, ?_, ?_⟩, linked, byLink, unlinked, bySlot⟩
  · rw [sound.exists_holdsLive_iff, List.mem_filter, Option.mem_toList]
  · cases c.entryOf? .html document with
    | none => exact .nil
    | some id => exact (List.pairwise_singleton _ _).filter _
  · -- either order is strict
    by_cases links : c.linksOf document = []
    · refine (bySlot links).imp_of_mem fun mx _ before eq => ?_
      obtain ⟨path, slot, holds⟩ := (unlinked links _).mp mx
      exact Nat.lt_irrefl _ (before path path slot slot holds (eq ▸ holds))
    · exact (byLink links).imp fun lt eq => Nat.ne_of_lt lt (congrArg _ eq)
  · rintro id own _ listed rfl
    -- no slot is one of a document and of a stylesheet
    obtain ⟨i, s, at_, html, filled⟩ :=
      find?_of_entryOf? (Option.mem_toList.mp (List.mem_filter.mp own).1)
    obtain ⟨j, t, ht, css, filled'⟩ := slot_of_mem_stylesheetsFor (List.mem_filter.mp listed).1
    have hs := (find?_some at_).2.1
    obtain rfl := sound.slot_unique hs filled ht filled'
    obtain rfl := Option.some.inj (hs.symm.trans ht)
    cases html.symm.trans css

/-- What is searched is what is consulted. -/
theorem flatMap_targets (c : Catalog) (document : Path) (find : SelectorIndex → List String) :
    (c.targets document).flatMap (fun e => find e.index) =
      c.findings ((c.entryOf? .html document).toList.filter c.isLive ++
        (c.stylesheetsFor document).filter c.isLive) find := by
  rw [targets_eq_consulted, consulted, List.filter_append]
  rfl

/-- A search finds what the indices of the consulted entries find. -/
theorem search_eq_findings (c : Catalog) (document : Path) {ids : List EntryId}
    (consulted : (c.entryOf? .html document).toList.filter c.isLive ++
      (c.stylesheetsFor document).filter c.isLive = ids) :
    (∀ query tag ignore, (c.searchClass document query tag ignore).general =
        c.findings ids fun index => index.searchClass query anyTag ignore) ∧
      (∀ query tag ignore, tag ≠ "" → (c.searchClass document query (some tag) ignore).specific =
        c.findings ids fun index => index.searchClass query tag ignore) ∧
      ∀ query, c.searchId document query = c.findings ids fun index => index.searchId query := by
  subst consulted
  refine ⟨fun query _ ignore => ?_, fun query tag ignore named => ?_, fun query => ?_⟩
  · exact flatMap_targets c document fun index => index.searchClass query anyTag ignore
  · have kept : (some tag).filter (!·.isEmpty) = some tag := by simp [named]
    simp only [searchClass, kept]
    exact flatMap_targets c document fun index => index.searchClass query tag ignore
  · exact flatMap_targets c document fun index => index.searchId query

/-- The indices that a search for a document with links reads. -/
theorem map_index_targets (links : c.linksOf document ≠ []) :
    (c.targets document).map (·.index) =
      ((c.indexAt? .html document).toList ++
        (distinct (c.linksOf document)).filterMap (c.indexAt? .css)).filter (!·.isDisposed) := by
  have own : ((c.entryOf? .html document).toList.filterMap fun id =>
      (c.entries[id]?).map (·.index)) = (c.indexAt? .html document).toList := by
    rw [indexAt?]
    cases c.entryOf? .html document with
    | none => rfl
    | some id => cases h : c.entries[id]? <;> simp [h]
  have linked : ((distinct (c.linksOf document)).filterMap (c.entryOf? .css)).filterMap
      (fun id => (c.entries[id]?).map (·.index)) =
      (distinct (c.linksOf document)).filterMap (c.indexAt? .css) := List.filterMap_filterMap
  rw [← own, ← linked, ← List.filterMap_append, targets, stylesheetsFor_of_links links,
    ← List.map_filterMap, List.filter_map]
  rfl

/-- Catalogues that agree on a document with links are searched alike for it. -/
theorem AgreesOn.flatMap_targets (agrees : c.AgreesOn d document) (links : c.linksOf document ≠ [])
    (find : SelectorIndex → List String) :
    (c.targets document).flatMap (fun e => find e.index) =
      (d.targets document).flatMap (fun e => find e.index) := by
  have same : (c.targets document).map (·.index) = (d.targets document).map (·.index) := by
    rw [map_index_targets links, map_index_targets (agrees.links ▸ links), agrees.own,
      ← agrees.links]
    congr 2
    exact List.filterMap_congr fun link mem => agrees.linked link (mem_of_mem_distinct mem)
  have read : ∀ b : Catalog, (b.targets document).flatMap (fun e => find e.index) =
      ((b.targets document).map (·.index)).flatMap find := fun b => by rw [List.flatMap_map]
  rw [read, read, same]

/-- Any run, any state in it and any document. What a search finds is what the indices of the
entries that it consults find, one after the other; and for a document with links any catalogue that
agrees on it finds the same, whatever else the two hold. -/
theorem search_is_composed {config : Config} {clock : Time}
    (run : Run (new config clock) events c) (document : Path) :
    ∃ own sheets, c.Consults document own sheets ∧
      (∀ query tag ignore, (c.searchClass document query tag ignore).general =
        c.findings (own ++ sheets) fun index => index.searchClass query anyTag ignore) ∧
      (∀ query tag ignore, tag ≠ "" → (c.searchClass document query (some tag) ignore).specific =
        c.findings (own ++ sheets) fun index => index.searchClass query tag ignore) ∧
      (∀ query, c.searchId document query =
        c.findings (own ++ sheets) fun index => index.searchId query) ∧
      ∀ d, c.linksOf document ≠ [] → c.AgreesOn d document →
        c.searchClass document = d.searchClass document ∧
          c.searchId document = d.searchId document := by
  obtain ⟨general, specific, ids⟩ := search_eq_findings c document rfl
  refine ⟨_, _, (sound_of_run run).1.consults document, general, specific, ids,
    fun d links agrees => ⟨?_, ?_⟩⟩
  · funext query tag ignore
    have read := fun tag =>
      agrees.flatMap_targets links fun index => index.searchClass query tag ignore
    simp only [searchClass, read]
  · funext query
    exact agrees.flatMap_targets links fun index => index.searchId query

/-- A stylesheet that declares one class is constructed. -/
def sheetRead (job : JobId) (path name : String) : List Event :=
  [.call (.create .css ⟨path⟩ false), .answer job (.stat (.ok ⟨0, 0⟩)),
    .answer job (.text (.ok ("." ++ name ++ "{}"))),
    .answer job (.parsed 0 (.ok [.style ("." ++ name)])), .answer job .built]

/-- A document that links a stylesheet twice, the stylesheet, and another one beside it. -/
def linkedBeside (other : String) : List Event :=
  documentRead "<link rel=stylesheet href=a.css><link rel=stylesheet href=./a.css>" ++
    sheetRead 1 "/a.css" "a" ++ sheetRead 2 other "x"

/-- Whatever the other stylesheet is, only the one that is linked is searched, and only once. -/
theorem linkedBeside_is_searched_alike :
    ∃ c d, Run (new {} 0) (linkedBeside "/x.css") c ∧ Run (new {} 0) (linkedBeside "/y.css") d ∧
      c.stylesheetPaths = [⟨"/a.css"⟩, ⟨"/x.css"⟩] ∧ d.stylesheetPaths = [⟨"/a.css"⟩, ⟨"/y.css"⟩] ∧
      c.searchClass ⟨"/i.html"⟩ = d.searchClass ⟨"/i.html"⟩ ∧
      c.searchClass ⟨"/i.html"⟩ "" none [] = ⟨[], ["a"]⟩ := by
  have facts : ((new {} 0).replay? (linkedBeside "/x.css")).bind (fun c =>
      ((new {} 0).replay? (linkedBeside "/y.css")).map fun d =>
        (c.stylesheetPaths, d.stylesheetPaths, c.linksOf ⟨"/i.html"⟩,
          c.linksOf ⟨"/i.html"⟩ == d.linksOf ⟨"/i.html"⟩ &&
            c.indexAt? .html ⟨"/i.html"⟩ == d.indexAt? .html ⟨"/i.html"⟩ &&
            c.indexAt? .css ⟨"/a.css"⟩ == d.indexAt? .css ⟨"/a.css"⟩ &&
            c.searchClass ⟨"/i.html"⟩ "" none [] == ⟨[], ["a"]⟩)) =
      some ([⟨"/a.css"⟩, ⟨"/x.css"⟩], [⟨"/a.css"⟩, ⟨"/y.css"⟩], [⟨"/a.css"⟩, ⟨"/a.css"⟩],
        true) := by
    decide +kernel
  obtain ⟨c, hc, facts⟩ := Option.bind_eq_some_iff.mp facts
  obtain ⟨d, hd, eq⟩ := Option.map_eq_some_iff.mp facts
  simp only [Prod.mk.injEq, Bool.and_eq_true, beq_iff_eq] at eq
  obtain ⟨all_c, all_d, links, ⟨⟨same, own⟩, linked⟩, found⟩ := eq
  have run := run_iff_replay?.mpr hc
  obtain ⟨-, -, -, -, -, -, alike⟩ := search_is_composed run ⟨"/i.html"⟩
  -- the two catalogues differ only in the stylesheet that is not linked
  have agrees : c.AgreesOn d ⟨"/i.html"⟩ := by
    refine ⟨same, own, fun link mem => ?_⟩
    obtain rfl : link = ⟨"/a.css"⟩ := by simpa [links] using mem
    exact linked
  exact ⟨c, d, run, run_iff_replay?.mpr hd, all_c, all_d,
    (alike d (by simp [links]) agrees).1, found⟩

end SelectorCatalog.Catalog
