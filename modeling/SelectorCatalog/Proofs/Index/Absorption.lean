import SelectorCatalog.Proofs.Index.Additions

/-!
# What an index holds already

A candidate that an index holds changes nothing when it is added again, and any other candidate
does (`add_eq_self_iff`). Since nothing that was added is ever lost by another addition, a list of
candidates changes nothing if and only if all of them are held (`foldl_add_eq_self_iff`). So rules
are absorbed by an index that was given them before from the same source, in whatever order and
however often they are drawn (`drawn_rules_are_absorbed`).
-/

namespace SelectorCatalog

/-- Nothing is inserted when it is there. -/
theorem insertNew_eq_self_iff [BEq α] [LawfulBEq α] {x : α} {kept : List α} :
    insertNew x kept = kept ↔ x ∈ kept := by
  constructor
  · intro eq
    exact eq ▸ mem_insertNew.mpr (.inr rfl)
  · intro mem
    rw [insertNew, if_pos (List.contains_iff_mem.mpr mem)]

namespace Names

/-- Whether names have a candidate already: a class under the key of its tag, or an id. -/
def Holds (names : Names) : Candidate → Prop
  | .class tag name => name ∈ names.bucket (tagKey (some tag))
  | .id name => name ∈ names.ids

variable {names : Names} {candidate : Candidate} {candidates : List Candidate}

/-! ## One candidate -/

/-- An insertion under a key changes nothing if the class is kept there, and only then. -/
theorem insertUnder_eq_self_iff {key name : String} {kept : List (String × List String)}
    (ids : List String) :
    insertUnder key name kept = kept ↔ name ∈ bucket ⟨kept, ids⟩ key := by
  induction kept with
  | nil => simp [insertUnder, bucket]
  | cons p rest ih =>
      obtain ⟨key', inner⟩ := p
      by_cases same : key' = key
      · simp [insertUnder, bucket, same, insertNew_eq_self_iff]
      · simpa [insertUnder, bucket, same] using ih

/-- A candidate changes nothing when it is held. -/
theorem add_eq_self_iff : names.add candidate = names ↔ names.Holds candidate := by
  obtain ⟨classes, ids⟩ := names
  cases candidate with
  | «class» tag name => simp [add, Holds, ← insertUnder_eq_self_iff]
  | id name => simp [add, Holds, insertNew_eq_self_iff]

/-- A candidate is held once it was added. -/
theorem holds_add (names : Names) (candidate : Candidate) :
    (names.add candidate).Holds candidate := by
  cases candidate with
  | «class» tag name => exact (mem_bucket_add _ names _ name).mpr (.inr ⟨some tag, rfl, rfl⟩)
  | id name => exact (mem_ids_add names _ name).mpr (.inr rfl)

/-- What is held stays held. -/
theorem Holds.add (held : names.Holds candidate) (other : Candidate) :
    (names.add other).Holds candidate := by
  cases candidate with
  | «class» tag name => exact (prefix_bucket_add _ names other).subset held
  | id name => exact (prefix_ids_add names other).subset held

/-! ## All candidates of a list -/

/-- What is held stays so when more is added. -/
theorem Holds.foldl_add (held : names.Holds candidate) (candidates : List Candidate) :
    (candidates.foldl Names.add names).Holds candidate := by
  induction candidates generalizing names with
  | nil => exact held
  | cons other rest ih => exact ih (held.add other)

/-- Every candidate that was added is held at the end. -/
theorem holds_foldl_add (names : Names) (mem : candidate ∈ candidates) :
    (candidates.foldl add names).Holds candidate := by
  induction candidates generalizing names with
  | nil => cases mem
  | cons first rest ih =>
      rcases List.mem_cons.mp mem with rfl | later
      · exact (holds_add names candidate).foldl_add rest
      · exact ih (names.add first) later

/-- Candidates change nothing if all of them are held, and only then. -/
theorem foldl_add_eq_self_iff :
    candidates.foldl add names = names ↔ ∀ candidate ∈ candidates, names.Holds candidate := by
  constructor
  · intro eq candidate mem
    exact eq ▸ holds_foldl_add names mem
  · intro held
    induction candidates with
    | nil => rfl
    | cons first rest ih =>
        rw [List.foldl_cons, add_eq_self_iff.mpr (held first List.mem_cons_self)]
        exact ih fun candidate mem => held candidate (List.mem_cons_of_mem first mem)

end Names

/-! ## Rules -/

/-- A rule declares the same names wherever it stands, for spellings are recovered from the source
alone. -/
theorem candidates_subset {rules drawn : List Rule} (source : String) (h : drawn ⊆ rules) :
    candidates drawn source ⊆ candidates rules source := by
  intro candidate mem
  simp only [candidates, Rule.flattenStyles, List.mem_flatMap] at mem ⊢
  obtain ⟨compound, ⟨selectors, ⟨rule, hr, hs⟩, hc⟩, declared⟩ := mem
  exact ⟨compound, ⟨selectors, ⟨rule, h hr, hs⟩, hc⟩, declared⟩

/-- Rules change nothing in an index that holds all they declare, and only there. -/
theorem addRules_live_eq_self_iff {names : Names} {rules : List Rule} {source : String} :
    (SelectorIndex.live names).addRules rules source = .live names ↔
      ∀ candidate ∈ candidates rules source, names.Holds candidate := by
  rw [SelectorIndex.addRules, SelectorIndex.modify, SelectorIndex.live.injEq]
  exact Names.foldl_add_eq_self_iff

/-- Rules that were added are absorbed when some of them come again. -/
theorem addRules_addRules_of_subset (index : SelectorIndex) {rules again : List Rule}
    (source : String) (h : again ⊆ rules) :
    (index.addRules rules source).addRules again source = index.addRules rules source := by
  cases index with
  | disposed => rfl
  | live names =>
      refine addRules_live_eq_self_iff.mpr fun candidate mem => ?_
      exact Names.holds_foldl_add names (candidates_subset source h mem)

/-- Rules that were added are absorbed when they come again. Whatever an index holds, and whatever
rules and source it is given, to add some of these rules once more, in any order and any number of
times, leaves it as it is: its keys, the classes under every one of them, the ids, and the order of
them all. In particular all the rules may be added twice. -/
theorem drawn_rules_are_absorbed (index : SelectorIndex) (rules drawn : List Rule)
    (source : String) (h : drawn ⊆ rules) :
    (index.addRules rules source).addRules drawn source = index.addRules rules source ∧
      (index.addRules rules source).addRules rules source = index.addRules rules source :=
  ⟨addRules_addRules_of_subset index source h,
    addRules_addRules_of_subset index source (List.Subset.refl rules)⟩

/-- Two rules are added to an index that holds a class, and are drawn again, one of them twice. -/
theorem repeated_rules_are_absorbed :
    let index := SelectorIndex.empty.addClass "Bar" (some "*")
    let rules : List Rule := [.style "*#top.foo", .media [.style "*.bar"]]
    let drawn : List Rule := [.media [.style "*.bar"], .style "*#top.foo", .media [.style "*.bar"]]
    let source := "*#Top.Foo{}@media{*.Bar,*.bar{}}"
    drawn ⊆ rules ∧
      index.addRules rules source = .live ⟨[(anyTag, ["Bar", "Foo", "bar"])], ["Top"]⟩ ∧
      (index.addRules rules source).addRules drawn source = index.addRules rules source := by
  intro index rules drawn source
  have sub : drawn ⊆ rules := by simp [drawn, rules]
  exact ⟨sub, by decide +kernel, (drawn_rules_are_absorbed index rules drawn source sub).1⟩

end SelectorCatalog
