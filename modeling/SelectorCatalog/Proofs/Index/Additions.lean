import SelectorCatalog.Proofs.Index.Names
import SelectorCatalog.Proofs.Selector.Recovery

/-!
# What rules add to an index

Rules are added to an index that holds any names. What the index holds already stays, in its order,
in front of what is added; and what is added is authored in the source, in a spelling of a name that
a style rule has (`additions_are_authored`). This is said for any rules and any source, whether they
belong together or not.
-/

namespace SelectorCatalog

open Spelling

/-- A style rule with these selectors stands at the top level, or directly in a media rule there. -/
def Rule.Reaches (rules : List Rule) (selectors : String) : Prop :=
  .style selectors ∈ rules ∨ ∃ nested, .media nested ∈ rules ∧ .style selectors ∈ nested

/-- A key is that of a tag: of any element for no tag and for `*`, and otherwise the tag in lower
case. -/
def IsKeyOf (tag key : String) : Prop :=
  (tag = "" ∨ tag = "*") ∧ key = anyTag ∨ (tag ≠ "" ∧ tag ≠ "*") ∧ key = Text.asciiLower tag

/-- Some names with what rules and their source add to them. -/
structure Extends (rules : List Rule) (source : String) (before after : Names) : Prop where
  /-- The keys that there are stay, in order. -/
  keys : before.classes.map (·.1) <+: after.classes.map (·.1)
  /-- The classes of every key stay, in order. -/
  classes : ∀ key, before.bucket key <+: after.bucket key
  /-- The ids stay, in order. -/
  ids : before.ids <+: after.ids
  /-- A class that was not there is that of a style rule, under the key of its tag. -/
  newClass : ∀ key name, name ∈ after.bucket key → name ∉ before.bucket key →
    ∃ selectors, Rule.Reaches rules selectors ∧ ∃ c ∈ Compound.scan selectors,
      IsKeyOf c.tag key ∧ ∃ token ∈ c.classes, Respells .className source token name
  /-- An id that was not there is that of a style rule. -/
  newId : ∀ name, name ∈ after.ids → name ∉ before.ids →
    ∃ selectors, Rule.Reaches rules selectors ∧ ∃ c ∈ Compound.scan selectors,
      ∃ token ∈ c.id, Respells .idName source token name

/-! ## Rules and recovered names -/

/-- The style rules are flattened to the selectors that are reached. -/
theorem Rule.mem_flattenStyles {rules : List Rule} {selectors : String} :
    selectors ∈ flattenStyles rules ↔ Reaches rules selectors := by
  have text (rule : Rule) : rule.styleText? = some selectors ↔ rule = .style selectors := by
    cases rule <;> simp [styleText?]
  have texts (rule : Rule) : selectors ∈ rule.styleTexts ↔
      rule = .style selectors ∨ ∃ nested, rule = .media nested ∧ .style selectors ∈ nested := by
    cases rule <;> simp [styleTexts, text, eq_comm]
  simp only [flattenStyles, List.mem_flatMap, texts, Reaches]
  constructor
  · rintro ⟨_, mem, rfl | ⟨nested, rfl, inner⟩⟩
    · exact .inl mem
    · exact .inr ⟨nested, mem, inner⟩
  · rintro (mem | ⟨nested, mem, inner⟩)
    · exact ⟨_, mem, .inl rfl⟩
    · exact ⟨_, mem, .inr ⟨nested, rfl, inner⟩⟩

/-- The compounds of the style rules, rule by rule. -/
theorem Rule.exists_scan_iff {rules : List Rule} {P : Compound → Prop} :
    (∃ c ∈ (flattenStyles rules).flatMap Compound.scan, P c) ↔
      ∃ selectors, Reaches rules selectors ∧ ∃ c ∈ Compound.scan selectors, P c := by
  simp only [List.mem_flatMap, mem_flattenStyles]
  constructor
  · rintro ⟨c, ⟨selectors, reached, mem⟩, holds⟩
    exact ⟨selectors, reached, c, mem, holds⟩
  · rintro ⟨selectors, reached, c, mem, holds⟩
    exact ⟨c, ⟨selectors, reached, mem⟩, holds⟩

/-- Each tag is filed under its key. -/
theorem isKeyOf_tagKey (tag : String) : IsKeyOf tag (tagKey (some tag)) := by
  by_cases any : IsAnyTag (some tag)
  · rw [tagKey_eq_anyTag.mpr any]
    simp only [IsAnyTag, reduceCtorEq, Option.some.injEq, false_or] at any
    exact .inl ⟨any, rfl⟩
  · obtain ⟨name, eq, key⟩ := tagKey_of_not_isAnyTag any
    cases eq
    simp only [IsAnyTag, reduceCtorEq, Option.some.injEq, false_or, not_or] at any
    exact .inr ⟨any, key⟩

/-! ## Names that are added -/

/-- What was kept stays in front. -/
theorem prefix_insertNew [BEq α] (x : α) (kept : List α) : kept <+: insertNew x kept := by
  rw [insertNew]
  split
  · exact List.prefix_rfl
  · exact List.prefix_append kept [x]

/-- What is kept is what was kept and what is inserted. -/
theorem mem_insertNew [BEq α] [LawfulBEq α] {x y : α} {kept : List α} :
    y ∈ insertNew x kept ↔ y ∈ kept ∨ y = x := by
  rw [insertNew]
  split
  · next old => exact (or_iff_left_of_imp fun eq => eq ▸ List.contains_iff_mem.mp old).symm
  · simp

namespace Names

/-- What is read off names stays in front if one addition keeps it in front. -/
theorem prefix_foldl_add (read : Names → List String)
    (step : ∀ names candidate, read names <+: read (names.add candidate)) (names : Names)
    (candidates : List Candidate) : read names <+: read (candidates.foldl add names) := by
  induction candidates generalizing names with
  | nil => exact List.prefix_rfl
  | cons candidate rest ih => exact (step names candidate).trans (ih (names.add candidate))

/-- What additions bring in is what single ones bring in. -/
theorem mem_foldl_add (read : Names → List String) {declares : Candidate → String → Prop}
    (step : ∀ names candidate name,
      name ∈ read (names.add candidate) ↔ name ∈ read names ∨ declares candidate name)
    (names : Names) (candidates : List Candidate) (name : String) :
    name ∈ read (candidates.foldl add names) ↔
      name ∈ read names ∨ ∃ candidate ∈ candidates, declares candidate name := by
  induction candidates generalizing names with
  | nil => simp
  | cons candidate rest ih => simp [ih, step, or_assoc]

/-- A class goes into the bucket of its tag. -/
theorem bucket_add_class (names : Names) (tag name key : String) :
    (names.add (.class tag name)).bucket key =
      if key = tagKey (some tag) then insertNew name (names.bucket key) else names.bucket key :=
  bucket_insertUnder (tagKey (some tag)) name key names.classes

/-- The keys that were there stay in front. -/
theorem prefix_keys_add (names : Names) (candidate : Candidate) :
    names.classes.map (·.1) <+: (names.add candidate).classes.map (·.1) := by
  cases candidate with
  | «class» tag name =>
      show _ <+: (insertUnder _ name names.classes).map (·.1)
      rw [keys_insertUnder]
      exact prefix_insertNew _ _
  | id name => exact List.prefix_rfl

/-- What was in a bucket stays in front. -/
theorem prefix_bucket_add (key : String) (names : Names) (candidate : Candidate) :
    names.bucket key <+: (names.add candidate).bucket key := by
  cases candidate with
  | «class» tag name =>
      rw [bucket_add_class]
      split
      · exact prefix_insertNew name _
      · exact List.prefix_rfl
  | id name => exact List.prefix_rfl

/-- The ids that were there stay in front. -/
theorem prefix_ids_add (names : Names) (candidate : Candidate) :
    names.ids <+: (names.add candidate).ids := by
  cases candidate with
  | «class» tag name => exact List.prefix_rfl
  | id name => exact prefix_insertNew name _

/-- The bucket after a candidate was added. -/
theorem mem_bucket_add (key : String) (names : Names) (candidate : Candidate) (name : String) :
    name ∈ (names.add candidate).bucket key ↔
      name ∈ names.bucket key ∨ ∃ tag, candidate.class? = some (tag, name) ∧ tagKey tag = key := by
  cases candidate with
  | «class» tag declared =>
      rw [bucket_add_class]
      split
      · next same => simp [mem_insertNew, Candidate.class?, same, eq_comm]
      · next other => simp [Candidate.class?, Ne.symm other]
  | id declared => simp [Candidate.class?, add, bucket]

/-- The ids after a candidate was added. -/
theorem mem_ids_add (names : Names) (candidate : Candidate) (name : String) :
    name ∈ (names.add candidate).ids ↔ name ∈ names.ids ∨ candidate.id? = some name := by
  cases candidate with
  | «class» tag declared => simp [Candidate.id?, add]
  | id declared => simp [mem_insertNew, Candidate.id?, add, eq_comm]

/-- The classes under a key after rules were added. -/
theorem mem_bucket_addRules {names : Names} {rules : List Rule} {source key name : String} :
    name ∈ ((candidates rules source).foldl add names).bucket key ↔
      name ∈ names.bucket key ∨ ∃ selectors, Rule.Reaches rules selectors ∧
        ∃ c ∈ Compound.scan selectors, tagKey (some c.tag) = key ∧
          ∃ token ∈ c.classes,
            ((CaseIndex.build source).spellings .className).recover token = some name := by
  refine (mem_foldl_add (bucket · key) (mem_bucket_add key) ..).trans (or_congr_right ?_)
  refine Iff.trans ?_ (mem_classesUnder_candidates.trans Rule.exists_scan_iff)
  simp only [mem_classesUnder, List.mem_filterMap]
  constructor
  · rintro ⟨candidate, mem, tag, eq, under⟩
    exact ⟨tag, ⟨candidate, mem, eq⟩, under⟩
  · rintro ⟨tag, ⟨candidate, mem, eq⟩, under⟩
    exact ⟨candidate, mem, tag, eq, under⟩

/-- The ids after rules were added. -/
theorem mem_ids_addRules {names : Names} {rules : List Rule} {source name : String} :
    name ∈ ((candidates rules source).foldl add names).ids ↔
      name ∈ names.ids ∨ ∃ selectors, Rule.Reaches rules selectors ∧
        ∃ c ∈ Compound.scan selectors, ∃ token ∈ c.id,
          ((CaseIndex.build source).spellings .idName).recover token = some name := by
  refine (mem_foldl_add ids mem_ids_add ..).trans (or_congr_right ?_)
  rw [← List.mem_filterMap, mem_candidates_id]
  exact Rule.exists_scan_iff

end Names

/-- Rules invent no name. Whatever an index holds, whatever rules are added to it and whatever
source comes with them, a name that the index holds only afterwards stands in the source, right
behind the sigil of its kind in a prelude, and differs by case alone from a name that a style rule
has; it is kept under the key of that rule's tag. What the index holds before stays in its order. A
disposed index stays disposed. -/
theorem additions_are_authored (index : SelectorIndex) (rules : List Rule) (source : String) :
    (index.addRules rules source).isDisposed = index.isDisposed ∧
      Extends rules source index.names (index.addRules rules source).names := by
  cases index with
  | disposed =>
      refine ⟨rfl, List.prefix_rfl, fun _ => List.prefix_rfl, List.prefix_rfl, ?_, ?_⟩
      · exact fun key name mem new => absurd mem new
      · exact fun name mem new => absurd mem new
  | live names =>
      refine ⟨rfl, ?_, fun key => ?_, ?_, fun key name mem new => ?_, fun name mem new => ?_⟩
      · exact Names.prefix_foldl_add (·.classes.map (·.1)) Names.prefix_keys_add names _
      · exact Names.prefix_foldl_add (·.bucket key) (Names.prefix_bucket_add key) names _
      · exact Names.prefix_foldl_add Names.ids Names.prefix_ids_add names _
      · obtain ⟨selectors, hs, c, hc, rfl, token, ht, recovered⟩ :=
          (Names.mem_bucket_addRules.mp mem).resolve_left new
        exact ⟨selectors, hs, c, hc, isKeyOf_tagKey c.tag, token, ht,
          CaseIndex.respells_of_recover recovered⟩
      · obtain ⟨selectors, hs, c, hc, token, ht, recovered⟩ :=
          (Names.mem_ids_addRules.mp mem).resolve_left new
        exact ⟨selectors, hs, c, hc, token, ht, CaseIndex.respells_of_recover recovered⟩

end SelectorCatalog
