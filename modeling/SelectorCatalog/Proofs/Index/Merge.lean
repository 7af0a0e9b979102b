import SelectorCatalog.Entry.Fetch
import SelectorCatalog.Proofs.Index.Absorption

/-!
# Merging several texts

Several texts are parsed apart, and each may be refused. `SelectorIndex.addTaken` is what an index
is to become: the rules of those that were taken are added one text after the other, each with its
own text as the source of spellings.

* `Fetch.indexOf_accepted`: the index that a fetch builds is that.
* `SelectorIndex.holds_addTaken_iff`: it holds what the texts that were taken contribute, each on
  its own. So a text that is refused takes away nothing that another one contributes.
-/

namespace SelectorCatalog

/-- Adds the rules of each text that the parser took, in the order of the texts. -/
def SelectorIndex.addTaken :
    SelectorIndex → List String → List (Except Error (List Rule)) → SelectorIndex
  | index, text :: texts, .ok rules :: outcomes =>
    addTaken (index.addRules rules text) texts outcomes
  | index, _ :: texts, .error _ :: outcomes => addTaken index texts outcomes
  | index, _, _ => index

variable {texts : List String} {outcomes : List (Except Error (List Rule))} {names : Names}
  {candidate : Candidate}

namespace Fetch

/-- The sources of parsed texts, added one after the other. -/
theorem foldl_accepted (index : SelectorIndex) {blocks : List Block}
    (parsed : blocks.map (·.outcome) = outcomes.map some) :
    (accepted blocks).foldl (fun index (text, rules) => index.addRules rules text) index =
      index.addTaken (blocks.map (·.text)) outcomes := by
  induction blocks generalizing index outcomes with
  | nil =>
      rw [List.map_eq_nil_iff.mp parsed.symm]
      rfl
  | cons block rest ih =>
      cases outcomes with
      | nil => cases parsed
      | cons outcome others =>
          obtain ⟨head, tail⟩ := List.cons.inj parsed
          dsimp only at head
          cases outcome with
          | ok rules =>
              rw [accepted, List.filterMap_cons, head]
              exact ih (index.addRules rules block.text) tail
          | error error =>
              rw [accepted, List.filterMap_cons, head]
              exact ih index tail

/-- The index of texts that have all been parsed. -/
theorem indexOf_accepted {blocks : List Block}
    (parsed : blocks.map (·.outcome) = outcomes.map some) :
    indexOf (accepted blocks) = SelectorIndex.empty.addTaken (blocks.map (·.text)) outcomes :=
  foldl_accepted .empty parsed

end Fetch

/-! ## What each text contributes -/

/-- Additions hold what was held before, and what they hold by themselves. -/
theorem Names.holds_foldl_add_iff {candidates : List Candidate} :
    (candidates.foldl add names).Holds candidate ↔
      names.Holds candidate ∨ (candidates.foldl add .empty).Holds candidate := by
  cases candidate with
  | «class» tag name =>
      have added := fun names : Names => mem_foldl_add (bucket · (tagKey (some tag)))
        (mem_bucket_add (tagKey (some tag))) names candidates name
      refine (added names).trans (or_congr_right ((added .empty).trans ?_).symm)
      simp [bucket, Names.empty]
  | id name =>
      have added := fun names : Names => mem_foldl_add ids mem_ids_add names candidates name
      refine (added names).trans (or_congr_right ((added .empty).trans ?_).symm)
      simp [Names.empty]

namespace SelectorIndex

@[simp] theorem names_addRules_live (names : Names) (rules : List Rule) (source : String) :
    ((live names).addRules rules source).names = (candidates rules source).foldl Names.add names :=
  rfl

/-- Of several texts one that was taken contributes a name: its rules declare it by themselves. -/
def Contributes (texts : List String) (outcomes : List (Except Error (List Rule)))
    (candidate : Candidate) : Prop :=
  ∃ (i : Nat) (text : String) (rules : List Rule), texts[i]? = some text ∧
    outcomes[i]? = some (.ok rules) ∧ (empty.addRules rules text).names.Holds candidate

/-- Whether the first of several texts contributes a name, or a later one. -/
theorem contributes_cons_iff {text : String} {outcome : Except Error (List Rule)} :
    Contributes (text :: texts) (outcome :: outcomes) candidate ↔
      (∃ rules, outcome = .ok rules ∧ (empty.addRules rules text).names.Holds candidate) ∨
        Contributes texts outcomes candidate := by
  constructor
  · rintro ⟨_ | i, t, rules, ht, taken, holds⟩
    · obtain rfl := Option.some.inj ht
      exact .inl ⟨rules, Option.some.inj taken, holds⟩
    · exact .inr ⟨i, t, rules, ht, taken, holds⟩
  · rintro (⟨rules, rfl, holds⟩ | ⟨i, t, rules, ht, taken, holds⟩)
    · exact ⟨0, text, rules, rfl, rfl, holds⟩
    · exact ⟨i + 1, t, rules, ht, taken, holds⟩

/-- Merged texts hold what an index held before, and what each text that was taken contributes. -/
theorem holds_addTaken_iff :
    ((live names).addTaken texts outcomes).names.Holds candidate ↔
      names.Holds candidate ∨ Contributes texts outcomes candidate := by
  induction texts generalizing names outcomes with
  | nil => simp [addTaken, SelectorIndex.names, Contributes]
  | cons text texts ih =>
      cases outcomes with
      | nil => simp [addTaken, SelectorIndex.names, Contributes]
      | cons outcome outcomes =>
          rw [contributes_cons_iff]
          cases outcome with
          | error error => simp [addTaken, ih]
          | ok rules =>
              have first : ((live names).addRules rules text).addTaken texts outcomes =
                  (live ((candidates rules text).foldl Names.add names)).addTaken texts outcomes :=
                rfl
              rw [addTaken, first, ih, Names.holds_foldl_add_iff, or_assoc]
              simp [empty]

/-- From an empty index on, merged texts hold what each text that was taken contributes. -/
theorem holds_addTaken_empty_iff :
    (empty.addTaken texts outcomes).names.Holds candidate ↔
      Contributes texts outcomes candidate := by
  refine holds_addTaken_iff.trans (or_iff_right ?_)
  cases candidate <;> simp [Names.Holds, Names.bucket, Names.empty]

end SelectorIndex

end SelectorCatalog
