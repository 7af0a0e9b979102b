import Mathlib.Data.List.Chain
import SelectorCatalog.Proofs.Selector.Written

/-!
# Combinators without blanks

Combinators are stripped. With a blank on each side of a combinator, the compounds around it are cut
apart all the same; without blanks, they are read as one compound. Its ids and classes are those of
the compounds if and only if at every seam the compound in front of it is a tag alone or the one
behind it has classes alone (`glued_names_iff`).
-/

namespace SelectorCatalog.Compound

/-- A character that joins two compounds. -/
abbrev Sign := { d : Char // isCombinator d = true }

/-- Compounds with a combinator between any two of them. -/
structure Joined where
  first : Written
  rest : List (Sign × Written)

namespace Joined

variable (j : Joined)

/-- The compounds, in order. -/
def compounds : List Written :=
  j.first :: j.rest.map (·.2)

/-- The text without blanks. -/
def glued : List Char :=
  j.first.text ++ j.rest.flatMap fun p => p.1.val :: p.2.text

/-- The text with a blank on each side of every combinator. -/
def spaced : List Char :=
  j.first.text ++ j.rest.flatMap fun p => ' ' :: p.1.val :: ' ' :: p.2.text

end Joined

/-- The ids of several compounds, in order. -/
def idsOf (compounds : List Compound) : List String :=
  compounds.filterMap Compound.id

/-- The classes of several compounds, in order. -/
def classesOf (compounds : List Compound) : List String :=
  compounds.flatMap Compound.classes

/-- Whether the names of two compounds stay apart without anything between them: the former is a tag
alone, or the latter has classes alone. -/
def StaysApart (c d : Written) : Prop :=
  c.id = none ∧ c.classes = [] ∨ d.tag = none ∧ d.id = none

/-! ## Blanks on both sides -/

theorem Joined.scan_spaced (j : Joined) :
    scan (String.ofList j.spaced) = j.compounds.map Written.compound := by
  obtain ⟨first, rest⟩ := j
  simp only [Joined.spaced, Joined.compounds]
  induction rest generalizing first with
  | nil => simpa using first.scan_text
  | cons p rest ih =>
      have right (s : List Char) :
          scan (String.ofList (p.1.val :: ' ' :: s)) = scan (String.ofList s) := by
        rw [← List.singleton_append, scan_append [p.1.val] (by decide),
          scan_combinator p.1.property, List.nil_append]
      simp only [List.flatMap_cons, List.cons_append]
      rw [scan_append first.text (by decide), first.scan_text, right, ih]
      rfl

/-! ## No blanks -/

/-- What is left of compounds that are written one behind the other. -/
def merged (compounds : List Written) : Segments :=
  compounds.foldr (fun c s => c.segments.append s) .empty

/-- The text of merged compounds is theirs without the seams. -/
theorem text_merged (compounds : List Written) :
    (merged compounds).text = compounds.flatMap Written.text := by
  induction compounds with
  | nil => rfl
  | cons c rest ih =>
      rw [merged, List.foldr_cons, ← merged, Segments.text_append, Written.text_segments, ih,
        List.flatMap_cons]

namespace Joined

variable (j : Joined)

/-- Glued compounds have the characters of each, and the combinators. -/
theorem mem_glued {d : Char} (h : d ∈ j.glued) :
    (∃ c ∈ j.compounds, d ∈ c.text) ∨ isCombinator d = true := by
  simp only [glued, List.mem_append, List.mem_flatMap, List.mem_cons] at h
  rcases h with h | ⟨p, hp, rfl | h⟩
  · exact .inl ⟨j.first, by simp [compounds], h⟩
  · exact .inr p.1.property
  · exact .inl ⟨p.2, List.mem_cons_of_mem _ (List.mem_map_of_mem hp), h⟩

/-- No separator is in glued compounds. -/
theorem not_isSeparator {d : Char} (h : d ∈ j.glued) : isSeparator d = false := by
  rcases j.mem_glued h with ⟨c, -, h⟩ | sign
  · exact c.not_isSeparator h
  · simp only [isCombinator, Bool.or_eq_true, beq_iff_eq] at sign
    rcases sign with (rfl | rfl) | rfl <;> decide

/-- Combinators are deleted. -/
theorem strip_glued : strip j.glued = (merged j.compounds).text := by
  have clean {d : Char} (hd : d ∈ [':', '[', '>', '+', '~']) (other : isCombinator d = false) :
      d ∉ j.glued := by
    intro mem
    rcases j.mem_glued mem with ⟨c, -, mem⟩ | sign
    · exact c.not_mem_text hd mem
    · simp [other] at sign
  have rest : ((j.rest.flatMap fun p => p.1.val :: p.2.text).filter fun d => !isCombinator d) =
      j.rest.flatMap fun p => p.2.text := by
    rw [List.filter_flatMap]
    refine List.flatMap_congr fun p _ => ?_
    rw [List.filter_cons_of_neg (by simp [p.1.property]), p.2.filter_text]
  rw [strip_eq_filter (clean (by simp) (by decide)) (clean (by simp) (by decide)), glued,
    List.filter_append, j.first.filter_text, rest, text_merged, compounds, List.flatMap_cons,
    List.flatMap_map]

/-- Glued compounds are read as one that is merged. -/
theorem ofChars_glued : ofChars j.glued = (merged j.compounds).compound := by
  rw [ofChars, strip_glued, Segments.ofParts_text]

end Joined

/-! ## Where names run together -/

namespace Written

variable (c : Written)

theorem ids_segments_eq_nil : c.segments.ids = [] ↔ c.id = none := by
  cases h : c.id <;> simp [segments, Segments.ofWords, h]

theorem classes_segments_eq_nil : c.segments.classes = [] ↔ c.classes = [] := by
  simp [segments, Segments.ofWords]

theorem head_segments_eq_nil : c.segments.head = [] ↔ c.tag = none ∧ c.id = none := by
  rw [Segments.head_eq_nil_iff, ids_segments_eq_nil]
  refine and_congr_left fun _ => ?_
  cases h : c.tag with
  | none => simp [segments, Segments.ofWords, h]
  | some w => simp [segments, Segments.ofWords, h, w.ne_nil]

end Written

/-- The text of compounds begins with a dot if the first of them does, or if there is none. -/
theorem head_merged_eq_nil_iff (compounds : List Written) :
    (merged compounds).head = [] ↔ ∀ d ∈ compounds.head?, d.tag = none ∧ d.id = none := by
  cases compounds with
  | nil => simp [merged, Segments.empty, Segments.head]
  | cons d rest =>
      have head := Segments.head_append d.segments (merged rest)
      rw [merged, List.foldr_cons, ← merged, head, List.head?_cons]
      split
      · next classes =>
          -- without classes it has a tag or an id
          have ne : ¬(d.tag = none ∧ d.id = none) := by
            rintro ⟨tag, id⟩
            have classes := d.classes_segments_eq_nil.mp classes
            simpa [tag, id, classes] using d.ne_nil
          simpa [d.head_segments_eq_nil] using fun tag id => absurd ⟨tag, id⟩ ne
      · simpa using d.head_segments_eq_nil

/-- Whether compounds that are written one behind the other keep their names. -/
def KeepNames (compounds : List Written) : Prop :=
  (merged compounds).ids.head?.toList = compounds.flatMap (·.segments.ids) ∧
    (merged compounds).classes = compounds.flatMap (·.segments.classes)

section Seam

variable {c : Written} {rest : List Written}

/-- Compounds are merged one after another. -/
theorem merged_cons : merged (c :: rest) = c.segments.append (merged rest) := rfl

/-- Merged compounds have no ids when none has one. -/
theorem ids_merged_of_no_ids (h : rest.flatMap (·.segments.ids) = []) : (merged rest).ids = [] := by
  induction rest with
  | nil => rfl
  | cons c rest ih =>
      rw [List.flatMap_cons, List.append_eq_nil_iff] at h
      rw [merged_cons, Segments.append]
      split
      · exact h.1
      · rw [if_neg (not_not.mpr h.1)]
        exact ih h.2

/-- A tag alone has no name that could run on. -/
theorem keepNames_cons_of_bare (ids : c.segments.ids = []) (classes : c.segments.classes = []) :
    KeepNames (c :: rest) ↔ KeepNames rest := by
  simp [KeepNames, merged_cons, Segments.append, ids, classes]

/-- A last class is kept if a dot follows it, or nothing. -/
theorem keepNames_cons_of_classes (classes : c.segments.classes ≠ []) :
    KeepNames (c :: rest) ↔ (merged rest).head = [] ∧ KeepNames rest := by
  have single : c.segments.ids.head?.toList = c.segments.ids := by
    cases h : c.id <;> simp [Written.segments, Segments.ofWords, h]
  have kept : lengthen (merged rest).head c.segments.classes ++ (merged rest).classes =
      c.segments.classes ++ rest.flatMap (·.segments.classes) ↔
        (merged rest).head = [] ∧ (merged rest).classes = rest.flatMap (·.segments.classes) := by
    constructor
    · intro eq
      obtain ⟨same, others⟩ := List.append_inj eq length_lengthen
      exact ⟨(lengthen_eq_self_iff.mp same).resolve_right classes, others⟩
    · rintro ⟨nothing, others⟩
      rw [nothing, others, lengthen_eq_self_iff.mpr (.inl rfl)]
  simp only [KeepNames, merged_cons, Segments.append, if_pos classes, List.flatMap_cons, single,
    List.self_eq_append_right, kept]
  constructor
  · rintro ⟨noIds, head, others⟩
    exact ⟨head, by simp [ids_merged_of_no_ids noIds, noIds], others⟩
  · rintro ⟨head, ids, others⟩
    rw [(Segments.head_eq_nil_iff.mp head).2] at ids
    exact ⟨ids.symm, head, others⟩

/-- An id without classes behind it is kept if a dot follows it, or nothing; and no other id is. -/
theorem keepNames_cons_of_id (ids : c.segments.ids ≠ []) (classes : c.segments.classes = []) :
    KeepNames (c :: rest) ↔ (merged rest).head = [] ∧ KeepNames rest := by
  obtain ⟨id, single⟩ : ∃ id, c.segments.ids = [id] := by
    cases h : c.id with
    | none => exact absurd (c.ids_segments_eq_nil.mpr h) ids
    | some w => exact ⟨w.chars, by simp [Written.segments, Segments.ofWords, h]⟩
  have idsOf : (merged (c :: rest)).ids = (id ++ (merged rest).tag) :: (merged rest).ids := by
    simp [merged_cons, Segments.append, classes, single, lengthen]
  have classesOf : (merged (c :: rest)).classes = (merged rest).classes := by
    simp [merged_cons, Segments.append, classes, single]
  simp only [KeepNames, idsOf, classesOf, List.flatMap_cons, classes, single, List.head?_cons,
    Option.toList_some, List.cons_append, List.nil_append, List.cons.injEq,
    List.append_right_eq_self]
  constructor
  · rintro ⟨⟨tag, noIds⟩, others⟩
    have none := ids_merged_of_no_ids noIds.symm
    exact ⟨Segments.head_eq_nil_iff.mpr ⟨tag, none⟩, by simp [none, ← noIds], others⟩
  · rintro ⟨head, ids, others⟩
    obtain ⟨tag, none⟩ := Segments.head_eq_nil_iff.mp head
    rw [none] at ids
    exact ⟨⟨tag, ids⟩, others⟩

/-- Behind an id or a class, names stay apart if a dot follows, or nothing. -/
theorem staysApart_of_named (named : c.segments.ids ≠ [] ∨ c.segments.classes ≠ []) :
    (∀ d ∈ rest.head?, StaysApart c d) ↔ (merged rest).head = [] := by
  rw [head_merged_eq_nil_iff]
  refine forall₂_congr fun d _ => or_iff_right ?_
  rintro ⟨id, classes⟩
  exact named.elim (· (c.ids_segments_eq_nil.mpr id)) (· (c.classes_segments_eq_nil.mpr classes))

end Seam

/-- Compounds keep their names if and only if the names stay apart at every seam. -/
theorem keepNames_iff (compounds : List Written) :
    KeepNames compounds ↔ compounds.IsChain StaysApart := by
  induction compounds with
  | nil => simp [KeepNames, merged, Segments.empty]
  | cons c rest ih =>
      rw [List.isChain_cons, ← ih]
      by_cases classes : c.segments.classes = []
      · by_cases ids : c.segments.ids = []
        · have bare : c.id = none ∧ c.classes = [] :=
            ⟨c.ids_segments_eq_nil.mp ids, c.classes_segments_eq_nil.mp classes⟩
          rw [keepNames_cons_of_bare ids classes]
          exact (and_iff_right fun _ _ => .inl bare).symm
        · rw [keepNames_cons_of_id ids classes, staysApart_of_named (.inl ids)]
      · rw [keepNames_cons_of_classes classes, staysApart_of_named (.inr classes)]

/-! ## Names that are read -/

theorem idsOf_of_not_isSeparator {w : List Char} (h : ∀ d ∈ w, isSeparator d = false) :
    idsOf (scan (String.ofList w)) = (ofChars w).id.toList := by
  rw [scan_of_not_isSeparator h]
  by_cases empty : (ofChars w).isEmpty = true
  · have none : (ofChars w).id = none := by
      simp only [isEmpty, Bool.and_eq_true, Option.isNone_iff_eq_none] at empty
      exact empty.1.2
    simp [idsOf, empty, none]
  · cases id : (ofChars w).id <;> simp [idsOf, empty, id]

theorem classesOf_of_not_isSeparator {w : List Char} (h : ∀ d ∈ w, isSeparator d = false) :
    classesOf (scan (String.ofList w)) = (ofChars w).classes := by
  rw [scan_of_not_isSeparator h]
  by_cases empty : (ofChars w).isEmpty = true
  · have none : (ofChars w).classes = [] := by
      simp only [isEmpty, Bool.and_eq_true, List.isEmpty_iff] at empty
      exact empty.2
    simp [classesOf, empty, none]
  · simp [classesOf, empty]

theorem map_ofList_inj {xs ys : List (List Char)} :
    xs.map String.ofList = ys.map String.ofList ↔ xs = ys :=
  (List.map_injective_iff.mpr fun _ _ => String.ofList_injective).eq_iff

/-- The ids and classes of compounds that combinators without blanks join are read as if there were
blanks around each combinator, if and only if they stay apart at every seam. -/
theorem glued_names_iff (j : Joined) :
    (idsOf (scan (String.ofList j.glued)) = idsOf (scan (String.ofList j.spaced)) ∧
      classesOf (scan (String.ofList j.glued)) = classesOf (scan (String.ofList j.spaced))) ↔
      j.compounds.IsChain StaysApart := by
  have stays : ∀ d ∈ j.glued, isSeparator d = false := fun d hd => j.not_isSeparator hd
  have ids : idsOf (j.compounds.map Written.compound) =
      (j.compounds.flatMap (·.segments.ids)).map String.ofList := by
    rw [idsOf, List.filterMap_map, List.filterMap_eq_flatMap_toList, List.map_flatMap]
    refine List.flatMap_congr fun c _ => ?_
    rw [Function.comp_apply, ← c.compound_segments]
    cases h : c.id <;> simp [Segments.compound, Written.segments, Segments.ofWords, h]
  have classes : classesOf (j.compounds.map Written.compound) =
      (j.compounds.flatMap (·.segments.classes)).map String.ofList := by
    rw [classesOf, List.flatMap_map, List.map_flatMap]
    refine List.flatMap_congr fun c _ => ?_
    rw [← c.compound_segments, Segments.compound]
  rw [idsOf_of_not_isSeparator stays, classesOf_of_not_isSeparator stays, j.ofChars_glued,
    j.scan_spaced, ids, classes, ← keepNames_iff, KeepNames, Segments.compound, Option.toList_map,
    map_ofList_inj, map_ofList_inj]

/-- The compounds `.a` and `b`, the latter a child of the former. -/
def Joined.tagBehindClass : Joined where
  first := ⟨none, none, [⟨['a'], by decide, by decide⟩], by decide⟩
  rest := [(⟨'>', by decide⟩, ⟨some ⟨['b'], by decide, by decide⟩, none, [], by decide⟩)]

theorem tagBehindClass_runs_on :
    String.ofList Joined.tagBehindClass.glued = ".a>b" ∧
    String.ofList Joined.tagBehindClass.spaced = ".a > b" ∧
    classesOf (scan ".a>b") = ["ab"] ∧ classesOf (scan ".a > b") = ["a"] ∧
    classesOf (scan (String.ofList Joined.tagBehindClass.glued)) ≠
      classesOf (scan (String.ofList Joined.tagBehindClass.spaced)) := by
  decide +kernel

end SelectorCatalog.Compound
