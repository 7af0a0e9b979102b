import Mathlib.Data.List.TakeDrop
import SelectorCatalog.Proofs.Selector.Written

/-!
# Attribute groups

An author can put attribute groups between the parts of a compound and into its pseudo part. A
compound is stripped from its first opening to its last closing bracket, so a group takes away
itself, and several groups take away what stands between them as well (`enclosed_is_hidden`). No
name is hidden outside of the groups, nor by groups without anything between them, nor by groups of
a pseudo part.

All this is about values without blanks and commas. A selector list is cut at these before brackets
are looked at, so that a value with one of them leaves pieces of a group on both sides.
-/

namespace SelectorCatalog.Compound

/-- A stretch of a compound without brackets. -/
structure Fragment where
  chars : List Char
  all_plain : chars.all (fun d => !isSeparator d && d != '[' && d != ']') = true

/-- What stands between the brackets of an attribute group. -/
structure Attribute where
  chars : List Char
  ne_nil : chars ≠ []
  all_inside : chars.all (fun d => d != '[' && d != ']') = true

/-- Whether a group is left whole where a selector list is cut. -/
def Attribute.IsWhole (a : Attribute) : Prop :=
  ∀ d ∈ a.chars, isSeparator d = false

instance (a : Attribute) : Decidable a.IsWhole :=
  List.decidableBAll (fun d => isSeparator d = false) a.chars

/-- A compound with attribute groups. -/
structure Attributed where
  start : Fragment
  groups : List (Attribute × Fragment)

namespace Attributed

variable (s : Attributed)

/-- The text of groups with what follows each of them. -/
def groupsText (groups : List (Attribute × Fragment)) : List Char :=
  groups.flatMap fun g => '[' :: (g.1.chars ++ ']' :: g.2.chars)

/-- The compound as it is written, with its brackets. -/
def text : List Char :=
  s.start.chars ++ groupsText s.groups

/-- The text with all groups deleted. -/
def erased : List Char :=
  s.start.chars ++ s.groups.flatMap (·.2.chars)

/-- What stands behind the last group. -/
def trail : List Char :=
  (s.groups.getLast?.map (·.2.chars)).getD []

/-- What stands between two groups. -/
def enclosed : List Char :=
  s.groups.dropLast.flatMap (·.2.chars)

/-- What stands in front of the first group and behind the last one. -/
def outer : List Char :=
  s.start.chars ++ s.trail

end Attributed

/-! ## Characters -/

theorem Fragment.not_isSeparator (f : Fragment) : ∀ d ∈ f.chars, isSeparator d = false := by
  intro d hd
  have := List.all_eq_true.mp f.all_plain d hd
  simp only [Bool.and_eq_true, Bool.not_eq_true'] at this
  exact this.1.1

theorem Fragment.open_not_mem (f : Fragment) : '[' ∉ f.chars :=
  fun mem => by simpa using List.all_eq_true.mp f.all_plain _ mem

theorem Fragment.close_not_mem (f : Fragment) : ']' ∉ f.chars :=
  fun mem => by simpa using List.all_eq_true.mp f.all_plain _ mem

/-! ## Stripping -/

/-- A text is cut at the last of a character. -/
theorem cutLast?_append {c : Char} (u : List Char) {v : List Char} (h : c ∉ v) :
    cutLast? c (u ++ c :: v) = some (u, v) := by
  have pass : ∀ d ∈ v.reverse, (d != c) = true :=
    Text.bne_of_not_mem fun mem => h (List.mem_reverse.mp mem)
  rw [cutLast?, List.reverse_append, List.reverse_cons, List.append_assoc,
    List.span_eq_takeWhile_dropWhile, List.takeWhile_append_of_pos pass,
    List.dropWhile_append_of_pos pass]
  simp

/-- What stands from the first opening to the last closing bracket is stripped. -/
theorem stripAttributes_between {u m v : List Char} (first : '[' ∉ u) (ne : m ≠ [])
    (last : ']' ∉ v) : stripAttributes (u ++ '[' :: (m ++ ']' :: v)) = u ++ v := by
  obtain ⟨d, m, rfl⟩ := List.exists_cons_of_ne_nil ne
  have inner : stripAttributes ('[' :: (d :: m ++ ']' :: v)) = v := by
    have cut : cutLast? ']' (d :: (m ++ ']' :: v)) = some (d :: m, v) :=
      cutLast?_append (d :: m) last
    simp [stripAttributes, cut]
  rw [stripAttributes_append first, inner]

namespace Attributed

variable (s : Attributed)

/-- Groups begin with a bracket and end, but for what follows the last, with a bracket. -/
theorem exists_between {groups : List (Attribute × Fragment)} (ne : groups ≠ []) :
    ∃ m, m ≠ [] ∧
      groupsText groups = '[' :: (m ++ ']' :: (groups.getLast?.map (·.2.chars)).getD []) := by
  induction groups with
  | nil => exact absurd rfl ne
  | cons g rest ih =>
      cases rest with
      | nil => exact ⟨g.1.chars, g.1.ne_nil, by simp [groupsText]⟩
      | cons g' more =>
          obtain ⟨m, -, eq⟩ := ih (by simp)
          refine ⟨g.1.chars ++ ']' :: (g.2.chars ++ '[' :: m), by simp, ?_⟩
          rw [groupsText, List.flatMap_cons, ← groupsText, eq]
          simp

/-- What no fragment has is not in the trail. -/
theorem not_mem_trail {d : Char} (h : ∀ g ∈ s.groups, d ∉ g.2.chars) : d ∉ s.trail := by
  rw [trail]
  cases last : s.groups.getLast? with
  | none => simp
  | some g => exact h g (List.mem_of_getLast? last)

/-- Everything between the first and the last group is stripped with them. -/
theorem strip_text : strip s.text = strip s.outer := by
  have first : '[' ∉ s.start.chars := s.start.open_not_mem
  have last : ∀ d ∈ ['[', ']'], d ∉ s.trail := fun d hd =>
    s.not_mem_trail fun g _ => by
      rcases List.mem_cons.mp hd with rfl | hd
      · exact g.2.open_not_mem
      · rw [List.mem_singleton.mp hd]
        exact g.2.close_not_mem
  have outer : stripAttributes s.outer = s.outer :=
    stripAttributes_eq_self fun mem =>
      (List.mem_append.mp mem).elim first (last '[' (by simp))
  have text : stripAttributes s.text = s.outer := by
    cases eq : s.groups with
    | nil =>
        have bare : s.text = s.outer := by
          simp [Attributed.text, Attributed.outer, trail, groupsText, eq]
        rw [bare, outer]
    | cons g rest =>
        obtain ⟨m, ne, between⟩ := exists_between (show s.groups ≠ [] by simp [eq])
        rw [Attributed.text, between]
        exact stripAttributes_between first ne (last ']' (by simp))
  rw [strip, strip, text, outer]

/-- What is erased between the brackets is read in one piece with the start and the trail. -/
theorem erased_eq : s.erased = s.start.chars ++ (s.enclosed ++ s.trail) := by
  rw [erased, enclosed, trail]
  rcases List.eq_nil_or_concat s.groups with eq | ⟨groups, g, eq⟩ <;> simp [eq]

/-- No separator is in the text of a compound whose brackets are whole. -/
theorem not_isSeparator_text (whole : ∀ g ∈ s.groups, g.1.IsWhole) :
    ∀ d ∈ s.text, isSeparator d = false := by
  intro d hd
  simp only [text, groupsText, List.mem_append, List.mem_flatMap, List.mem_cons] at hd
  rcases hd with hd | ⟨g, hg, rfl | hd | rfl | hd⟩
  · exact s.start.not_isSeparator d hd
  · decide
  · exact whole g hg d hd
  · decide
  · exact g.2.not_isSeparator d hd

theorem not_isSeparator_erased : ∀ d ∈ s.erased, isSeparator d = false := by
  intro d hd
  rcases List.mem_append.mp hd with hd | hd
  · exact s.start.not_isSeparator d hd
  · obtain ⟨g, -, hd⟩ := List.mem_flatMap.mp hd
    exact g.2.not_isSeparator d hd

theorem not_isSeparator_outer : ∀ d ∈ s.outer, isSeparator d = false := by
  intro d hd
  refine s.not_isSeparator_erased d ?_
  rw [erased_eq]
  rcases List.mem_append.mp hd with hd | hd <;> simp [hd]

/-- Groups of the pseudo part are stripped with it. -/
theorem strip_outer_of_colon (h : ':' ∈ s.start.chars) : strip s.outer = strip s.erased := by
  obtain ⟨u, v, eq, colon⟩ := List.eq_append_cons_of_mem h
  have bracket : '[' ∉ u := fun mem => s.start.open_not_mem (by simp [eq, mem])
  rw [outer, erased, eq, List.append_assoc, List.append_assoc, List.cons_append, List.cons_append,
    strip_append_colon bracket colon, strip_append_colon bracket colon]

end Attributed

/-- A compound with attribute groups, their values without blanks and commas, is read as what stands
in front of the first group and behind the last one. So it is read as if all groups were deleted if
nothing stands between two of them, or if the first belongs to a pseudo part; otherwise what stands
between two groups is hidden. -/
theorem enclosed_is_hidden (s : Attributed) (whole : ∀ g ∈ s.groups, g.1.IsWhole) :
    scan (String.ofList s.text) = scan (String.ofList s.outer) ∧
      (s.enclosed = [] ∨ ':' ∈ s.start.chars →
        scan (String.ofList s.text) = scan (String.ofList s.erased)) := by
  have text : scan (String.ofList s.text) = scan (String.ofList s.outer) := by
    rw [scan_of_not_isSeparator (s.not_isSeparator_text whole),
      scan_of_not_isSeparator s.not_isSeparator_outer, ofChars, ofChars, s.strip_text]
  refine ⟨text, fun bare => ?_⟩
  rw [text]
  rcases bare with nothing | colon
  · rw [Attributed.erased_eq, nothing, List.nil_append]
    rfl
  · rw [scan_of_not_isSeparator s.not_isSeparator_outer,
      scan_of_not_isSeparator s.not_isSeparator_erased, ofChars, ofChars,
      s.strip_outer_of_colon colon]

/-- The compound `a[x][y].b`. -/
def Attributed.besideEachOther : Attributed where
  start := ⟨['a'], by decide⟩
  groups := [
    (⟨['x'], by decide, by decide⟩, ⟨[], by decide⟩),
    (⟨['y'], by decide, by decide⟩, ⟨['.', 'b'], by decide⟩)]

theorem besideEachOther_hide_nothing :
    String.ofList Attributed.besideEachOther.text = "a[x][y].b" ∧
    (∀ g ∈ Attributed.besideEachOther.groups, g.1.IsWhole) ∧
    scan "a[x][y].b" = scan "a.b" ∧ scan "a.b" = [⟨"a", none, ["b"]⟩] := by
  have whole : ∀ g ∈ Attributed.besideEachOther.groups, g.1.IsWhole := by decide
  have text : String.ofList Attributed.besideEachOther.text = "a[x][y].b" := by decide
  have erased : String.ofList Attributed.besideEachOther.erased = "a.b" := by decide
  have same := (enclosed_is_hidden Attributed.besideEachOther whole).2 (.inl (by decide))
  rw [text, erased] at same
  exact ⟨text, whole, same, by decide +kernel⟩

/-- The compound `a[x].b[y]`. -/
def Attributed.aroundClass : Attributed where
  start := ⟨['a'], by decide⟩
  groups := [
    (⟨['x'], by decide, by decide⟩, ⟨['.', 'b'], by decide⟩),
    (⟨['y'], by decide, by decide⟩, ⟨[], by decide⟩)]

/-- A compound with the value `p q`, in quotes, and a class behind it. -/
def Attributed.withBlank : Attributed where
  start := ⟨['a'], by decide⟩
  groups := [
    (⟨['t', '=', '"', 'p', ' ', 'q', '"'], by decide, by decide⟩, ⟨['.', 'b'], by decide⟩)]

/-- Two groups hide the class between them, and a group whose value holds a blank is read as a part
of names. -/
theorem aroundClass_hides_class :
    String.ofList Attributed.aroundClass.text = "a[x].b[y]" ∧
    scan (String.ofList Attributed.aroundClass.text) ≠
      scan (String.ofList Attributed.aroundClass.erased) ∧
    scan (String.ofList Attributed.withBlank.text) ≠
      scan (String.ofList Attributed.withBlank.erased) := by
  decide +kernel

end SelectorCatalog.Compound
