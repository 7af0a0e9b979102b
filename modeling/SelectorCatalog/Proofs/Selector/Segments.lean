import Mathlib.Data.List.TakeWhile
import SelectorCatalog.Proofs.Text.Split
import SelectorCatalog.Selector.Compound

/-!
# How one compound is read

A compound is stripped, and what is left is read by its signs: the parts that hashes and dots begin
are told apart (`Segments.ofParts_text`). Where two texts are put together, the beginning of the
latter, up to its first sign, goes to the last part of the former (`Segments.append`).
-/

namespace SelectorCatalog.Compound

/-! ## Stripping -/

/-- Only what stands from the first bracket on is looked at for attributes. -/
theorem stripAttributes_append {u : List Char} (h : '[' ∉ u) (v : List Char) :
    stripAttributes (u ++ v) = u ++ stripAttributes v := by
  unfold stripAttributes
  rw [List.takeWhile_append_of_pos (Text.bne_of_not_mem h),
    List.dropWhile_append_of_pos (Text.bne_of_not_mem h)]
  split
  · rfl
  · split
    · exact List.append_assoc ..
    · rfl

/-- Without brackets nothing is stripped. -/
theorem stripAttributes_eq_self {s : List Char} (h : '[' ∉ s) : stripAttributes s = s := by
  simpa [show stripAttributes [] = [] from rfl] using stripAttributes_append h []

/-- A pseudo part is stripped, whatever is in it. -/
theorem strip_append_colon {u : List Char} (bracket : '[' ∉ u) (colon : ':' ∉ u) (v : List Char) :
    strip (u ++ ':' :: v) = u.filter fun d => !isCombinator d := by
  have pseudo : stripAttributes (':' :: v) = ':' :: stripAttributes v :=
    stripAttributes_append (u := [':']) (by decide) v
  rw [strip, stripAttributes_append bracket, pseudo,
    List.takeWhile_append_of_pos (Text.bne_of_not_mem colon)]
  simp

/-- Without combinators nothing is stripped. -/
theorem filter_eq_self_of_not_mem {s : List Char} (h : ∀ d ∈ ['>', '+', '~'], d ∉ s) :
    (s.filter fun d => !isCombinator d) = s := by
  rw [List.filter_eq_self]
  intro d hd
  simp only [isCombinator, Bool.not_or, Bool.and_eq_true, Bool.not_eq_true', beq_eq_false_iff_ne]
  refine ⟨⟨?_, ?_⟩, ?_⟩ <;> rintro rfl <;> exact h _ (by simp) hd

/-- Without brackets and colons combinators alone are stripped. -/
theorem strip_eq_filter {s : List Char} (bracket : '[' ∉ s) (colon : ':' ∉ s) :
    strip s = s.filter fun d => !isCombinator d := by
  rw [strip, stripAttributes_eq_self bracket,
    List.takeWhile_eq_self_iff.mpr (Text.bne_of_not_mem colon)]

/-- Without any sign nothing is stripped. -/
theorem strip_eq_self {s : List Char} (h : ∀ d ∈ [':', '[', '>', '+', '~'], d ∉ s) :
    strip s = s := by
  rw [strip_eq_filter (h '[' (by simp)) (h ':' (by simp)),
    filter_eq_self_of_not_mem fun d hd => h d (.tail _ (.tail _ hd))]

/-! ## Reading what is left -/

/-- A text put behind the last of several. -/
def lengthen (t : List Char) (parts : List (List Char)) : List (List Char) :=
  parts.dropLast ++ (parts.getLast?.map (· ++ t)).toList

section Lengthen

variable {t : List Char} {parts : List (List Char)}

@[simp] theorem lengthen_nil : lengthen t [] = [] := rfl

@[simp] theorem lengthen_concat {part : List Char} :
    lengthen t (parts ++ [part]) = parts ++ [part ++ t] := by
  simp [lengthen]

/-- To lengthen the last part adds none. -/
theorem length_lengthen : (lengthen t parts).length = parts.length := by
  rcases List.eq_nil_or_concat parts with rfl | ⟨parts, part, rfl⟩ <;> simp

/-- Nothing is lengthened by nothing, or without parts. -/
theorem lengthen_eq_self_iff : lengthen t parts = parts ↔ t = [] ∨ parts = [] := by
  rcases List.eq_nil_or_concat parts with rfl | ⟨parts, part, rfl⟩ <;> simp

theorem forall_mem_lengthen {P : List Char → Prop} (h : ∀ part ∈ parts, P part)
    (longer : ∀ part ∈ parts, P (part ++ t)) : ∀ part ∈ lengthen t parts, P part := by
  rcases List.eq_nil_or_concat parts with rfl | ⟨parts, last, rfl⟩
  · simp
  · rw [List.concat_eq_append] at h longer ⊢
    rw [lengthen_concat, List.forall_mem_append]
    exact ⟨fun part mem => h part (by simp [mem]), by simpa using longer last (by simp)⟩

/-- What the last part is lengthened by stands at the end. -/
theorem flatMap_lengthen (ne : parts ≠ []) (d : Char) :
    (lengthen t parts).flatMap (d :: ·) = parts.flatMap (d :: ·) ++ t := by
  rcases List.eq_nil_or_concat parts with rfl | ⟨parts, part, rfl⟩
  · exact absurd rfl ne
  · simp

end Lengthen

/-- A stripped compound by its signs: what stands in front of all, what stands behind the hashes in
front of the first dot, and what stands behind the dots. -/
structure Segments where
  tag : List Char
  ids : List (List Char)
  classes : List (List Char)
  unsigned : ∀ s ∈ tag :: ids, '#' ∉ s ∧ '.' ∉ s
  undotted : ∀ s ∈ classes, '.' ∉ s
  written : ∀ s ∈ ids ++ classes, s ≠ []

namespace Segments

/-- What stands in front of the first dot. -/
def head (s : Segments) : List Char :=
  s.tag ++ s.ids.flatMap ('#' :: ·)

/-- The segments as they are written. -/
def text (s : Segments) : List Char :=
  s.head ++ s.classes.flatMap ('.' :: ·)

/-- The compound that is read: of several ids the first counts. -/
def compound (s : Segments) : Compound :=
  ⟨String.ofList s.tag, s.ids.head?.map String.ofList, s.classes.map String.ofList⟩

theorem head_eq_nil_iff {s : Segments} : s.head = [] ↔ s.tag = [] ∧ s.ids = [] := by
  rw [head, List.append_eq_nil_iff, List.flatMap_eq_nil_iff]
  refine and_congr_right fun _ => ⟨fun h => List.eq_nil_iff_forall_not_mem.mpr ?_, ?_⟩
  · intro w hw
    exact absurd (h w hw) (by simp)
  · rintro h
    simp [h]

theorem dot_not_mem_head (s : Segments) : '.' ∉ s.head := by
  rw [head, List.mem_append, List.mem_flatMap]
  rintro (mem | ⟨id, hid, mem⟩)
  · exact (s.unsigned s.tag (by simp)).2 mem
  · exact (s.unsigned id (by simp [hid])).2 (by simpa using mem)

/-- The segments are told apart by their signs. -/
theorem ofParts_text (s : Segments) : ofParts (Text.split (· == '.') s.text) = s.compound := by
  have dots : Text.split (· == '.') s.text = s.head :: s.classes :=
    Text.split_append_flatMap (Text.beq_of_not_mem s.dot_not_mem_head) (by decide) fun p hp =>
      Text.beq_of_not_mem (s.undotted p hp)
  have hashes : Text.split (· == '#') s.head = s.tag :: s.ids :=
    Text.split_append_flatMap (Text.beq_of_not_mem (s.unsigned s.tag (by simp)).1) (by decide)
      fun p hp => Text.beq_of_not_mem (s.unsigned p (by simp [hp])).1
  have first : s.ids.head?.filter isWritten = s.ids.head? := by
    cases hids : s.ids with
    | nil => rfl
    | cons id rest =>
        have ne : id ≠ [] := s.written id (by simp [hids])
        simp [Option.filter, isWritten, ne]
  have classes : s.classes.filter isWritten = s.classes :=
    List.filter_eq_self.mpr fun w hw => by simpa [isWritten] using s.written w (by simp [hw])
  rw [dots, ofParts, List.headD_cons, hashes, compound]
  simp only [List.headD_cons, List.tail_cons, first, classes]

/-- Nothing at all. -/
def empty : Segments :=
  ⟨[], [], [], by simp, by simp, by simp⟩

theorem id_ne_nil (s : Segments) : ∀ w ∈ s.ids, w ≠ [] :=
  fun w hw => s.written w (by simp [hw])

theorem class_ne_nil (s : Segments) : ∀ w ∈ s.classes, w ≠ [] :=
  fun w hw => s.written w (by simp [hw])

/-- The parts of two texts one behind the other. What stands in front of the first sign of the
latter goes to the last part of the former; and behind a dot, a hash begins no id. -/
def append (s t : Segments) : Segments :=
  if s.classes ≠ [] then
    -- the join runs through the last class, else through the last id, else through the tag
    { s with
      classes := lengthen t.head s.classes ++ t.classes
      undotted := by
        rw [List.forall_mem_append]
        exact ⟨forall_mem_lengthen s.undotted fun w hw => by
          simp [s.undotted w hw, t.dot_not_mem_head], t.undotted⟩
      written := by
        rw [List.forall_mem_append, List.forall_mem_append]
        exact ⟨s.id_ne_nil, forall_mem_lengthen s.class_ne_nil fun w hw => by
          simp [s.class_ne_nil w hw], t.class_ne_nil⟩ }
  else if s.ids ≠ [] then
    { t with
      tag := s.tag
      ids := lengthen t.tag s.ids ++ t.ids
      unsigned := by
        have ht := t.unsigned t.tag (by simp)
        rw [List.forall_mem_cons, List.forall_mem_append]
        exact ⟨s.unsigned s.tag (by simp), forall_mem_lengthen
          (fun w hw => s.unsigned w (by simp [hw])) (fun w hw => by
            simp [s.unsigned w (by simp [hw]), ht]), fun w hw => t.unsigned w (by simp [hw])⟩
      written := by
        rw [List.forall_mem_append, List.forall_mem_append]
        exact ⟨⟨forall_mem_lengthen s.id_ne_nil fun w hw => by simp [s.id_ne_nil w hw],
          t.id_ne_nil⟩, t.class_ne_nil⟩ }
  else
    { t with
      tag := s.tag ++ t.tag
      unsigned := by
        have hs := s.unsigned s.tag (by simp)
        have ht := t.unsigned t.tag (by simp)
        rw [List.forall_mem_cons]
        exact ⟨by simp [hs, ht], fun w hw => t.unsigned w (by simp [hw])⟩ }

/-- The head runs on as long as there are no classes. -/
theorem head_append (s t : Segments) :
    (s.append t).head = if s.classes = [] then s.head ++ t.head else s.head := by
  by_cases classes : s.classes = []
  · by_cases ids : s.ids = []
    · simp [append, head, classes, ids]
    · simp [append, head, classes, ids, flatMap_lengthen]
  · simp [append, head, classes]

/-- Appending is what it should be, on texts. -/
theorem text_append (s t : Segments) : (s.append t).text = s.text ++ t.text := by
  rw [text, head_append]
  by_cases classes : s.classes = []
  · have tail : (s.append t).classes = t.classes := by
      by_cases ids : s.ids = [] <;> simp [append, classes, ids]
    simp [text, classes, tail]
  · have tail : (s.append t).classes = lengthen t.head s.classes ++ t.classes := by
      simp [append, classes]
    simp [text, classes, tail, flatMap_lengthen]

end Segments

end SelectorCatalog.Compound
