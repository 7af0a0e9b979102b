import Mathlib.Data.List.DropRight
import SelectorCatalog.Text.Blank

/-!
# Trimming

What `Text.trim` leaves begins and ends without a blank, and such a text is left as it is. Nothing
in front of a character that is no blank is lost at the end of a text.
-/

namespace SelectorCatalog.Text

variable {s : List Char} {c : Char}

/-- What does not start with a blank has nothing to trim there. -/
theorem trimStart_eq_self (h : ∀ c ∈ s.head?, isBlank c = false) : trimStart s = s := by
  cases s with
  | nil => rfl
  | cons c rest => exact List.dropWhile_cons_of_neg (by simp [h c rfl])

/-- What does not end with a blank has nothing to trim there. -/
theorem trimEnd_eq_self (h : ∀ c ∈ s.getLast?, isBlank c = false) : trimEnd s = s :=
  List.rdropWhile_eq_self_iff.mpr fun ne => by
    simp [h _ (List.getLast?_eq_some_getLast ne)]

theorem trim_prefix (s : List Char) : trim s <+: trimStart s :=
  List.rdropWhile_prefix isBlank (trimStart s)

/-- A trimmed text does not begin with a blank. -/
theorem not_isBlank_of_head?_trim (h : c ∈ (trim s).head?) : isBlank c = false := by
  obtain ⟨rest, eq⟩ := List.head?_eq_some_iff.mp h
  obtain ⟨cut, whole⟩ := trim_prefix s
  have first : (s.dropWhile isBlank).head? = some c := by
    rw [← trimStart, ← whole, eq]
    rfl
  have := List.head?_dropWhile_not isBlank s
  rwa [first] at this

/-- What was trimmed stays as it is. -/
theorem trim_trim (s : List Char) : trim (trim s) = trim s := by
  rw [trim, trimStart_eq_self fun c => not_isBlank_of_head?_trim]
  exact List.rdropWhile_idempotent isBlank (trimStart s)

/-- Only what stands in front of a character that is no blank is trimmed at the start. -/
theorem trimStart_append_cons (s : List Char) (h : isBlank c = false) (t : List Char) :
    trimStart (s ++ c :: t) = trimStart s ++ c :: t := by
  rw [trimStart, List.dropWhile_append, List.dropWhile_cons_of_neg (by simp [h])]
  split
  · next empty => rw [trimStart, List.isEmpty_iff.mp empty, List.nil_append]
  · rfl

/-- Only what stands behind a character that is no blank is trimmed at the end. -/
theorem exists_trimEnd_append_cons (s : List Char) (h : isBlank c = false) (t : List Char) :
    ∃ rest, trimEnd (s ++ c :: t) = s ++ c :: rest := by
  refine ⟨trimEnd t, ?_⟩
  rw [trimEnd, trimEnd, List.reverse_append, List.reverse_cons, List.append_assoc,
    List.dropWhile_append]
  split
  · next empty =>
      rw [List.isEmpty_iff.mp empty, List.singleton_append,
        List.dropWhile_cons_of_neg (by simp [h])]
      simp
  · simp

end SelectorCatalog.Text
