import SelectorCatalog.Text.Blank

/-!
# Cutting texts

Texts are cut at every separator. Nothing is lost: there is one part more than separators, and
adjacent separators leave an empty part between them.
-/

namespace SelectorCatalog.Text

/-- Puts a character in front of the first part, or cuts there. -/
def splitStep (sep : Char → Bool) (c : Char) (parts : List (List Char)) : List (List Char) :=
  if sep c then [] :: parts
  else match parts with
    | [] => [[c]]
    | part :: rest => (c :: part) :: rest

/-- The parts of a text between its separators. -/
def split (sep : Char → Bool) (s : List Char) : List (List Char) :=
  s.foldr (splitStep sep) [[]]

@[simp] theorem split_nil (sep : Char → Bool) : split sep [] = [[]] := rfl

theorem split_cons (sep : Char → Bool) (c : Char) (s : List Char) :
    split sep (c :: s) = splitStep sep c (split sep s) := rfl

/-- A text always has a first part. -/
theorem split_ne_nil (sep : Char → Bool) (s : List Char) : split sep s ≠ [] := by
  cases s with
  | nil => simp
  | cons c s =>
    simp only [split_cons, splitStep]
    split
    · simp
    · split <;> simp

/-- No separator is left in a part. -/
theorem not_sep_of_mem_split {sep : Char → Bool} {s part : List Char} (h : part ∈ split sep s) :
    ∀ c ∈ part, sep c = false := by
  induction s generalizing part with
  | nil => simp_all
  | cons d s ih =>
    simp only [split_cons, splitStep] at h
    split at h
    · rcases List.mem_cons.1 h with rfl | h
      · simp
      · exact ih h
    · next hd =>
      split at h
      · simp_all
      · next p ps hp =>
        rcases List.mem_cons.1 h with rfl | h
        · intro c hc
          rcases List.mem_cons.1 hc with rfl | hc
          · simpa using hd
          · exact ih (by simp [hp]) c hc
        · exact ih (by simp [hp, h])

/-- The parts of a text between blanks, empty ones left out. -/
def words (s : List Char) : List (List Char) :=
  (split isBlank s).filter fun part => !part.isEmpty

end SelectorCatalog.Text
