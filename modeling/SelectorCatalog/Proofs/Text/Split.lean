import SelectorCatalog.Text.Split

/-!
# Where a text is cut

What `Text.split` makes of texts of which it is known where the separators stand.
-/

namespace SelectorCatalog.Text

variable {sep : Char → Bool} {w : List Char}

/-- A separator in front splits an empty part off. -/
theorem split_cons_of_sep {d : Char} (hd : sep d = true) (s : List Char) :
    split sep (d :: s) = [] :: split sep s := by
  simp [split_cons, splitStep, hd]

/-- A text without separators is left whole. -/
theorem split_eq_singleton (h : ∀ c ∈ w, sep c = false) : split sep w = [w] := by
  induction w with
  | nil => rfl
  | cons c w ih =>
      have hc : sep c = false := h c (by simp)
      rw [split_cons, ih fun e he => h e (by simp [he]), splitStep]
      simp [hc]

/-- What stands on the two sides of a separator is cut by itself. -/
theorem split_append (u : List Char) {d : Char} (hd : sep d = true) (v : List Char) :
    split sep (u ++ d :: v) = split sep u ++ split sep v := by
  induction u with
  | nil => exact split_cons_of_sep hd v
  | cons c u ih =>
      obtain ⟨part, rest, eq⟩ := List.exists_cons_of_ne_nil (split_ne_nil sep u)
      rw [List.cons_append, split_cons, split_cons, ih, eq]
      by_cases hc : sep c = true <;> simp [splitStep, hc]

/-- A text is cut at its first separator. -/
theorem split_append_cons (h : ∀ c ∈ w, sep c = false) {d : Char} (hd : sep d = true)
    (s : List Char) : split sep (w ++ d :: s) = w :: split sep s := by
  rw [split_append w hd, split_eq_singleton h, List.singleton_append]

/-- Parts that are joined by a separator are cut apart again. -/
theorem split_append_flatMap (h : ∀ c ∈ w, sep c = false) {d : Char} (hd : sep d = true)
    {parts : List (List Char)} (clean : ∀ part ∈ parts, ∀ c ∈ part, sep c = false) :
    split sep (w ++ parts.flatMap (d :: ·)) = w :: parts := by
  induction parts generalizing w with
  | nil => simpa using split_eq_singleton h
  | cons part rest ih =>
      rw [List.flatMap_cons, List.cons_append, split_append_cons h hd,
        ih (clean part (by simp)) fun p hp => clean p (by simp [hp])]

/-- What holds no separator and comes last belongs to the last part. -/
theorem exists_split_append (s : List Char) (h : ∀ c ∈ w, sep c = false) :
    ∃ front start, split sep (s ++ w) = front ++ [start ++ w] := by
  induction s with
  | nil => exact ⟨[], [], split_eq_singleton h⟩
  | cons c s ih =>
      obtain ⟨front, start, eq⟩ := ih
      rw [List.cons_append, split_cons, eq, splitStep.eq_def]
      split
      · exact ⟨[] :: front, start, rfl⟩
      · cases front with
        | nil => exact ⟨[], c :: start, rfl⟩
        | cons first rest => exact ⟨(c :: first) :: rest, start, rfl⟩

/-- A part holds characters of the text alone. -/
theorem mem_of_mem_split {s part : List Char} (h : part ∈ split sep s) {c : Char} (hc : c ∈ part) :
    c ∈ s := by
  induction s generalizing part with
  | nil => simp_all
  | cons d s ih =>
      obtain ⟨first, rest, eq⟩ := List.exists_cons_of_ne_nil (split_ne_nil sep s)
      rw [split_cons, splitStep.eq_def, eq] at h
      rw [eq] at ih
      split at h
      · rcases List.mem_cons.mp h with rfl | h
        · cases hc
        · exact List.mem_cons_of_mem d (ih h hc)
      · rcases List.mem_cons.mp h with rfl | h
        · rcases List.mem_cons.mp hc with rfl | hc
          · exact List.mem_cons_self
          · exact List.mem_cons_of_mem d (ih List.mem_cons_self hc)
        · exact List.mem_cons_of_mem d (ih (List.mem_cons_of_mem first h) hc)

theorem beq_of_not_mem {d : Char} (h : d ∉ w) : ∀ c ∈ w, (c == d) = false :=
  fun c hc => by simpa using fun eq : c = d => h (eq ▸ hc)

theorem bne_of_not_mem {d : Char} (h : d ∉ w) : ∀ c ∈ w, (c != d) = true :=
  fun c hc => by simp [bne, beq_of_not_mem h c hc]

/-- To cut at one kind of separators and then at another is to cut at both. -/
theorem flatMap_split (sep sep' : Char → Bool) (s : List Char) :
    (split sep s).flatMap (split sep') = split (fun c => sep c || sep' c) s := by
  induction s with
  | nil => rfl
  | cons c s ih =>
      rw [split_cons, split_cons, ← ih]
      obtain ⟨part, rest, hs⟩ := List.exists_cons_of_ne_nil (split_ne_nil sep s)
      obtain ⟨word, more, hw⟩ := List.exists_cons_of_ne_nil (split_ne_nil sep' part)
      rw [hs]
      by_cases h : sep c = true
      · simp [splitStep, h]
      · by_cases h' : sep' c = true <;> simp [splitStep, h, h', split_cons, hw]

end SelectorCatalog.Text
