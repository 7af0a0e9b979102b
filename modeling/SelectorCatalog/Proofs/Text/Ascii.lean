import SelectorCatalog.Text.Blank
import SelectorCatalog.Text.Lower

/-!
# Lower case of ASCII

In ASCII, lower case is a matter of single characters: the letters A to Z move, everything else
stays. Blanks have no case. So for a text of ASCII and blanks the Unicode mapping of whole texts and
the mapping of single characters come to the same (`lower_ofList`).
-/

namespace SelectorCatalog.Text

/-- Lower case moves the letters A to Z alone. -/
theorem toLower_eq_self_or (c : Char) :
    c.toLower = c ∨ 65 ≤ c.toNat ∧ c.toNat ≤ 90 ∧ c.toLower.toNat = c.toNat + 32 := by
  unfold Char.toLower
  split
  · next h =>
      simp only [ge_iff_le, UInt32.le_iff_toNat_le, Char.toNat_val] at h
      have h : 65 ≤ c.toNat ∧ c.toNat ≤ 90 := h
      refine .inr ⟨h.1, h.2, ?_⟩
      show (c.val + 32).toNat = _
      simp only [UInt32.toNat_add, Char.toNat_val, UInt32.reduceToNat]
      omega
  · exact .inl rfl

/-- What is no letter is the lower case of itself alone. -/
theorem toLower_eq_iff {c d : Char} (h : ¬(97 ≤ d.toNat ∧ d.toNat ≤ 122))
    (h' : ¬(65 ≤ d.toNat ∧ d.toNat ≤ 90)) : c.toLower = d ↔ c = d := by
  constructor
  · rintro rfl
    rcases toLower_eq_self_or c with eq | ⟨_, _, _⟩
    · exact eq.symm
    · omega
  · rintro rfl
    exact (toLower_eq_self_or c).resolve_right fun ⟨lo, hi, _⟩ => h' ⟨lo, hi⟩

@[simp] theorem asciiLower_eq_empty {s : String} : asciiLower s = "" ↔ s = "" := by
  simp [asciiLower]

/-- The star is no letter. -/
theorem asciiLower_eq_star {s : String} : asciiLower s = "*" ↔ s = "*" := by
  rw [asciiLower, ← String.toList_inj, ← String.toList_inj, String.toList_map]
  show s.toList.map Char.toLower = ['*'] ↔ s.toList = ['*']
  cases s.toList with
  | nil => simp
  | cons c rest => simp [toLower_eq_iff (d := '*') (by decide) (by decide)]

/-- Lower case does not lead out of ASCII. -/
theorem toNat_toLower_lt {c : Char} (h : c.toNat < 0x80) : c.toLower.toNat < 0x80 := by
  rcases toLower_eq_self_or c with eq | ⟨_, _, _⟩
  · rwa [eq]
  · omega

/-- Lower case is final. -/
@[simp] theorem asciiLower_asciiLower (s : String) : asciiLower (asciiLower s) = asciiLower s := by
  rw [asciiLower, asciiLower, ← String.toList_inj, String.toList_map, String.toList_map,
    List.map_map]
  refine List.map_congr_left fun c _ => ?_
  -- a letter that has moved is none of A to Z any more
  rcases toLower_eq_self_or c.toLower with eq | ⟨_, _, _⟩
  · exact eq
  · rcases toLower_eq_self_or c with eq | ⟨_, _, _⟩
    · exact congrArg Char.toLower eq
    · omega

/-! ## Blanks -/

/-- All blanks. -/
def blanks : List Char :=
  [9, 10, 11, 12, 13, 0x20, 0x85, 0xA0, 0x1680, 0x2000, 0x2001, 0x2002, 0x2003, 0x2004, 0x2005,
    0x2006, 0x2007, 0x2008, 0x2009, 0x200A, 0x2028, 0x2029, 0x202F, 0x205F, 0x3000].map Char.ofNat

/-- The blanks are listed. -/
theorem mem_blanks {c : Char} (h : isBlank c = true) : c ∈ blanks := by
  rw [blanks, List.mem_map]
  refine ⟨c.toNat, ?_, Char.ofNat_toNat c⟩
  simp only [isBlank, Bool.or_eq_true, Bool.and_eq_true, decide_eq_true_eq, beq_iff_eq] at h
  simp only [List.mem_cons, List.not_mem_nil, or_false]
  omega

/-- Blanks have no case. -/
theorem lowerChar_of_isBlank {c : Char} (h : isBlank c = true) :
    c.toLower = c ∧ lowerChar c = [c] ∧ c ≠ 'Σ' := by
  have all : blanks.all (fun c => c.toLower == c && lowerChar c == [c] && c != 'Σ') = true := by
    decide +kernel
  simpa [and_assoc] using List.all_eq_true.mp all c (mem_blanks h)

/-! ## Whole texts -/

/-- Among ASCII and blanks no letter depends on what stands before it. -/
theorem lowerFrom_eq_map {s : List Char} (h : ∀ c ∈ s, c.toNat < 0x80 ∨ isBlank c = true)
    (before : List Char) : lowerFrom before s = s.map Char.toLower := by
  induction s generalizing before with
  | nil => rfl
  | cons c rest ih =>
      have image : (if c == 'Σ' then
          if startsCased before && !startsCased rest then ['ς'] else ['σ']
        else lowerChar c) = [c.toLower] := by
        rcases h c (by simp) with ascii | blank
        · have : c ≠ 'Σ' := by
            rintro rfl
            exact absurd ascii (by decide)
          simp [this, lowerChar, ascii]
        · obtain ⟨eq, eq', ne⟩ := lowerChar_of_isBlank blank
          simp [ne, eq, eq']
      rw [lowerFrom, image, ih fun d hd => h d (by simp [hd])]
      rfl

/-- The lower case of a text of ASCII and blanks. -/
theorem lower_ofList {s : List Char} (h : ∀ c ∈ s, c.toNat < 0x80 ∨ isBlank c = true) :
    lower (String.ofList s) = String.ofList (s.map Char.toLower) := by
  rw [lower, String.toList_ofList, lowerFrom_eq_map h]

/-- For ASCII the two ways to lower case are one. -/
theorem lower_eq_asciiLower {s : String} (h : ∀ c ∈ s.toList, c.toNat < 0x80) :
    lower s = asciiLower s := by
  rw [← String.toList_inj, lower, String.toList_ofList, lowerFrom_eq_map fun c hc => .inl (h c hc),
    asciiLower, String.toList_map]

/-- Lower case goes character by character. -/
theorem asciiLower_ofList (s : List Char) :
    asciiLower (String.ofList s) = String.ofList (s.map Char.toLower) := by
  rw [← String.toList_inj, asciiLower, String.toList_map, String.toList_ofList,
    String.toList_ofList]

end SelectorCatalog.Text
