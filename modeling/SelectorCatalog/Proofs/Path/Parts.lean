import SelectorCatalog.Proofs.Path.Normalization

/-!
# The parts of a path and their text

Apart from the root, the parts of a path are segments of its text (`mem_parts`), and the root is a
part if and only if the text starts there (`isAbsolute_iff_head?_parts`). So the text of some of
these parts has no characters of its own, slashes apart, and starts at the root if and only if they
do. The directory of a path is such a text; it is empty if the path has but one part
(`text_eq_empty_iff_of_parent?`). When a name is joined to a directory, a slash stands between them
as far as normal form is concerned (`normalize_join`).
-/

namespace SelectorCatalog.Path

variable {p dir : Path} {part : Part} {ps : List Part} {segment : List Char}

/-! ## Parts and segments -/

/-- A part other than the root is a segment that is not empty. -/
theorem innerPart_eq_some (h : innerPart segment = some part) :
    part ≠ .root ∧ part.render.toList = segment ∧ segment ≠ [] := by
  unfold innerPart at h
  split at h
  · cases h
  · cases h
  · cases h
    decide
  · next ne _ _ =>
      cases h
      exact ⟨nofun, String.toList_ofList, ne⟩

/-- The first part is the root, or what its segment says. -/
theorem mem_firstPart {alone : Bool} (h : part ∈ firstPart segment alone) :
    part = .root ∧ segment = [] ∧ alone = false ∨
      part ≠ .root ∧ part.render.toList = segment ∧ segment ≠ [] := by
  unfold firstPart at h
  split at h
  · cases alone <;> simp_all
  · obtain rfl := List.mem_singleton.mp h
    exact .inr (by decide)
  · exact .inr (innerPart_eq_some (Option.mem_toList.mp h))

/-- With an empty first segment and another one behind it, a text starts with the separator. -/
theorem head?_of_split {s : List Char} {rest : List (List Char)}
    (h : Text.split (· == '/') s = [] :: rest) (more : rest ≠ []) : s.head? = some '/' := by
  cases s with
  | nil =>
      cases h
      exact absurd rfl more
  | cons c s =>
      obtain ⟨first, others, eq⟩ := List.exists_cons_of_ne_nil (Text.split_ne_nil (· == '/') s)
      rw [Text.split_cons, Text.splitStep.eq_def, eq] at h
      split at h
      · next slash => rw [beq_iff_eq.mp slash, List.head?_cons]
      · cases h

/-- The parts of a path are segments of its text, except for the root. -/
theorem mem_parts (h : part ∈ p.parts) :
    part = .root ∧ p.isAbsolute = true ∨
      part ≠ .root ∧ part.render.toList ∈ Text.split (· == '/') p.text.toList ∧
        part.render.toList ≠ [] := by
  obtain ⟨first, rest, eq⟩ :=
    List.exists_cons_of_ne_nil (Text.split_ne_nil (· == '/') p.text.toList)
  rw [parts, eq] at h
  rcases List.mem_append.mp h with h | h
  · rcases mem_firstPart h with ⟨root, rfl, more⟩ | ⟨inner, render, ne⟩
    · refine .inl ⟨root, ?_⟩
      rw [isAbsolute, head?_of_split eq (List.isEmpty_eq_false_iff.mp more)]
      rfl
    · exact .inr ⟨inner, by rw [render, eq]; exact List.mem_cons_self, render.symm ▸ ne⟩
  · obtain ⟨segment, mem, h⟩ := List.mem_filterMap.mp h
    obtain ⟨inner, render, ne⟩ := innerPart_eq_some h
    exact .inr ⟨inner, by rw [render, eq]; exact List.mem_cons_of_mem first mem, render.symm ▸ ne⟩

/-- A path is absolute when its first part is the root. -/
theorem isAbsolute_iff_head?_parts : p.isAbsolute = true ↔ p.parts.head? = some .root := by
  constructor
  · intro absolute
    rw [isAbsolute, beq_iff_eq] at absolute
    obtain ⟨body, eq⟩ := List.head?_eq_some_iff.mp absolute
    have more : (Text.split (· == '/') body).isEmpty = false :=
      List.isEmpty_eq_false_iff.mpr (Text.split_ne_nil _ body)
    rw [parts, eq, Text.split_cons_of_sep (by rfl)]
    simp [firstPart, more]
  · intro root
    rcases mem_parts (List.mem_of_mem_head? root) with ⟨-, absolute⟩ | ⟨ne, -⟩
    · exact absolute
    · exact absurd rfl ne

/-! ## The text of parts -/

/-- Parts as a path has them: apart from the root they are neither empty nor hold slashes. -/
def AreWritten (ps : List Part) : Prop :=
  ∀ part ∈ ps, part ≠ .root → part.render.toList ≠ [] ∧ '/' ∉ part.render.toList

/-- The parts of a path can be written. -/
theorem areWritten_parts (p : Path) : AreWritten p.parts := by
  intro part mem inner
  obtain ⟨-, segment, ne⟩ := (mem_parts mem).resolve_left fun root => inner root.1
  exact ⟨ne, not_slash_of_mem_split segment⟩

/-- The characters of a path that is made of parts. -/
theorem toList_ofParts (ps : List Part) :
    (ofParts ps).text.toList = match ps with
      | .root :: rest => '/' :: joinSegments (rest.map fun part => part.render.toList)
      | _ => joinSegments (ps.map fun part => part.render.toList) := by
  unfold ofParts
  split
  · simp [joinSegments, Function.comp_def]
  · simp [joinSegments, Function.comp_def]

/-- Joined segments have the characters of each and slashes. -/
theorem mem_joinSegments {segments : List (List Char)} {c : Char} (h : c ∈ joinSegments segments) :
    c = '/' ∨ ∃ segment ∈ segments, c ∈ segment := by
  induction segments with
  | nil => cases h
  | cons first rest ih =>
      by_cases none : rest = []
      · subst none
        rw [joinSegments, List.intercalate_singleton] at h
        exact .inr ⟨first, List.mem_cons_self, h⟩
      · rw [joinSegments_cons none, List.mem_append, List.mem_cons] at h
        rcases h with h | slash | h
        · exact .inr ⟨first, List.mem_cons_self, h⟩
        · exact .inl slash
        · rcases ih h with slash | ⟨segment, mem, hc⟩
          · exact .inl slash
          · exact .inr ⟨segment, List.mem_cons_of_mem first mem, hc⟩

/-- A path that is made of parts has their characters and slashes. -/
theorem mem_ofParts {c : Char} (h : c ∈ (ofParts ps).text.toList) :
    c = '/' ∨ ∃ part ∈ ps, part ≠ .root ∧ c ∈ part.render.toList := by
  have rendered : ∀ rest ⊆ ps, c ∈ joinSegments (rest.map fun part => part.render.toList) →
      c = '/' ∨ ∃ part ∈ ps, part ≠ .root ∧ c ∈ part.render.toList := by
    intro rest sub hc
    rcases mem_joinSegments hc with slash | ⟨_, mem, hc⟩
    · exact .inl slash
    · obtain ⟨part, inside, rfl⟩ := List.mem_map.mp mem
      by_cases root : part = .root
      · subst root
        exact .inl (List.mem_singleton.mp hc)
      · exact .inr ⟨part, sub inside, root, hc⟩
  rw [toList_ofParts] at h
  split at h
  · rcases List.mem_cons.mp h with slash | h
    · exact .inl slash
    · exact rendered _ (List.subset_cons_self _ _) h
  · exact rendered ps (List.Subset.refl ps) h

/-- The first character of parts; it is a slash only if the first part is the root. -/
theorem exists_head?_ofParts (written : AreWritten ps) (ne : ps ≠ []) :
    ∃ c, (ofParts ps).text.toList.head? = some c ∧ (c = '/' ↔ ps.head? = some .root) := by
  obtain ⟨first, rest, rfl⟩ := List.exists_cons_of_ne_nil ne
  rw [toList_ofParts]
  by_cases root : first = .root
  · subst root
    exact ⟨'/', rfl, by simp⟩
  · obtain ⟨filled, noSlash⟩ := written first List.mem_cons_self root
    obtain ⟨c, more, eq⟩ := List.exists_cons_of_ne_nil filled
    have unrooted : c ≠ '/' := by
      rintro rfl
      exact noSlash (eq ▸ List.mem_cons_self)
    refine ⟨c, ?_, iff_of_false unrooted (by simpa using root)⟩
    have front :
        (joinSegments ((first :: rest).map fun part => part.render.toList)).head? = some c := by
      cases rest with
      | nil => simp [joinSegments, eq]
      | cons next rest =>
          rw [List.map_cons, joinSegments_cons (by simp), eq]
          rfl
    cases first <;> first | exact absurd rfl root | exact front

/-- It is empty when there are no parts. -/
theorem text_ofParts_eq_empty_iff (written : AreWritten ps) : (ofParts ps).text = "" ↔ ps = [] := by
  constructor
  · intro empty
    refine Decidable.byContradiction fun ne => ?_
    obtain ⟨c, first, -⟩ := exists_head?_ofParts written ne
    rw [empty] at first
    cases first
  · rintro rfl
    rfl

/-- It is absolute when the first part is the root. -/
theorem isAbsolute_ofParts_iff (written : AreWritten ps) :
    (ofParts ps).isAbsolute = true ↔ ps.head? = some .root := by
  by_cases none : ps = []
  · subst none
    exact iff_of_false nofun nofun
  · obtain ⟨c, first, slash⟩ := exists_head?_ofParts written none
    rw [isAbsolute, beq_iff_eq, first, Option.some.injEq, slash]

/-! ## The directory of a path -/

/-- The parent of a path has all parts but the last. -/
theorem eq_ofParts_of_parent? (h : p.parent? = some dir) : dir = ofParts p.parts.dropLast := by
  rw [parent?] at h
  split at h
  · cases h
  · cases h
  · exact (Option.some.inj h).symm

/-- A path without a directory is the root or has no parts. -/
theorem of_parent?_eq_none (h : p.parent? = none) : p.isAbsolute = true ∨ p.parts = [] := by
  rw [parent?] at h
  split at h
  · next none => exact .inr (List.getLast?_eq_none_iff.mp none)
  · next root =>
      rcases mem_parts (List.mem_of_getLast? root) with ⟨-, absolute⟩ | ⟨ne, -⟩
      · exact .inl absolute
      · exact absurd rfl ne
  · cases h

/-- They can be written. -/
theorem areWritten_dropLast (p : Path) : AreWritten p.parts.dropLast :=
  fun part mem => areWritten_parts p part (List.dropLast_subset _ mem)

/-- The directory of a path is empty if the path has one part alone. -/
theorem text_eq_empty_iff_of_parent? (h : p.parent? = some dir) :
    dir.text = "" ↔ p.parts.length ≤ 1 := by
  rw [eq_ofParts_of_parent? h, text_ofParts_eq_empty_iff (areWritten_dropLast p),
    ← List.length_eq_zero_iff, List.length_dropLast, Nat.sub_eq_zero_iff_le]

/-- The directory of a path starts where the path does, unless it is empty. -/
theorem isAbsolute_of_parent? (h : p.parent? = some dir) (ne : dir.text ≠ "") :
    dir.isAbsolute = true ↔ p.isAbsolute = true := by
  have long : 1 < p.parts.length := Nat.not_le.mp (mt (text_eq_empty_iff_of_parent? h).mpr ne)
  rw [eq_ofParts_of_parent? h, isAbsolute_ofParts_iff (areWritten_dropLast p), List.head?_dropLast,
    if_pos long, ← isAbsolute_iff_head?_parts]

/-- A parent has no other characters than its path, slashes apart. -/
theorem mem_of_parent? (h : p.parent? = some dir) {c : Char} (hc : c ∈ dir.text.toList) :
    c = '/' ∨ c ∈ p.text.toList := by
  rw [eq_ofParts_of_parent? h] at hc
  rcases mem_ofParts hc with slash | ⟨part, mem, inner, hc⟩
  · exact .inl slash
  · obtain ⟨-, segment, -⟩ :=
      (mem_parts (List.dropLast_subset _ mem)).resolve_left fun root => inner root.1
    exact .inr (Text.mem_of_mem_split segment hc)

/-! ## Joining -/

/-- An empty segment makes no difference. -/
theorem settle_append_blank (before after : List (List Char)) :
    settle (before ++ [] :: after) = settle (before ++ after) := by
  rw [settle, settle, List.foldl_append, List.foldl_append]
  rfl

/-- What is joined to a directory starts where the directory does. -/
theorem isAbsolute_join (ne : dir.text ≠ "") {name : String}
    (relative : name.toList.head? ≠ some '/') : (dir.join name).isAbsolute = dir.isAbsolute := by
  obtain ⟨c, more, eq⟩ := List.exists_cons_of_ne_nil (mt String.toList_eq_nil_iff.mp ne)
  rw [join, if_neg (by simpa using relative)]
  split <;> simp [isAbsolute, eq]

/-- For normal form, what is joined to a directory stands behind a slash. -/
theorem normalize_join (ne : dir.text ≠ "") {name : String}
    (relative : name.toList.head? ≠ some '/') :
    (dir.join name).normalize = normalize ⟨dir.text ++ "/" ++ name⟩ := by
  have filled : dir.text.isEmpty = false := by simpa using ne
  rw [join, if_neg (by simpa using relative)]
  by_cases ended : dir.text.toList.getLast? = some '/'
  · obtain ⟨front, eq⟩ := List.getLast?_eq_some_iff.mp ended
    rw [if_pos (by simp [ended])]
    refine congrArg Path.mk (congrArg String.ofList (normalizeChars_congr ?_ ?_))
    · simp [eq]
    · -- the slash between the two follows on another one
      have slashes : (dir.text ++ "/" ++ name).toList = front ++ '/' :: '/' :: name.toList := by
        simp [eq]
      have slash : (dir.text ++ name).toList = front ++ '/' :: name.toList := by simp [eq]
      rw [slashes, slash, Text.split_append front (by rfl), Text.split_append front (by rfl),
        Text.split_cons_of_sep (by rfl), settle_append_blank]
  · rw [if_neg (by simp [filled, ended])]

end SelectorCatalog.Path
