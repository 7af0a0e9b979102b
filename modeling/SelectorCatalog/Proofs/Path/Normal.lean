import SelectorCatalog.Link
import SelectorCatalog.Proofs.Text.Split

/-!
# Paths in normal form

The text of a path in normal form can be read off its parts: two of them that name the same place
are one and the same text (`eq_of_same`). Links are resolved to paths in normal form
(`isNormal_resolve`).
-/

namespace SelectorCatalog.Path

/-- Whether segments are those of a text in normal form. -/
def AreClean (segments : List (List Char)) : Prop :=
  ∀ segment ∈ segments, isPlain segment = true ∧ '/' ∉ segment

variable {s body segment : List Char} {segments : List (List Char)} {p q : Path}

/-- A plain segment is not empty. -/
theorem ne_nil_of_isPlain (h : isPlain segment = true) : segment ≠ [] := by
  rintro rfl
  cases h

/-- A plain segment stands for its name. -/
theorem innerPart_of_isPlain (h : isPlain segment = true) :
    innerPart segment = some (.name (String.ofList segment)) := by
  unfold innerPart
  split
  · cases h
  · cases h
  · cases h
  · rfl

/-- A plain segment is a name, also in front. -/
theorem firstPart_of_isPlain (h : isPlain segment = true) (alone : Bool) :
    firstPart segment alone = [.name (String.ofList segment)] := by
  unfold firstPart
  split
  · cases h
  · cases h
  · rw [innerPart_of_isPlain h]
    rfl

/-- Segments have no slashes. -/
theorem not_slash_of_mem_split (h : segment ∈ Text.split (· == '/') s) : '/' ∉ segment :=
  fun mem => by simpa using Text.not_sep_of_mem_split h '/' mem

/-! ## Segments and texts -/

/-- Segments are joined by slashes. -/
theorem joinSegments_cons (ne : segments ≠ []) :
    joinSegments (segment :: segments) = segment ++ '/' :: joinSegments segments := by
  obtain ⟨next, rest, rfl⟩ := List.exists_cons_of_ne_nil ne
  simp [joinSegments, List.intercalate_cons_cons]

/-- Segments that are joined are cut apart again. -/
theorem split_joinSegments (ne : segments ≠ []) (clean : ∀ segment ∈ segments, '/' ∉ segment) :
    Text.split (· == '/') (joinSegments segments) = segments := by
  have unsplit : ∀ segment ∈ segments, ∀ c ∈ segment, (c == '/') = false := by
    intro segment mem c hc
    exact beq_eq_false_iff_ne.mpr fun eq => clean segment mem (eq ▸ hc)
  induction segments with
  | nil => exact absurd rfl ne
  | cons segment rest ih =>
      cases rest with
      | nil =>
          rw [joinSegments, List.intercalate_singleton]
          exact Text.split_eq_singleton (unsplit segment (by simp))
      | cons next rest =>
          rw [joinSegments_cons (by simp),
            Text.split_append_cons (unsplit segment (by simp)) (by rfl),
            ih (by simp) (fun x mem => clean x (List.mem_cons_of_mem _ mem))
              fun x mem => unsplit x (List.mem_cons_of_mem _ mem)]

/-- A text that is cut apart is joined again. -/
theorem joinSegments_split (s : List Char) : joinSegments (Text.split (· == '/') s) = s := by
  induction s with
  | nil => rfl
  | cons c s ih =>
      obtain ⟨segment, rest, eq⟩ := List.exists_cons_of_ne_nil (Text.split_ne_nil (· == '/') s)
      rw [Text.split_cons, Text.splitStep.eq_def]
      split
      · next hc =>
          rw [joinSegments_cons (Text.split_ne_nil _ s), ih, beq_iff_eq.mp hc]
          rfl
      · rw [eq] at ih ⊢
        rw [← ih]
        cases rest <;> simp [joinSegments, List.intercalate_cons_cons]

/-! ## Normal form -/

/-- A step keeps segments, and brings in none but a plain one. -/
theorem mem_follow {trail : List (List Char)} {first : List Char}
    (h : segment ∈ follow trail first) :
    segment ∈ trail ∨ isPlain segment = true ∧ segment = first := by
  rw [follow] at h
  split at h
  · exact .inl (List.mem_of_mem_tail h)
  · split at h
    · next plain =>
        rcases List.mem_cons.mp h with rfl | before
        · exact .inr ⟨plain, rfl⟩
        · exact .inl before
    · exact .inl h

/-- What is left of segments after every `.` and `..` has been followed is plain and was there
before. -/
theorem mem_settle (h : segment ∈ settle segments) :
    isPlain segment = true ∧ segment ∈ segments := by
  suffices kept : ∀ trail : List (List Char), ∀ x ∈ segments.foldl follow trail,
      x ∈ trail ∨ isPlain x = true ∧ x ∈ segments by
    rcases kept [] segment (List.mem_reverse.mp h) with none | some
    · cases none
    · exact some
  clear h
  induction segments with
  | nil => exact fun trail x mem => .inl mem
  | cons first rest ih =>
      intro trail x mem
      rcases ih (follow trail first) x mem with before | ⟨plain, later⟩
      · rcases mem_follow before with before | ⟨plain, rfl⟩
        · exact .inl before
        · exact .inr ⟨plain, List.mem_cons_self⟩
      · exact .inr ⟨plain, List.mem_cons_of_mem _ later⟩

/-- Segments that have settled are clean. -/
theorem areClean_settle (s : List Char) : AreClean (settle (Text.split (· == '/') s)) := by
  intro segment mem
  obtain ⟨plain, mem⟩ := mem_settle mem
  exact ⟨plain, not_slash_of_mem_split mem⟩

/-- Segments in normal form do not begin with a slash when they are joined. -/
theorem head?_joinSegments (clean : AreClean segments) :
    (joinSegments segments).head? ≠ some '/' := by
  cases segments with
  | nil => simp [joinSegments]
  | cons segment rest =>
      obtain ⟨plain, noSlash⟩ := clean segment List.mem_cons_self
      obtain ⟨c, more, rfl⟩ := List.exists_cons_of_ne_nil (ne_nil_of_isPlain plain)
      have ne : c ≠ '/' := by
        rintro rfl
        exact noSlash List.mem_cons_self
      cases rest with
      | nil => simpa [joinSegments] using ne
      | cons next rest =>
          rw [joinSegments_cons (by simp)]
          simpa using ne

/-- What was brought into normal form is so. -/
theorem isNormal_normalizeChars (s : List Char) : IsNormal (normalizeChars s) := by
  have clean := areClean_settle s
  have normal : joinSegments (settle (Text.split (· == '/') s)) = [] ∨
      ∀ segment ∈ Text.split (· == '/') (joinSegments (settle (Text.split (· == '/') s))),
        isPlain segment = true := by
    generalize settle (Text.split (· == '/') s) = segments at clean
    by_cases ne : segments = []
    · left
      rw [ne]
      rfl
    · right
      rw [split_joinSegments ne fun segment mem => (clean segment mem).2]
      exact fun segment mem => (clean segment mem).1
  rw [normalizeChars, IsNormal]
  by_cases absolute : s.head? = some '/'
  · simpa [absolute] using normal
  · simpa [absolute, head?_joinSegments clean] using normal

/-- A resolved link is in normal form. -/
theorem isNormal_resolve (href : List Char) (document : Path) (root : Option Path) :
    IsNormal (Link.resolve href document root).text.toList := by
  rw [Link.resolve, String.toList_ofList]
  exact isNormal_normalizeChars _

/-! ## Parts of a path in normal form -/

/-- The segments of a text without a leading slash. -/
def segmentsOf (body : List Char) : List (List Char) :=
  if body = [] then [] else Text.split (· == '/') body

/-- The segments of a body join to it. -/
theorem joinSegments_segmentsOf (body : List Char) : joinSegments (segmentsOf body) = body := by
  rw [segmentsOf]
  split
  · next empty =>
      rw [empty]
      rfl
  · exact joinSegments_split body

/-- Plain segments are names. -/
theorem filterMap_innerPart (plain : ∀ segment ∈ segments, isPlain segment = true) :
    segments.filterMap innerPart = segments.map fun segment => .name (String.ofList segment) := by
  induction segments with
  | nil => rfl
  | cons segment rest ih =>
      rw [List.filterMap_cons, innerPart_of_isPlain (plain segment List.mem_cons_self)]
      exact congrArg (_ :: ·) (ih fun x mem => plain x (List.mem_cons_of_mem _ mem))

/-- The parts of a clean body are its segments. -/
theorem filterMap_segmentsOf
    (plain : body = [] ∨ ∀ segment ∈ Text.split (· == '/') body, isPlain segment = true) :
    (Text.split (· == '/') body).filterMap innerPart =
      (segmentsOf body).map fun segment => .name (String.ofList segment) := by
  rcases plain with rfl | plain
  · rfl
  · have ne : body ≠ [] := by
      rintro rfl
      cases plain [] (by simp)
    rw [filterMap_innerPart plain, segmentsOf, if_neg ne]

/-- The parts of a path in normal form: the root if it starts there, and its names. -/
theorem parts_of_isNormal (normal : IsNormal p.text.toList) :
    ∃ body, p.parts = (if p.isAbsolute then [.root] else []) ++
        (segmentsOf body).map (fun segment => .name (String.ofList segment)) ∧
      p.text.toList = (if p.isAbsolute then ['/'] else []) ++ body := by
  rw [IsNormal] at normal
  rw [parts, isAbsolute]
  generalize p.text.toList = s at normal
  by_cases absolute : s.head? = some '/'
  · obtain ⟨body, rfl⟩ := List.head?_eq_some_iff.mp absolute
    refine ⟨body, ?_, rfl⟩
    have more : (Text.split (· == '/') body).isEmpty = false :=
      List.isEmpty_eq_false_iff.mpr (Text.split_ne_nil _ body)
    rw [Text.split_cons_of_sep (by rfl)]
    simp only [firstPart, more, Bool.false_eq_true, if_false]
    rw [filterMap_segmentsOf (by simpa using normal)]
    rfl
  · refine ⟨s, ?_, by simp [absolute]⟩
    have plain : s = [] ∨ ∀ segment ∈ Text.split (· == '/') s, isPlain segment = true := by
      simpa [absolute] using normal
    rw [← filterMap_segmentsOf plain]
    obtain ⟨segment, rest, eq⟩ := List.exists_cons_of_ne_nil (Text.split_ne_nil (· == '/') s)
    -- the first segment stands for what any other would stand for
    have first : firstPart segment rest.isEmpty = (innerPart segment).toList := by
      rcases plain with rfl | plain
      · cases eq
        rfl
      · have plain := plain segment (eq ▸ List.mem_cons_self)
        rw [firstPart_of_isPlain plain, innerPart_of_isPlain plain]
        rfl
    rw [eq]
    simp only [first, absolute, beq_iff_eq, if_false, List.nil_append]
    cases h : innerPart segment <;> simp [h]

/-- Where a path starts and its names are seen from its parts. -/
theorem rooted_inj {a b : Bool} {segments others : List (List Char)}
    (eq : (if a then [Part.root] else []) ++ segments.map (fun s => Part.name (String.ofList s)) =
      (if b then [Part.root] else []) ++ others.map fun s => Part.name (String.ofList s)) :
    a = b ∧ segments = others := by
  have names : ∀ {xs ys : List (List Char)}, (xs.map fun s => Part.name (String.ofList s)) =
      (ys.map fun s => Part.name (String.ofList s)) → xs = ys :=
    fun h => (List.map_inj_right fun x y h => String.ofList_injective (Part.name.inj h)).mp h
  cases a <;> cases b
  · exact ⟨rfl, names eq⟩
  · cases segments <;> cases eq
  · cases others <;> cases eq
  · exact ⟨rfl, names (List.cons.inj eq).2⟩

/-- A path in normal form is the only one of its place. -/
theorem eq_of_same (normal : IsNormal p.text.toList) (normal' : IsNormal q.text.toList)
    (same : p.same q = true) : p = q := by
  obtain ⟨body, parts, text⟩ := parts_of_isNormal normal
  obtain ⟨body', parts', text'⟩ := parts_of_isNormal normal'
  have eq := same_iff.mp same
  rw [parts, parts'] at eq
  obtain ⟨absolute, segments⟩ := rooted_inj eq
  have bodies : body = body' := by
    rw [← joinSegments_segmentsOf body, segments, joinSegments_segmentsOf]
  have texts : p.text.toList = q.text.toList := by rw [text, text', absolute, bodies]
  obtain ⟨t⟩ := p
  obtain ⟨u⟩ := q
  exact congrArg Path.mk (String.toList_injective texts)

end SelectorCatalog.Path
