import Mathlib.Logic.Relation
import SelectorCatalog.Proofs.Path.Normal

/-!
# Bringing paths into normal form

Segments are shortened one step at a time: an empty one and a `.` are left out, a `..` takes the
name in front of it along, and at the top it goes alone. `settle` takes such steps until only names
are left (`shortens_settle`). So a text in normal form stays as it is
(`normalizeChars_eq_self_iff`), and a path may be brought into normal form before another one is
appended to it just as well as afterwards (`settle_split_normalizeChars_append`).
-/

namespace SelectorCatalog.Path

/-- One step that shortens segments without changing where they lead. -/
inductive Shortens : List (List Char) → List (List Char) → Prop
  /-- An empty segment leads nowhere. -/
  | blank (before after : List (List Char)) : Shortens (before ++ [] :: after) (before ++ after)
  /-- Nor does a `.`. -/
  | here (before after : List (List Char)) : Shortens (before ++ ['.'] :: after) (before ++ after)
  /-- A `..` takes back the name in front of it. -/
  | back (before after : List (List Char)) {segment : List Char} (plain : isPlain segment = true) :
      Shortens (before ++ segment :: ['.', '.'] :: after) (before ++ after)
  /-- At the top there is nothing to take back. -/
  | top (after : List (List Char)) : Shortens (['.', '.'] :: after) after

variable {s t segment : List Char} {segments trail : List (List Char)}

/-! ## Segments -/

/-- A plain segment leads one step down. -/
theorem follow_of_isPlain (plain : isPlain segment = true) (trail : List (List Char)) :
    follow trail segment = segment :: trail := by
  have ne : segment ≠ ['.', '.'] := by
    rintro rfl
    cases plain
  simp [follow, ne, plain]

/-- Plain segments lead down all the way. -/
theorem foldl_follow_of_isPlain (plain : ∀ segment ∈ segments, isPlain segment = true)
    (trail : List (List Char)) : segments.foldl follow trail = segments.reverse ++ trail := by
  induction segments generalizing trail with
  | nil => rfl
  | cons segment rest ih =>
      rw [List.foldl_cons, follow_of_isPlain (plain segment List.mem_cons_self),
        ih fun x mem => plain x (List.mem_cons_of_mem _ mem), List.reverse_cons, List.append_assoc,
        List.singleton_append]

/-- Names are left alone. -/
theorem settle_of_isPlain (plain : ∀ segment ∈ segments, isPlain segment = true) :
    settle segments = segments := by
  rw [settle, foldl_follow_of_isPlain plain, List.append_nil, List.reverse_reverse]

/-- Segments may be settled before others come behind them. -/
theorem settle_settle_append (segments others : List (List Char)) :
    settle (settle segments ++ others) = settle (segments ++ others) := by
  have plain : ∀ segment ∈ settle segments, isPlain segment = true :=
    fun segment mem => (mem_settle mem).1
  rw [settle, settle.eq_1 (segments ++ others), List.foldl_append, List.foldl_append,
    foldl_follow_of_isPlain plain, settle, List.reverse_reverse, List.append_nil]

/-- A name that comes last is last when all is settled. -/
theorem settle_append_singleton (plain : isPlain segment = true) (segments : List (List Char)) :
    settle (segments ++ [segment]) = settle segments ++ [segment] := by
  rw [settle, List.foldl_append, List.foldl_cons, List.foldl_nil, follow_of_isPlain plain,
    List.reverse_cons, ← settle]

/-- Each segment is followed by one step at most; `trail` holds names alone. -/
theorem shortens_follow (plain : ∀ name ∈ trail, isPlain name = true) (segment : List Char)
    (rest : List (List Char)) :
    Relation.ReflTransGen Shortens (trail.reverse ++ segment :: rest)
      ((follow trail segment).reverse ++ rest) := by
  by_cases up : segment = ['.', '.']
  · subst up
    cases trail with
    | nil => exact .single (.top rest)
    | cons name before =>
        have step := Shortens.back before.reverse rest (plain name List.mem_cons_self)
        simpa [follow] using Relation.ReflTransGen.single step
  · by_cases name : isPlain segment = true
    · rw [follow_of_isPlain name, List.reverse_cons, List.append_assoc]
      exact .refl
    · have stays : follow trail segment = trail := by simp [follow, up, name]
      rw [stays]
      have dull : segment = [] ∨ segment = ['.'] :=
        Decidable.or_iff_not_imp_left.mpr (by simpa [isPlain, up] using name)
      rcases dull with rfl | rfl
      · exact .single (.blank trail.reverse rest)
      · exact .single (.here trail.reverse rest)

/-- Segments are settled by shortening them. -/
theorem shortens_settle (segments : List (List Char)) :
    Relation.ReflTransGen Shortens segments (settle segments) := by
  suffices run : ∀ trail : List (List Char), (∀ name ∈ trail, isPlain name = true) →
      Relation.ReflTransGen Shortens (trail.reverse ++ segments)
        (segments.foldl follow trail).reverse from run [] fun _ mem => nomatch mem
  induction segments with
  | nil =>
      intro trail _
      rw [List.append_nil]
      exact .refl
  | cons segment rest ih =>
      intro trail plain
      refine (shortens_follow plain segment rest).trans
        (ih (follow trail segment) fun name mem => ?_)
      exact (mem_follow mem).elim (plain name) And.left

/-! ## Texts -/

/-- A text and its normal form start both with a slash, or neither does. -/
theorem head?_normalizeChars (s : List Char) :
    (normalizeChars s).head? = some '/' ↔ s.head? = some '/' := by
  rw [normalizeChars]
  by_cases absolute : s.head? = some '/'
  · simp [absolute]
  · simp [absolute, head?_joinSegments (areClean_settle s)]

/-- The normal form depends on where a text starts and on what its segments settle to. -/
theorem normalizeChars_congr (start : s.head? = some '/' ↔ t.head? = some '/')
    (settled : settle (Text.split (· == '/') s) = settle (Text.split (· == '/') t)) :
    normalizeChars s = normalizeChars t := by
  simp only [normalizeChars, settled, beq_iff_eq, start]

/-- A text in normal form stays as it is, and no other does. -/
theorem normalizeChars_eq_self_iff : normalizeChars s = s ↔ IsNormal s := by
  constructor
  · intro eq
    exact eq ▸ isNormal_normalizeChars s
  · intro normal
    have keeps : ∀ body : List Char,
        (body = [] ∨ ∀ segment ∈ Text.split (· == '/') body, isPlain segment = true) →
          joinSegments (settle (Text.split (· == '/') body)) = body := by
      rintro body (rfl | plain)
      · rfl
      · rw [settle_of_isPlain plain, joinSegments_split]
    rw [IsNormal] at normal
    by_cases absolute : s.head? = some '/'
    · obtain ⟨body, rfl⟩ := List.head?_eq_some_iff.mp absolute
      -- the slash in front leaves an empty segment, which settles to nothing
      have front : settle (Text.split (· == '/') ('/' :: body)) =
          settle (Text.split (· == '/') body) := by
        rw [Text.split_cons_of_sep (by rfl)]
        rfl
      rw [normalizeChars, front, keeps body (by simpa using normal)]
      rfl
    · rw [normalizeChars, keeps s (by simpa [absolute] using normal)]
      simp [absolute]

/-- A name at the end of a text is at the end of its normal form. -/
theorem getLast?_split_normalizeChars (plain : isPlain segment = true)
    (last : Text.split (· == '/') s = segments ++ [segment]) :
    (Text.split (· == '/') (normalizeChars s)).getLast? = some segment := by
  have body : Text.split (· == '/') (joinSegments (settle (Text.split (· == '/') s))) =
      settle segments ++ [segment] := by
    have clean := areClean_settle s
    rw [last, settle_append_singleton plain] at clean ⊢
    exact split_joinSegments (by simp) fun x mem => (clean x mem).2
  rw [normalizeChars]
  split
  · rw [Text.split_cons_of_sep (by rfl), body, ← List.cons_append]
    exact List.getLast?_concat
  · rw [body]
    exact List.getLast?_concat

/-- Where segments come behind a text, they might as well come behind its normal form. -/
theorem settle_split_normalizeChars_append (s : List Char) (others : List (List Char)) :
    settle (Text.split (· == '/') (normalizeChars s) ++ others) =
      settle (Text.split (· == '/') s ++ others) := by
  -- empty segments in front are not followed
  have blank : ∀ rest : List (List Char), settle ([] :: rest) = settle rest := fun _ => rfl
  have body : settle (Text.split (· == '/') (joinSegments (settle (Text.split (· == '/') s))) ++
      others) = settle (Text.split (· == '/') s ++ others) := by
    rw [← settle_settle_append (Text.split (· == '/') s)]
    by_cases none : settle (Text.split (· == '/') s) = []
    · rw [none]
      rfl
    · rw [split_joinSegments none fun segment mem => (areClean_settle s segment mem).2]
  rw [normalizeChars]
  split
  · rw [Text.split_cons_of_sep (by rfl), List.cons_append, blank, body]
  · exact body

/-! ## Paths -/

/-- The characters of a path in normal form. -/
theorem toList_normalize (p : Path) : p.normalize.text.toList = normalizeChars p.text.toList := by
  rw [normalize, String.toList_ofList]

@[simp] theorem isAbsolute_normalize (p : Path) : p.normalize.isAbsolute = p.isAbsolute := by
  rw [Bool.eq_iff_iff, isAbsolute, isAbsolute, beq_iff_eq, beq_iff_eq, toList_normalize,
    head?_normalizeChars]

/-- A path is in normal form when bringing it there changes nothing. -/
theorem normalize_eq_self_iff {p : Path} : p.normalize = p ↔ IsNormal p.text.toList := by
  rw [← normalizeChars_eq_self_iff, ← toList_normalize, String.toList_inj]
  exact ⟨congrArg Path.text, fun eq => congrArg Path.mk eq⟩

/-- Behind a path from the root the rest may be appended before or after its normal form is
taken. -/
theorem normalize_append (p : Path) (absolute : p.isAbsolute = true) (q : String) :
    normalize ⟨p.text ++ "/" ++ q⟩ = normalize ⟨p.normalize.text ++ "/" ++ q⟩ := by
  rw [isAbsolute, beq_iff_eq] at absolute
  have start : ∀ u : List Char, u.head? = some '/' → ∀ v, (u ++ v).head? = some '/' := by
    rintro u hu v
    rw [List.head?_append, hu]
    rfl
  refine congrArg Path.mk (congrArg String.ofList (normalizeChars_congr ?_ ?_))
  all_goals simp only [String.toList_append, toList_normalize, List.append_assoc]
  · exact iff_of_true (start _ absolute _) (start _ ((head?_normalizeChars _).mpr absolute) _)
  · show settle (Text.split _ (_ ++ '/' :: q.toList)) = settle (Text.split _ (_ ++ '/' :: q.toList))
    rw [Text.split_append _ (by rfl), Text.split_append _ (by rfl),
      settle_split_normalizeChars_append]

/-- Every path is brought into normal form. Its normal form

* starts at the root if and only if the path does,
* has names for segments, none of them empty, `.` or `..`,
* is the path itself if and only if that is in normal form already, so that taking it twice changes
  nothing, and
* leads where the path leads: its names are what is left when the segments of the path have been
  shortened.

Whatever is appended to a path from the root, it makes no difference if the normal form of this path
is taken first. -/
theorem normalize_brings_into_normal_form (p : Path) :
    p.normalize.isAbsolute = p.isAbsolute ∧
      IsNormal p.normalize.text.toList ∧
      (p.normalize = p ↔ IsNormal p.text.toList) ∧
      p.normalize.normalize = p.normalize ∧
      (∃ names, Relation.ReflTransGen Shortens (Text.split (· == '/') p.text.toList) names ∧
        (∀ name ∈ names, isPlain name = true) ∧
        p.normalize.text.toList =
          (if p.isAbsolute then ['/'] else []) ++ joinSegments names) ∧
      (p.isAbsolute = true → ∀ q : String,
        normalize ⟨p.text ++ "/" ++ q⟩ = normalize ⟨p.normalize.text ++ "/" ++ q⟩) := by
  have normal : IsNormal p.normalize.text.toList :=
    (toList_normalize p).symm ▸ isNormal_normalizeChars _
  refine ⟨isAbsolute_normalize p, normal, normalize_eq_self_iff, normalize_eq_self_iff.mpr normal,
    ⟨_, shortens_settle _, fun name mem => (mem_settle mem).1, ?_⟩, normalize_append p⟩
  rw [toList_normalize, normalizeChars, isAbsolute]
  split <;> rfl

/-- A path that climbs above the root, with another one behind it. -/
theorem climbing_path_is_normalized :
    let p : Path := ⟨"/a/../../b/./c"⟩
    p.isAbsolute = true ∧ p.normalize = ⟨"/b/c"⟩ ∧
      normalize ⟨p.text ++ "/" ++ "..//d"⟩ = normalize ⟨p.normalize.text ++ "/" ++ "..//d"⟩ ∧
      normalize ⟨p.text ++ "/" ++ "..//d"⟩ = ⟨"/b/d"⟩ := by
  intro p
  have absolute : p.isAbsolute = true := by decide +kernel
  obtain ⟨-, -, -, -, -, append⟩ := normalize_brings_into_normal_form p
  exact ⟨absolute, by decide +kernel, append absolute "..//d", by decide +kernel⟩

end SelectorCatalog.Path
