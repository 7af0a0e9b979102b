import SelectorCatalog.Proofs.Path.Parts

/-!
# Where links start

A link that does not begin with a slash is seen from its document: `link_starts_at_directory` says
that it leads to the document's directory with the target joined to it, in normal form, whatever the
project root is. A document whose path has no directory in front is the exception. Its links start
at the root of the file system instead.
-/

namespace SelectorCatalog.Link

open SelectorCatalog.Path

variable {href : List Char} {document dir : Path}

/-- Where the links of a document start: in its directory, and at the root if its path has none. -/
def origin (document : Path) : Path :=
  match document.parent? with
  | some dir => if dir.text = "" then ⟨"/"⟩ else dir
  | none => ⟨"/"⟩

/-! ## The text that is brought into normal form -/

/-- Query and fragment do not decide how a target begins. -/
theorem head?_file (relative : (Text.trim href).head? ≠ some '/') :
    (file href).head? ≠ some '/' := by
  rw [file, withoutQuery, List.head?_takeWhile]
  intro slash
  exact relative (Option.eq_some_of_filter_eq_some slash)

/-- Without backslashes a directory is taken as it is. -/
theorem slashed_some (plain : '\\' ∉ dir.text.toList) : slashed (some dir) = dir.text.toList := by
  have same : ∀ c ∈ dir.text.toList, (if c == '\\' then '/' else c) = c := by
    intro c hc
    rw [if_neg]
    intro eq
    exact plain (beq_iff_eq.mp eq ▸ hc)
  rw [slashed, Option.map_some, Option.getD_some, List.map_congr_left same, List.map_id']

/-- A relative link is written after the directory and a slash, and brought into normal form. -/
theorem resolve_eq_normalize (relative : (Text.trim href).head? ≠ some '/') (root : Option Path) :
    resolve href document root =
      Path.normalize ⟨String.ofList (slashed document.parent? ++ '/' :: file href)⟩ := by
  have apart : ((file href).head? == some '/') = false := by simpa using head?_file relative
  rw [resolve, Path.normalize, String.toList_ofList, base, apart]
  rfl

/-! ## The origin of links -/

/-- The directory that links start at has a name. -/
theorem text_origin_ne (document : Path) : (origin document).text ≠ "" := by
  rw [origin]
  split
  · split
    · decide
    · assumption
  · decide

/-- What the target stands behind is the origin, its last slash left out. -/
theorem normalize_slashed (plain : '\\' ∉ document.text.toList) {name : List Char}
    (relative : name.head? ≠ some '/') :
    Path.normalize ⟨String.ofList (slashed document.parent? ++ '/' :: name)⟩ =
      ((origin document).join (String.ofList name)).normalize := by
  have relative : (String.ofList name).toList.head? ≠ some '/' := by
    rwa [String.toList_ofList]
  have atRoot : Path.normalize ⟨String.ofList ([] ++ '/' :: name)⟩ =
      ((Path.mk "/").join (String.ofList name)).normalize := by
    have text : String.ofList ('/' :: name) = "/" ++ String.ofList name := by simp
    rw [join, if_neg (by simpa using relative), if_pos (by decide), List.nil_append, text]
  rw [origin]
  -- a document without a directory, one in the root, or one further down
  cases found : document.parent? with
  | none => exact atRoot
  | some dir =>
      have unslashed : '\\' ∉ dir.text.toList := fun hc =>
        (mem_of_parent? found hc).elim (by decide) plain
      rw [slashed_some unslashed]
      by_cases empty : dir.text = ""
      · simpa [empty] using atRoot
      · have text : String.ofList (dir.text.toList ++ '/' :: name) =
            dir.text ++ "/" ++ String.ofList name := by
          simp [← String.toList_inj]
        simp only [if_neg empty, text]
        exact (normalize_join empty relative).symm

/-- It is absolute when the document is, or when the document has no directory of its own. -/
theorem isAbsolute_origin (document : Path) :
    (origin document).isAbsolute = true ↔
      document.isAbsolute = true ∨ document.parts.length ≤ 1 := by
  rw [origin]
  cases found : document.parent? with
  | none =>
      refine iff_of_true rfl ((of_parent?_eq_none found).imp_right fun none => ?_)
      rw [none]
      exact Nat.zero_le 1
  | some dir =>
      have empty := text_eq_empty_iff_of_parent? found
      by_cases short : dir.text = ""
      · simp only [if_pos short]
        exact iff_of_true rfl (.inr (empty.mp short))
      · simp only [if_neg short]
        rw [isAbsolute_of_parent? found short, or_iff_left (mt empty.mpr short)]

/-- A link that does not begin with a slash leads from where its document's links start to the place
that its target names.

* It leads there from the document's own directory if and only if the document's path has more than
  one part. The directory of a document that is given by its name alone is empty, and its links
  start at the root.
* So the link leads to a path from the root if and only if the document's path starts there or has
  one part alone.
* The root of the project does not matter. -/
theorem link_starts_at_directory (href : List Char) (document : Path) (root : Option Path)
    (relative : (Text.trim href).head? ≠ some '/') (plain : '\\' ∉ document.text.toList) :
    resolve href document root =
        ((origin document).join (String.ofList (file href))).normalize ∧
      (∀ dir, document.parent? = some dir →
        (resolve href document root = (dir.join (String.ofList (file href))).normalize ↔
          1 < document.parts.length)) ∧
      ((resolve href document root).isAbsolute = true ↔
        document.isAbsolute = true ∨ document.parts.length ≤ 1) ∧
      ∀ other, resolve href document other = resolve href document root := by
  have apart : (String.ofList (file href)).toList.head? ≠ some '/' := by
    rw [String.toList_ofList]
    exact head?_file relative
  have leads : ∀ root, resolve href document root =
      ((origin document).join (String.ofList (file href))).normalize := fun root =>
    (resolve_eq_normalize relative root).trans (normalize_slashed plain (head?_file relative))
  have absolute : (resolve href document root).isAbsolute = true ↔
      document.isAbsolute = true ∨ document.parts.length ≤ 1 := by
    -- normal form and the joined part have no say in whether a path is absolute
    rw [leads, isAbsolute_normalize, isAbsolute_join (text_origin_ne document) apart,
      isAbsolute_origin]
  refine ⟨leads root, fun dir found => ?_, absolute,
    fun other => (leads other).trans (leads root).symm⟩
  have empty := text_eq_empty_iff_of_parent? found
  by_cases short : document.parts.length ≤ 1
  · refine iff_of_false (fun eq => ?_) (Nat.not_lt.mpr short)
    -- what is joined to the empty directory stays relative
    rw [eq, isAbsolute_normalize, join, if_neg (by simpa using apart),
      if_pos (by simp [empty.mpr short])] at absolute
    refine apart ?_
    simpa [isAbsolute, empty.mpr short] using absolute.mpr (.inr short)
  · refine iff_of_true ?_ (Nat.not_le.mp short)
    rw [leads, origin, found]
    simp only [if_neg (mt empty.mp short)]

/-- A document below a relative directory, with a link that climbs. -/
theorem climbing_link_starts_at_directory :
    let href := " ../css/site.css?v=3#top".toList
    let document : Path := ⟨"proj/pages/index.html"⟩
    (Text.trim href).head? ≠ some '/' ∧ '\\' ∉ document.text.toList ∧
      document.parent? = some ⟨"proj/pages"⟩ ∧
      resolve href document (some ⟨"/other"⟩) =
        ((Path.mk "proj/pages").join (String.ofList (file href))).normalize ∧
      resolve href document (some ⟨"/other"⟩) = ⟨"proj/css/site.css"⟩ := by
  intro href document
  have relative : (Text.trim href).head? ≠ some '/' := by decide +kernel
  have plain : '\\' ∉ document.text.toList := by decide +kernel
  have found : document.parent? = some ⟨"proj/pages"⟩ := by decide +kernel
  obtain ⟨-, beside, -, -⟩ :=
    link_starts_at_directory href document (some ⟨"/other"⟩) relative plain
  exact ⟨relative, plain, found, (beside _ found).mpr (by decide +kernel), by decide +kernel⟩

/-- The links of a document that is given by its name alone leave its directory. -/
theorem bare_document_links_to_root :
    let href := "x.css".toList
    let document : Path := ⟨"index.html"⟩
    (Text.trim href).head? ≠ some '/' ∧ '\\' ∉ document.text.toList ∧
      document.parent? = some ⟨""⟩ ∧
      ((Path.mk "").join (String.ofList (file href))).normalize = ⟨"x.css"⟩ ∧
      resolve href document none = ⟨"/x.css"⟩ ∧
      (resolve href document none).isAbsolute ≠ document.isAbsolute := by
  decide +kernel

end SelectorCatalog.Link
