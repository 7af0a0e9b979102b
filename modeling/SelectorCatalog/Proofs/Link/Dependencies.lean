import SelectorCatalog.Html.Document
import SelectorCatalog.Proofs.Path.Normalization
import SelectorCatalog.Proofs.Text.Ascii
import SelectorCatalog.Proofs.Text.Trim

/-!
# The stylesheets that links bring in

Whether a link counts as a stylesheet's and where it leads both depend on the file that its target
names. The file does not change when the target is trimmed (`file_trim`) or when a query or fragment
comes behind it (`file_append_mark`), it begins as the trimmed target does, and its last segment is
the last one of the path that it resolves to. From this follows the shape of a document's
dependencies (`dependencies_have_shape`).
-/

namespace SelectorCatalog

namespace Link

variable {s t href : List Char} {c : Char}

/-- Whether a target has a scheme or a host of its own, blanks in front and case apart. -/
def LeadsOutside (href : List Char) : Prop :=
  ∃ scheme ∈ ["http://", "https://", "//"],
    scheme.toList <+: (Text.trimStart href).map Char.toLower

/-- Whether the last segment of a path is the name of a stylesheet, with neither query nor
fragment. -/
def NamesStylesheet (p : Path) : Prop :=
  ∃ name, (Text.split (· == '/') p.text.toList).getLast? = some name ∧
    ".css".toList <:+ name.map Char.toLower ∧ '?' ∉ name ∧ '#' ∉ name

/-! ## Query and fragment -/

/-- Whether a character starts a query or a fragment. -/
def IsMark (c : Char) : Prop :=
  c = '?' ∨ c = '#'

instance : DecidablePred IsMark := fun c => inferInstanceAs (Decidable (c = '?' ∨ c = '#'))

/-- No mark is a blank. -/
theorem IsMark.not_isBlank (h : IsMark c) : Text.isBlank c = false := by
  rcases h with rfl | rfl <;> decide

/-- A mark has no case. -/
theorem IsMark.toLower (h : IsMark c) : IsMark c.toLower := by
  rcases h with rfl | rfl <;> decide

/-- What is left without a query ends at the first mark. -/
theorem withoutQuery_cons (c : Char) (s : List Char) :
    withoutQuery (c :: s) = if IsMark c then [] else c :: withoutQuery s := by
  rw [withoutQuery, List.takeWhile_cons]
  by_cases h : IsMark c
  · rcases h with rfl | rfl <;> rfl
  · have ne : c ≠ '?' ∧ c ≠ '#' := not_or.mp h
    simp [h, ne, withoutQuery]

/-- A query after a part without marks is cut off. -/
theorem withoutQuery_append (h : ∀ c ∈ s, ¬IsMark c) (t : List Char) :
    withoutQuery (s ++ t) = s ++ withoutQuery t := by
  induction s with
  | nil => rfl
  | cons c s ih =>
      rw [List.cons_append, withoutQuery_cons, if_neg (h c List.mem_cons_self),
        ih fun d hd => h d (List.mem_cons_of_mem c hd), List.cons_append]

/-- What follows a mark does not matter. -/
theorem withoutQuery_append_cons (s : List Char) (h : IsMark c) (t : List Char) :
    withoutQuery (s ++ c :: t) = withoutQuery s := by
  induction s with
  | nil => rw [List.nil_append, withoutQuery_cons, if_pos h, withoutQuery, List.takeWhile_nil]
  | cons d s ih => rw [List.cons_append, withoutQuery_cons, withoutQuery_cons, ih]

/-- No mark is left. -/
theorem not_isMark_of_mem_withoutQuery (h : c ∈ withoutQuery s) : ¬IsMark c := by
  induction s with
  | nil => cases h
  | cons d s ih =>
      rw [withoutQuery_cons] at h
      split at h
      · cases h
      · rcases List.mem_cons.mp h with rfl | h
        · assumption
        · exact ih h

/-! ## The file of a target -/

/-- Blanks around a link do not matter. -/
theorem file_trim (href : List Char) : file (Text.trim href) = file href := by
  rw [file, Text.trim_trim, file]

/-- A file does not begin with a blank, so there is nothing to trim from it. -/
theorem trimStart_file (href : List Char) : Text.trimStart (file href) = file href := by
  refine Text.trimStart_eq_self fun c first => ?_
  rw [file, withoutQuery, List.head?_takeWhile] at first
  exact Text.not_isBlank_of_head?_trim (Option.eq_some_of_filter_eq_some first)

/-- Of a target that ends without a blank, only the blanks in front are trimmed. -/
theorem trim_eq_trimStart (ends : ∀ c ∈ href.getLast?, Text.isBlank c = false) :
    Text.trim href = Text.trimStart href := by
  refine Text.trimEnd_eq_self fun c last => ends c ?_
  obtain ⟨front, whole⟩ := List.dropWhile_suffix (l := href) Text.isBlank
  obtain ⟨start, eq⟩ := List.getLast?_eq_some_iff.mp last
  rw [← whole, ← Text.trimStart, eq, ← List.append_assoc]
  exact List.getLast?_concat

/-- A query or fragment behind a target is left out, whatever blanks are in it. -/
theorem file_append_mark (ends : ∀ c ∈ href.getLast?, Text.isBlank c = false) {mark : Char}
    (h : IsMark mark) (rest : List Char) : file (href ++ mark :: rest) = file href := by
  obtain ⟨more, eq⟩ :=
    Text.exists_trimEnd_append_cons (Text.trimStart href) h.not_isBlank rest
  rw [file, Text.trim, Text.trimStart_append_cons href h.not_isBlank, eq,
    withoutQuery_append_cons _ h, file, trim_eq_trimStart ends]

/-- What a target begins with belongs to its file if it has neither blanks nor marks. -/
theorem prefix_file (begins : s <+: Text.trimStart href)
    (solid : ∀ c ∈ s, Text.isBlank c = false ∧ ¬IsMark c) : s <+: file href := by
  obtain ⟨t, whole⟩ := begins
  rcases List.eq_nil_or_concat s with rfl | ⟨front, c, rfl⟩
  · exact List.nil_prefix
  · obtain ⟨rest, eq⟩ := Text.exists_trimEnd_append_cons front (solid c (by simp)).1 t
    rw [file, Text.trim, ← whole, List.concat_append, eq, ← List.concat_append,
      withoutQuery_append fun d hd => (solid d hd).2]
    exact List.prefix_append _ _

/-- No scheme has blanks or marks in it. -/
theorem scheme_mem_externalSchemes : ∀ scheme ∈ ["http://", "https://", "//"],
    scheme.toList ∈ externalSchemes ∧
      ∀ c ∈ scheme.toList, Text.isBlank c = false ∧ ¬IsMark c := by
  have known : ["http://", "https://", "//"].all (fun scheme =>
      externalSchemes.contains scheme.toList &&
        scheme.toList.all fun c => !Text.isBlank c && !decide (IsMark c)) = true := by decide
  intro scheme mem
  simpa using List.all_eq_true.mp known scheme mem

/-- A target that leads outside names a file that does. -/
theorem isExternal_file (h : LeadsOutside href) : isExternal (file href) = true := by
  obtain ⟨scheme, mem, begins⟩ := h
  obtain ⟨start, begins, lowered⟩ := List.prefix_map_iff.mp begins
  obtain ⟨known, written⟩ := scheme_mem_externalSchemes scheme mem
  have solid : ∀ c ∈ start, Text.isBlank c = false ∧ ¬IsMark c := by
    intro c hc
    -- blanks and marks are the same in lower case
    obtain ⟨filled, unmarked⟩ := written c.toLower (lowered ▸ List.mem_map_of_mem hc)
    refine ⟨Bool.eq_false_iff.mpr fun blank => ?_, fun mark => unmarked mark.toLower⟩
    rw [(Text.lowerChar_of_isBlank blank).1, blank] at filled
    cases filled
  rw [isExternal, trimStart_file, List.any_eq_true]
  refine ⟨scheme.toList, known, List.isPrefixOf_iff_prefix.mpr ?_⟩
  exact lowered ▸ (prefix_file begins solid).map Char.toLower

/-! ## Acceptance and resolution -/

/-- Targets of one file are accepted alike. -/
theorem isLocalStylesheet_congr (h : file s = file t) :
    isLocalStylesheet s = isLocalStylesheet t := by
  rw [isLocalStylesheet, isLocalStylesheet, h]

/-- Targets of one file lead to one path. -/
theorem resolve_congr (h : file s = file t) (document : Path) (root : Option Path) :
    resolve s document root = resolve t document root := by
  rw [resolve, resolve, h]

/-- What leads outside is no stylesheet of the project. -/
theorem isLocalStylesheet_of_leadsOutside (h : LeadsOutside href) :
    isLocalStylesheet href = false := by
  simp [isLocalStylesheet, isExternal_file h]

/-- The ending of a stylesheet's name has no slash in it, so it ends the last segment. -/
theorem exists_last_segment (h : isLocalStylesheet href = true) :
    ∃ front name, Text.split (· == '/') (file href) = front ++ [name] ∧
      ".css".toList <:+ name.map Char.toLower := by
  simp only [isLocalStylesheet, Bool.and_eq_true] at h
  obtain ⟨ending, ⟨before, whole⟩, lowered⟩ :=
    List.suffix_map_iff.mp (List.isSuffixOf_iff_suffix.mp h.2)
  have unslashed : ∀ c ∈ ending, (c == '/') = false := by
    intro c hc
    rw [beq_eq_false_iff_ne]
    rintro rfl
    have slash : '/' ∈ stylesheetSuffix := lowered ▸ List.mem_map.mpr ⟨'/', hc, rfl⟩
    revert slash
    decide
  obtain ⟨front, start, eq⟩ := Text.exists_split_append before unslashed
  refine ⟨front, start ++ ending, whole ▸ eq, ?_⟩
  rw [List.map_append, ← lowered]
  exact List.suffix_append _ _

/-- A name that ends like a stylesheet is neither empty nor made of dots. -/
theorem isPlain_of_suffix {name : List Char} (h : ".css".toList <:+ name.map Char.toLower) :
    Path.isPlain name = true := by
  have long := h.length_le
  have ne : ∀ segment : List Char, segment.length ≤ 2 → name ≠ segment := by
    rintro segment short rfl
    rw [List.length_map] at long
    exact absurd (long.trans short) (by decide)
  simp [Path.isPlain, ne]

/-- The path of a local stylesheet ends in its name. -/
theorem namesStylesheet_resolve (h : isLocalStylesheet href = true) (document : Path)
    (root : Option Path) : NamesStylesheet (resolve href document root) := by
  obtain ⟨front, name, last, ending⟩ := exists_last_segment h
  have unmarked : ∀ c ∈ name, ¬IsMark c := by
    intro c hc
    have mem : name ∈ Text.split (· == '/') (file href) := by
      rw [last]
      exact List.mem_append_right front List.mem_cons_self
    exact not_isMark_of_mem_withoutQuery (Text.mem_of_mem_split mem hc)
  have segments : Text.split (· == '/') (base (file href) document root ++ '/' :: file href) =
      (Text.split (· == '/') (base (file href) document root) ++ front) ++ [name] := by
    rw [Text.split_append _ (by rfl), last, List.append_assoc]
  refine ⟨name, ?_, ending, fun hc => unmarked _ hc (.inl rfl), fun hc => unmarked _ hc (.inr rfl)⟩
  rw [resolve, String.toList_ofList]
  exact Path.getLast?_split_normalizeChars (isPlain_of_suffix ending) segments

end Link

namespace Html.Document

open Link

/-- To trim a target does not change where it leads. -/
theorem dependenciesOf_eq (targets : List (List Char)) (document : Path) (root : Option Path) :
    dependenciesOf targets document root =
      (targets.filter isLocalStylesheet).map fun href => resolve href document root := by
  rw [dependenciesOf, localStylesheets, List.map_map]
  exact List.map_congr_left fun href _ => resolve_congr (file_trim href) document root

/-- The dependencies of a document, whatever the targets of its links, its path and the root of the
project.

* There is one for each target that counts as a local stylesheet's, in the order of the targets and
  as often as they occur.
* Each is a path in normal form, and its last segment is the name of a stylesheet without query and
  fragment.
* A target with the scheme of the web or with a host of its own, in whatever case, adds none.
* A query or fragment behind a target that does not end with a blank changes neither whether it
  counts nor where it leads. -/
theorem dependencies_have_shape (targets : List (List Char)) (document : Path)
    (root : Option Path) :
    dependenciesOf targets document root =
        (targets.filter isLocalStylesheet).map (fun href => resolve href document root) ∧
      (∀ p ∈ dependenciesOf targets document root, p.normalize = p ∧ NamesStylesheet p) ∧
      (∀ before href after, LeadsOutside href →
        dependenciesOf (before ++ href :: after) document root =
          dependenciesOf (before ++ after) document root) ∧
      ∀ href mark rest, IsMark mark → (∀ c ∈ href.getLast?, Text.isBlank c = false) →
        isLocalStylesheet (href ++ mark :: rest) = isLocalStylesheet href ∧
          resolve (href ++ mark :: rest) document root = resolve href document root := by
  refine ⟨dependenciesOf_eq targets document root, fun p mem => ?_,
    fun before href after outside => ?_, fun href mark rest h ends => ?_⟩
  · rw [dependenciesOf_eq, List.mem_map] at mem
    obtain ⟨href, mem, rfl⟩ := mem
    exact ⟨Path.normalize_eq_self_iff.mpr (Path.isNormal_resolve href document root),
      namesStylesheet_resolve (List.of_mem_filter mem) document root⟩
  · simp [dependenciesOf_eq, isLocalStylesheet_of_leadsOutside outside]
  · have same := file_append_mark ends h rest
    exact ⟨isLocalStylesheet_congr same, resolve_congr same document root⟩

/-- A document with four links: one climbs, one leads outside, and one comes twice. -/
theorem four_links_have_shape :
    let climbing := " ../css/Site.CSS".toList
    let outside := "\tHTTPS://cdn/a.css".toList
    let rooted := "/x.css#top".toList
    let document : Path := ⟨"/proj/pages/about.html"⟩
    let root : Option Path := some ⟨"/proj/"⟩
    dependenciesOf [climbing, outside, rooted, rooted] document root =
        [⟨"/proj/css/Site.CSS"⟩, ⟨"/proj/x.css"⟩, ⟨"/proj/x.css"⟩] ∧
      (Path.mk "/proj/css/Site.CSS").normalize = ⟨"/proj/css/Site.CSS"⟩ ∧
      NamesStylesheet ⟨"/proj/css/Site.CSS"⟩ ∧
      LeadsOutside outside ∧
      dependenciesOf ([climbing] ++ outside :: [rooted, rooted]) document root =
        dependenciesOf ([climbing] ++ [rooted, rooted]) document root ∧
      isLocalStylesheet (climbing ++ '?' :: "v=2 /y".toList) = isLocalStylesheet climbing ∧
      resolve (climbing ++ '?' :: "v=2 /y".toList) document root =
        resolve climbing document root := by
  intro climbing outside rooted document root
  have listed : dependenciesOf [climbing, outside, rooted, rooted] document root =
      [⟨"/proj/css/Site.CSS"⟩, ⟨"/proj/x.css"⟩, ⟨"/proj/x.css"⟩] := by decide +kernel
  have away : LeadsOutside outside := ⟨"https://", by decide, by decide +kernel⟩
  obtain ⟨-, shape, apart, marked⟩ :=
    dependencies_have_shape [climbing, outside, rooted, rooted] document root
  obtain ⟨normal, named⟩ := shape ⟨"/proj/css/Site.CSS"⟩ (by simp [listed])
  -- the address ends in no blank, so all of it stays in front of the mark
  have ends : ∀ c ∈ climbing.getLast?, Text.isBlank c = false := by
    intro c last
    obtain rfl : 'S' = c := Option.some.inj last
    rfl
  exact ⟨listed, normal, named, away, apart _ _ _ away, marked climbing '?' _ (.inl rfl) ends⟩

end Html.Document

end SelectorCatalog
