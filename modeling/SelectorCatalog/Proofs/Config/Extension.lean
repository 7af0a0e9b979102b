import Mathlib.Data.List.TakeDrop
import Mathlib.Data.List.TakeWhile
import SelectorCatalog.Config
import SelectorCatalog.Proofs.Path.Parts
import SelectorCatalog.Proofs.Text.Ascii

/-!
# Extensions that can match

An extension that is set has to be the extension of a file to match, up to the case of ASCII
letters, and the extension of a file is what follows the last dot of its name. So it has neither a
slash nor a dot in it. Settings are refused when an extension is empty or starts with a dot; a dot
or a slash further on (`IsSimple`) is let through, and such an extension matches no file at all.

* `extensionOf?_eq_some_iff`: what the extension of a name is.
* `isStylesheet_iff`: which files are stylesheets.
* `accepted_extensions_match`: what accepted settings match.
-/

namespace SelectorCatalog

namespace Path

variable {name ext : List Char} {p : Path}

/-- The extension of a name is what follows its last dot, if something stands before that dot. -/
theorem extensionOf?_eq_some_iff :
    extensionOf? name = some ext ↔ ∃ stem, stem ≠ [] ∧ '.' ∉ ext ∧ name = stem ++ '.' :: ext := by
  constructor
  · intro h
    -- the name read backwards: the extension up to the first dot, then the dot and the stem
    have cut := List.takeWhile_append_dropWhile (p := (· != '.')) (l := name.reverse)
    rw [extensionOf?, List.span_eq_takeWhile_dropWhile] at h
    cases rest : name.reverse.dropWhile (· != '.') with
    | nil => simp [rest] at h
    | cons dot back =>
        cases back with
        | nil => simp [rest] at h
        | cons c back =>
            have isDot : dot = '.' := by
              have := List.head?_dropWhile_not (· != '.') name.reverse
              rw [rest] at this
              simpa using this
            obtain rfl : (name.reverse.takeWhile (· != '.')).reverse = ext := by
              simpa [rest] using h
            refine ⟨(c :: back).reverse, by simp, ?_, ?_⟩
            · intro mem
              have := List.mem_takeWhile_imp (List.mem_reverse.mp mem)
              simp at this
            · rw [rest, isDot] at cut
              have turned := congrArg List.reverse cut
              rw [List.reverse_reverse] at turned
              exact turned.symm.trans (by simp)
  -- backwards, everything up to the dot is the extension, which has no dot
  · rintro ⟨stem, ne, none, rfl⟩
    have front : ∀ c ∈ ext.reverse, (c != '.') = true :=
      Text.bne_of_not_mem (by simpa using none)
    have reads : (stem ++ '.' :: ext).reverse = ext.reverse ++ '.' :: stem.reverse := by simp
    have taken : (ext.reverse ++ '.' :: stem.reverse).takeWhile (· != '.') = ext.reverse := by
      rw [List.takeWhile_append_of_pos front]
      simp
    have left : (ext.reverse ++ '.' :: stem.reverse).dropWhile (· != '.') =
        '.' :: stem.reverse := by
      rw [List.dropWhile_append_of_pos front]
      simp
    rw [extensionOf?, reads, List.span_eq_takeWhile_dropWhile, taken, left]
    obtain ⟨c, back, eq⟩ := List.exists_cons_of_ne_nil (List.reverse_ne_nil_iff.mpr ne)
    simp [eq]

/-- There is no slash in a file name. -/
theorem slash_not_mem_fileName {name : String} (h : p.fileName? = some name) :
    '/' ∉ name.toList := by
  rw [fileName?] at h
  split at h
  · next text last =>
      cases h
      exact (areWritten_parts p _ (List.mem_of_getLast? last) nofun).2
  · cases h

/-- A text without slashes that is not made of dots is its own file name. -/
theorem fileName?_of_plain {s : String} (slash : '/' ∉ s.toList) (plain : isPlain s.toList = true) :
    fileName? ⟨s⟩ = some s := by
  have whole : Text.split (· == '/') s.toList = [s.toList] :=
    Text.split_eq_singleton (Text.beq_of_not_mem slash)
  have part : Path.parts ⟨s⟩ = [.name s] := by
    rw [parts, whole]
    simp [firstPart_of_isPlain plain]
  rw [fileName?, part]
  rfl

end Path

namespace Config

/-- Whether an extension has no slash, and no dot behind its first character. -/
def IsSimple (ext : String) : Prop :=
  '/' ∉ ext.toList ∧ '.' ∉ ext.toList.tail

instance (ext : String) : Decidable (IsSimple ext) :=
  inferInstanceAs (Decidable (_ ∧ _))

variable {config : Config} {ext spelling : String} {path : Path}

/-- What is no letter stands in all spellings of a text. -/
theorem mem_iff_of_sameAscii {s t : List Char} (same : s.map Char.toLower = t.map Char.toLower)
    {c : Char} (lower : ¬(97 ≤ c.toNat ∧ c.toNat ≤ 122)) (upper : ¬(65 ≤ c.toNat ∧ c.toNat ≤ 90)) :
    c ∈ s ↔ c ∈ t := by
  have through : ∀ u : List Char, c ∈ u.map Char.toLower ↔ c ∈ u := by
    intro u
    rw [List.mem_map]
    constructor
    · rintro ⟨d, mem, eq⟩
      rwa [← (Text.toLower_eq_iff lower upper).mp eq]
    · intro mem
      exact ⟨c, mem, (Text.toLower_eq_iff lower upper).mpr rfl⟩
  rw [← through s, same, through t]

/-- All spellings of an extension have the same dots and slashes. -/
theorem marks_of_sameAscii (same : sameAscii ext spelling = true) :
    ('/' ∈ ext.toList ↔ '/' ∈ spelling.toList) ∧ ('.' ∈ ext.toList ↔ '.' ∈ spelling.toList) := by
  have same : ext.toList.map Char.toLower = spelling.toList.map Char.toLower := beq_iff_eq.mp same
  exact ⟨mem_iff_of_sameAscii same (by decide) (by decide),
    mem_iff_of_sameAscii same (by decide) (by decide)⟩

/-- Accepted extensions have a first character, which is no dot. -/
theorem head_of_accepted (accepted : config.fault? = none)
    (mem : ext ∈ config.stylesheetExtensions) :
    ∃ c rest, ext.toList = c :: rest ∧ c ≠ '.' := by
  have good : isBadExtension ext = false := by
    -- the faults are looked for in order; that of the extensions is the fourth
    rw [fault?] at accepted
    split at accepted
    · cases accepted
    · split at accepted
      · cases accepted
      · split at accepted
        · cases accepted
        · split at accepted
          · cases accepted
          · next none =>
              simpa using List.find?_eq_none.mp none ext mem
  rw [isBadExtension, Bool.or_eq_false_iff] at good
  obtain ⟨some, first⟩ := good
  cases chars : ext.toList with
  | nil =>
      have : ext = "" := String.toList_inj.mp chars
      subst this
      cases some
  | cons c rest =>
      refine ⟨c, rest, rfl, ?_⟩
      rintro rfl
      rw [chars] at first
      cases first

theorem dot_not_mem_of_accepted (accepted : config.fault? = none)
    (mem : ext ∈ config.stylesheetExtensions) (simple : IsSimple ext) : '.' ∉ ext.toList := by
  obtain ⟨c, rest, eq, ne⟩ := head_of_accepted accepted mem
  have later : '.' ∉ rest := by
    have := simple.2
    rwa [eq] at this
  rw [eq, List.mem_cons, not_or]
  exact ⟨Ne.symm ne, later⟩

/-- A file is a stylesheet when its name ends in one of the extensions, behind a dot that something
stands before. That extension is simple, whatever the settings are. -/
theorem isStylesheet_iff : config.isStylesheet path = true ↔
    ∃ ext ∈ config.stylesheetExtensions, ('/' ∉ ext.toList ∧ '.' ∉ ext.toList) ∧
      ∃ stem spelling : String, stem ≠ "" ∧ sameAscii ext spelling = true ∧
        path.fileName? = some (stem ++ "." ++ spelling) := by
  rw [isStylesheet, Option.any_eq_true]
  constructor
  · rintro ⟨spelling, found, known⟩
    obtain ⟨ext, mem, same⟩ := List.any_eq_true.mp known
    obtain ⟨name, file, found⟩ := Option.bind_eq_some_iff.mp found
    obtain ⟨chars, of, eq⟩ := Option.bind_eq_some_iff.mp found
    obtain rfl : String.ofList chars = spelling := Option.some.inj eq
    obtain ⟨stem, ne, dot, whole⟩ := Path.extensionOf?_eq_some_iff.mp of
    -- an extension is part of a file name, which has no slash
    have slash : '/' ∉ chars := by
      intro mem
      refine Path.slash_not_mem_fileName file ?_
      rw [whole]
      exact List.mem_append_right _ (List.mem_cons_of_mem _ mem)
    obtain ⟨slashes, dots⟩ := marks_of_sameAscii same
    rw [String.toList_ofList] at slashes dots
    refine ⟨ext, mem, ⟨fun h => slash (slashes.mp h), fun h => dot (dots.mp h)⟩,
      String.ofList stem, String.ofList chars, ?_, same, ?_⟩
    · intro empty
      exact ne (by simpa using congrArg String.toList empty)
    · rw [file]
      refine congrArg some (String.toList_inj.mp ?_)
      simp [whole]
  · rintro ⟨ext, mem, ⟨-, dot⟩, stem, spelling, ne, same, file⟩
    refine ⟨spelling, ?_, List.any_eq_true.mpr ⟨ext, mem, same⟩⟩
    have of : Path.extensionOf? (stem ++ "." ++ spelling).toList = some spelling.toList := by
      refine Path.extensionOf?_eq_some_iff.mpr ⟨stem.toList, ?_, ?_, by simp⟩
      · intro empty
        exact ne (String.toList_inj.mp empty)
      · exact fun h => dot ((marks_of_sameAscii same).2.mpr h)
    rw [Path.extension?, file]
    show (Path.extensionOf? (stem ++ "." ++ spelling).toList).bind _ = _
    rw [of]
    simp

/-- A name that ends in a simple extension is its own file name: it is no dot name. -/
theorem isPlain_of_accepted (accepted : config.fault? = none)
    (mem : ext ∈ config.stylesheetExtensions) (simple : IsSimple ext)
    (same : sameAscii ext spelling = true) (stem : List Char) :
    Path.isPlain (stem ++ '.' :: spelling.toList) = true := by
  obtain ⟨-, dots⟩ := marks_of_sameAscii same
  obtain ⟨first, rest, eq, -⟩ := head_of_accepted accepted mem
  have ne : spelling.toList ≠ [] := by
    intro none
    have lowered : ext.toList.map Char.toLower = spelling.toList.map Char.toLower :=
      beq_iff_eq.mp same
    rw [eq, none] at lowered
    cases lowered
  obtain ⟨c, more, chars⟩ := List.exists_cons_of_ne_nil ne
  have letter : c ≠ '.' := by
    rintro rfl
    refine dot_not_mem_of_accepted accepted mem simple (dots.mpr ?_)
    rw [chars]
    exact List.mem_cons_self
  -- dot names consist of dots
  have among : c ∈ stem ++ '.' :: spelling.toList := by simp [chars]
  rw [Path.isPlain, Bool.not_eq_true', Bool.or_eq_false_iff, Bool.or_eq_false_iff]
  refine ⟨⟨?_, ?_⟩, ?_⟩ <;>
  · rw [beq_eq_false_iff_ne]
    intro dotted
    rw [dotted] at among
    simp_all

/-- What accepted settings match: an extension without slashes, and without dots behind its first
character, matches every file whose name ends in it, in any case of ASCII letters. No other
extension matches anything, so that accepted settings find no stylesheet at all when they have no
extension of this kind. -/
theorem accepted_extensions_match (accepted : config.fault? = none) :
    (∀ ext ∈ config.stylesheetExtensions, IsSimple ext → ∀ stem spelling : String, stem ≠ "" →
      '/' ∉ stem.toList → sameAscii ext spelling = true →
        config.isStylesheet ⟨stem ++ "." ++ spelling⟩ = true) ∧
    (∀ path, config.isStylesheet path = true ↔
      ∃ ext ∈ config.stylesheetExtensions, IsSimple ext ∧ ∃ stem spelling : String, stem ≠ "" ∧
        sameAscii ext spelling = true ∧ path.fileName? = some (stem ++ "." ++ spelling)) ∧
    ((∃ path, config.isStylesheet path = true) ↔
      ∃ ext ∈ config.stylesheetExtensions, IsSimple ext) := by
  have matched : ∀ ext ∈ config.stylesheetExtensions, IsSimple ext → ∀ stem spelling : String,
      stem ≠ "" → '/' ∉ stem.toList → sameAscii ext spelling = true →
        config.isStylesheet ⟨stem ++ "." ++ spelling⟩ = true := by
    intro ext mem simple stem spelling ne slash same
    -- an accepted extension that is simple has no dot at all
    have dot := dot_not_mem_of_accepted accepted mem simple
    refine isStylesheet_iff.mpr ⟨ext, mem, ⟨simple.1, dot⟩, stem, spelling, ne, same, ?_⟩
    obtain ⟨slashes, -⟩ := marks_of_sameAscii same
    have chars : (stem ++ "." ++ spelling).toList = stem.toList ++ '.' :: spelling.toList := by simp
    refine Path.fileName?_of_plain ?_ ?_
    · rw [chars, List.mem_append, List.mem_cons, not_or, not_or]
      exact ⟨slash, by decide, fun h => simple.1 (slashes.mpr h)⟩
    · rw [chars]
      exact isPlain_of_accepted accepted mem simple same stem.toList
  have found : ∀ path, config.isStylesheet path = true ↔
      ∃ ext ∈ config.stylesheetExtensions, IsSimple ext ∧ ∃ stem spelling : String, stem ≠ "" ∧
        sameAscii ext spelling = true ∧ path.fileName? = some (stem ++ "." ++ spelling) := by
    intro path
    rw [isStylesheet_iff]
    constructor
    · rintro ⟨ext, mem, ⟨slash, dot⟩, file⟩
      exact ⟨ext, mem, ⟨slash, fun h => dot (List.mem_of_mem_tail h)⟩, file⟩
    · rintro ⟨ext, mem, simple, file⟩
      exact ⟨ext, mem, ⟨simple.1, dot_not_mem_of_accepted accepted mem simple⟩, file⟩
  refine ⟨matched, found, ?_⟩
  constructor
  · rintro ⟨path, hit⟩
    obtain ⟨ext, mem, simple, -⟩ := (found path).mp hit
    exact ⟨ext, mem, simple⟩
  · rintro ⟨ext, mem, simple⟩
    -- a simple extension is met by any stem, say this one
    refine ⟨_, matched ext mem simple "a" ext (by decide) (by decide) ?_⟩
    exact beq_iff_eq.mpr rfl

/-- Of these extensions only the first can match. -/
def twoExtensions : Config :=
  { stylesheetExtensions := ["scss", "min.css"] }

/-- The settings are accepted, and match in capitals what they match, while there is no file that
the second extension would find. -/
theorem twoExtensions_match :
    twoExtensions.fault? = none ∧ twoExtensions.isStylesheet ⟨"a" ++ "." ++ "SCSS"⟩ = true ∧
      twoExtensions.isStylesheet ⟨"a.min.css"⟩ = false ∧
      ∃ path, twoExtensions.isStylesheet path = true := by
  have accepted : twoExtensions.fault? = none := by decide
  obtain ⟨matched, -, some⟩ := accepted_extensions_match accepted
  refine ⟨accepted, ?_, ?_, ?_⟩
  · exact matched "scss" (by decide) (by decide) "a" "SCSS" (by decide) (by decide) (by decide)
  · decide
  · exact some.mpr ⟨"scss", by decide, by decide⟩

/-- An extension with a dot in it is accepted, and does not match the files whose names end in
it. -/
theorem innerDot_matches_nothing :
    ¬∀ (config : Config) (ext stem spelling : String), config.fault? = none →
      ext ∈ config.stylesheetExtensions → stem ≠ "" → '/' ∉ stem.toList →
      sameAscii ext spelling = true → config.isStylesheet ⟨stem ++ "." ++ spelling⟩ = true := by
  intro law
  have missed : ({ stylesheetExtensions := ["min.css"] } : Config).isStylesheet
      ⟨"a" ++ "." ++ "min.css"⟩ = false := by decide
  have matched := law { stylesheetExtensions := ["min.css"] } "min.css" "a" "min.css" (by decide)
    (by decide) (by decide) (by decide) (by decide)
  rw [missed] at matched
  cases matched

end Config

end SelectorCatalog
