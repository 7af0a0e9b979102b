import SelectorCatalog.Proofs.Selector.Segments
import SelectorCatalog.Proofs.Text.Ascii

/-!
# Selectors as they are written

A written compound is a tag, an id and classes, not all of them missing, each a word of characters
that mean nothing else in a selector. A selector list is a chain of written compounds with blanks
and commas between them. Scanning the text of a selector list gives back its compounds, in order
(`scan_text`).
-/

namespace SelectorCatalog

/-- A text of blanks. -/
structure Blank where
  chars : List Char
  all_blank : chars.all Text.isBlank = true

theorem Blank.blank (b : Blank) : ∀ c ∈ b.chars, Text.isBlank c = true :=
  List.all_eq_true.mp b.all_blank

theorem Blank.not_mem (b : Blank) {d : Char} (h : Text.isBlank d = false) : d ∉ b.chars :=
  fun mem => by simp [b.blank d mem] at h

namespace Compound

/-- Whether a character stands between compounds. -/
def isSeparator (c : Char) : Bool :=
  c == ',' || Text.isBlank c

/-- The characters that mean something in a selector. -/
def special : List Char :=
  ['.', '#', ':', '[', ']', '>', '+', '~']

/-- Whether a character can only be part of a word. -/
def isPlain (c : Char) : Bool :=
  !isSeparator c && !special.contains c

/-- A text of plain characters, at least one. -/
structure Word where
  chars : List Char
  ne_nil : chars ≠ []
  all_plain : chars.all isPlain = true

/-- A text of blanks and commas. -/
structure Gap where
  chars : List Char
  all_separate : chars.all isSeparator = true

/-- A compound with words for its parts. -/
structure Written where
  tag : Option Word
  id : Option Word
  classes : List Word
  ne_nil : tag.isSome ∨ id.isSome ∨ classes ≠ []

/-- Compounds one after the other, with something between any two of them. -/
inductive Chain where
  | last (c : Written) (trail : Gap)
  | next (c : Written) (gap : Gap) (apart : gap.chars ≠ []) (rest : Chain)

/-- A selector list. -/
structure Selectors where
  lead : Gap
  chain : Chain

namespace Word

/-- A word as text. -/
def string (w : Word) : String :=
  String.ofList w.chars

theorem plain (w : Word) : ∀ c ∈ w.chars, isPlain c = true :=
  List.all_eq_true.mp w.all_plain

end Word

theorem Gap.separates (g : Gap) : ∀ c ∈ g.chars, isSeparator c = true :=
  List.all_eq_true.mp g.all_separate

namespace Written

/-- What stands before the classes. -/
def headText (c : Written) : List Char :=
  (c.tag.map Word.chars).getD [] ++ (c.id.map fun w => '#' :: w.chars).getD []

/-- A compound as it is written. -/
def text (c : Written) : List Char :=
  c.headText ++ c.classes.flatMap fun w => '.' :: w.chars

/-- All words of a compound. -/
def words (c : Written) : List Word :=
  c.tag.toList ++ c.id.toList ++ c.classes

/-- The tag as written; empty when there is none. -/
def tagText (c : Written) : String :=
  (c.tag.map Word.string).getD ""

/-- The compound that is written. -/
def compound (c : Written) : Compound :=
  ⟨c.tagText, c.id.map Word.string, c.classes.map Word.string⟩

end Written

namespace Chain

/-- A chain as it is written. -/
def text : Chain → List Char
  | last c trail => c.text ++ trail.chars
  | next c gap _ rest => c.text ++ (gap.chars ++ rest.text)

/-- The compounds of a chain. -/
def compounds : Chain → List Written
  | last c _ => [c]
  | next c _ _ rest => c :: rest.compounds

end Chain

namespace Selectors

/-- Selectors as they are written. -/
def text (s : Selectors) : List Char :=
  s.lead.chars ++ s.chain.text

/-- The compounds of a selector list, in order. -/
def compounds (s : Selectors) : List Written :=
  s.chain.compounds

end Selectors

/-! ## One compound -/

theorem ne_of_isPlain {c d : Char} (h : isPlain c = true)
    (hd : d ∈ special) : c ≠ d := by
  rintro rfl
  simp only [isPlain, Bool.and_eq_true, Bool.not_eq_true', List.contains_eq_mem,
    decide_eq_false_iff_not] at h
  exact h.2 hd

/-- No plain character is a separator. -/
theorem not_isSeparator_of_isPlain {c : Char} (h : isPlain c = true) : isSeparator c = false := by
  simp only [isPlain, Bool.and_eq_true, Bool.not_eq_true'] at h
  exact h.1

/-- A word has none of the characters that mean something else. -/
theorem Word.not_mem (w : Word) {d : Char} (hd : d ∈ special) : d ∉ w.chars :=
  fun mem => ne_of_isPlain (w.plain d mem) hd rfl

/-- The parts of a compound with these words. -/
def Segments.ofWords (tag id : Option Word) (classes : List Word) : Segments where
  tag := (tag.map Word.chars).getD []
  ids := (id.map Word.chars).toList
  classes := classes.map Word.chars
  unsigned := by
    have clean : ∀ w : Word, '#' ∉ w.chars ∧ '.' ∉ w.chars := fun w =>
      ⟨w.not_mem (by decide), w.not_mem (by decide)⟩
    cases tag <;> cases id <;> simp [clean]
  undotted := by
    have clean : ∀ w : Word, '.' ∉ w.chars := fun w => w.not_mem (by decide)
    simp [clean]
  written := by
    have ne : ∀ w : Word, w.chars ≠ [] := fun w => w.ne_nil
    cases id <;> simp [ne]

/-- The head is made of the tag and the id. -/
theorem Segments.head_ofWords (tag id : Option Word) (classes : List Word) :
    (ofWords tag id classes).head =
      (tag.map Word.chars).getD [] ++ (id.map fun w => '#' :: w.chars).getD [] := by
  cases id <;> simp [ofWords, head]

namespace Written

variable (c : Written)

/-- A compound has the characters of its words and its signs. -/
theorem mem_text {d : Char} (h : d ∈ c.text) :
    (∃ w ∈ c.words, d ∈ w.chars) ∨ d = '#' ∨ d = '.' := by
  simp only [text, headText, List.mem_append, List.mem_flatMap, List.mem_cons] at h
  rcases h with (h | h) | ⟨w, hw, rfl | h⟩
  · cases htag : c.tag with
    | none => simp [htag] at h
    | some w => exact .inl ⟨w, by simp [words, htag], by simpa [htag] using h⟩
  · cases hid : c.id with
    | none => simp [hid] at h
    | some w =>
        rw [hid] at h
        rcases List.mem_cons.mp h with rfl | h
        · exact .inr (.inl rfl)
        · exact .inl ⟨w, by simp [words, hid], h⟩
  · exact .inr (.inr rfl)
  · exact .inl ⟨w, by simp [words, hw], h⟩

theorem not_isSeparator {d : Char} (h : d ∈ c.text) : isSeparator d = false := by
  rcases c.mem_text h with ⟨w, -, mem⟩ | rfl | rfl
  · exact not_isSeparator_of_isPlain (w.plain d mem)
  · decide
  · decide

/-- Nothing in a written compound is stripped. -/
theorem not_mem_text {d : Char} (h : d ∈ [':', '[', '>', '+', '~']) : d ∉ c.text := by
  intro mem
  have meant : [':', '[', '>', '+', '~'] ⊆ special := by simp [special]
  rcases c.mem_text mem with ⟨w, -, mem⟩ | rfl | rfl
  · exact w.not_mem (meant h) mem
  · exact absurd h (by decide)
  · exact absurd h (by decide)

theorem filter_text : (c.text.filter fun d => !isCombinator d) = c.text :=
  filter_eq_self_of_not_mem fun _ hd => c.not_mem_text (.tail _ (.tail _ hd))

/-- There is nothing to strip from a written compound. -/
theorem strip_text : strip c.text = c.text :=
  strip_eq_self fun _ hd => c.not_mem_text hd

/-- The head has no dots. -/
theorem dot_not_mem_headText : '.' ∉ c.headText := by
  have dot : ∀ w : Word, '.' ∉ w.chars := fun w => w.not_mem (by decide)
  cases htag : c.tag <;> cases hid : c.id <;> simp [headText, htag, hid, dot]

/-- The parts of a written compound. -/
def segments : Segments :=
  .ofWords c.tag c.id c.classes

/-- The segments of a compound are read off its signs. -/
theorem text_segments : c.segments.text = c.text := by
  rw [segments, Segments.text, Segments.head_ofWords, text, headText, Segments.ofWords,
    List.flatMap_map]

/-- They make up the compound. -/
theorem compound_segments : c.segments.compound = c.compound := by
  cases htag : c.tag <;> cases hid : c.id <;>
    simp [segments, Segments.ofWords, Segments.compound, compound, tagText, Word.string,
      Function.comp_def, htag, hid]

/-- A compound is read off its parts between the dots. -/
theorem ofParts_text : ofParts (Text.split (· == '.') c.text) = c.compound := by
  rw [← text_segments, Segments.ofParts_text, compound_segments]

/-- A written compound is read as it was meant. -/
theorem ofChars_text : ofChars c.text = c.compound := by
  rw [ofChars, strip_text, ofParts_text]

/-- A written compound is not empty. -/
theorem not_isEmpty_compound : c.compound.isEmpty = false := by
  have ne : ∀ w : Word, w.string.isEmpty = false := fun w => by
    simp [Word.string, w.ne_nil]
  obtain h | h | h := c.ne_nil
  · obtain ⟨w, hw⟩ := Option.isSome_iff_exists.mp h
    simp [compound, isEmpty, tagText, hw, ne]
  · obtain ⟨w, hw⟩ := Option.isSome_iff_exists.mp h
    simp [compound, isEmpty, hw]
  · simp [compound, isEmpty, h]

theorem text_ne_nil : c.text ≠ [] := by
  obtain h | h | h := c.ne_nil
  · obtain ⟨w, hw⟩ := Option.isSome_iff_exists.mp h
    simp [text, headText, hw, w.ne_nil]
  · obtain ⟨w, hw⟩ := Option.isSome_iff_exists.mp h
    simp [text, headText, hw]
  · obtain ⟨w, rest, hw⟩ := List.exists_cons_of_ne_nil h
    simp [text, hw]

end Written

/-! ## Selector lists -/

/-- What stands between blanks and commas. -/
def cut (s : List Char) : List (List Char) :=
  (Text.split isSeparator s).filter isWritten

/-- A text is cut into words, and what is not empty of them is read. -/
theorem scan_ofList (s : List Char) :
    scan (String.ofList s) = ((cut s).map ofChars).filter fun c => !c.isEmpty := by
  have words : (Text.split (· == ',') s).flatMap Text.words = cut s := by
    rw [cut, show isSeparator = fun c => c == ',' || Text.isBlank c from rfl, ← Text.flatMap_split,
      List.filter_flatMap]
    rfl
  rw [scan, String.toList_ofList, words]

/-- A selector list is cut at each blank and each comma. -/
theorem cut_append (u : List Char) {d : Char} (hd : isSeparator d = true) (v : List Char) :
    cut (u ++ d :: v) = cut u ++ cut v := by
  rw [cut, Text.split_append u hd, List.filter_append, cut, cut]

/-- A gap in front is no word. -/
theorem cut_gap (g : Gap) (s : List Char) : cut (g.chars ++ s) = cut s := by
  obtain ⟨chars, h⟩ := g
  induction chars with
  | nil => rfl
  | cons c rest ih =>
      rw [List.all_cons, Bool.and_eq_true] at h
      obtain ⟨hc, h⟩ := h
      exact (cut_append [] hc (rest ++ s)).trans (ih h)

/-- What stands on the two sides of a gap is cut by itself. -/
theorem cut_append_gap (u : List Char) (g : Gap) {s : List Char} (h : g.chars ≠ [] ∨ s = []) :
    cut (u ++ (g.chars ++ s)) = cut u ++ cut s := by
  rw [← cut_gap g s]
  cases hg : g.chars with
  | nil =>
      obtain rfl : s = [] := h.resolve_left fun ne => ne hg
      simp [cut, isWritten]
  | cons d rest =>
      have hd : isSeparator d = true := g.separates d (by simp [hg])
      rw [List.cons_append, cut_append u hd, ← List.nil_append (d :: _), cut_append [] hd]
      rfl

/-- A text without blanks and commas is left whole, unless it is empty. -/
theorem cut_of_not_isSeparator {w : List Char} (h : ∀ d ∈ w, isSeparator d = false) :
    cut w = [w].filter isWritten := by
  rw [cut, Text.split_eq_singleton h]

@[simp] theorem scan_empty : scan "" = [] := rfl

/-- What stands on the two sides of a blank or a comma is scanned by itself. -/
theorem scan_append (u : List Char) {d : Char} (hd : isSeparator d = true) (v : List Char) :
    scan (String.ofList (u ++ d :: v)) = scan (String.ofList u) ++ scan (String.ofList v) := by
  simp only [scan_ofList, cut_append u hd, List.map_append, List.filter_append]

theorem scan_gap (g : Gap) (s : List Char) :
    scan (String.ofList (g.chars ++ s)) = scan (String.ofList s) := by
  rw [scan_ofList, scan_ofList, cut_gap]

/-- What a gap separates is read apart. -/
theorem scan_append_gap (u : List Char) (g : Gap) {v : List Char} (h : g.chars ≠ [] ∨ v = []) :
    scan (String.ofList (u ++ (g.chars ++ v))) =
      scan (String.ofList u) ++ scan (String.ofList v) := by
  simp only [scan_ofList, cut_append_gap u g h, List.map_append, List.filter_append]

/-- A text without blanks and commas is one compound, or names nothing. -/
theorem scan_of_not_isSeparator {w : List Char} (h : ∀ d ∈ w, isSeparator d = false) :
    scan (String.ofList w) = [ofChars w].filter fun c => !c.isEmpty := by
  rw [scan_ofList, cut_of_not_isSeparator h]
  cases w with
  | nil => rfl
  | cons d w => simp [isWritten]

/-- A combinator that stands alone names nothing. -/
theorem scan_combinator {d : Char} (h : isCombinator d = true) :
    scan (String.ofList [d]) = [] := by
  simp only [isCombinator, Bool.or_eq_true, beq_iff_eq] at h
  rcases h with (rfl | rfl) | rfl <;> decide

/-- A written compound is read as it was meant. -/
theorem Written.scan_text (c : Written) : scan (String.ofList c.text) = [c.compound] := by
  rw [scan_of_not_isSeparator fun d hd => c.not_isSeparator hd, c.ofChars_text]
  simp [c.not_isEmpty_compound]

theorem cut_text (c : Written) : cut c.text = [c.text] := by
  rw [cut_of_not_isSeparator fun d hd => c.not_isSeparator hd]
  simp [isWritten, c.text_ne_nil]

/-- A chain is cut into its compounds. -/
theorem Chain.cut_text (chain : Chain) : cut chain.text = chain.compounds.map Written.text := by
  induction chain with
  | last c trail =>
      have := cut_append_gap c.text trail (s := []) (.inr rfl)
      rw [List.append_nil, Compound.cut_text] at this
      exact this
  | next c gap apart rest ih =>
      rw [Chain.text, cut_append_gap c.text gap (.inl apart), Compound.cut_text, ih]
      rfl

/-- **Scanning undoes writing.** -/
theorem scan_text (s : Selectors) :
    scan (String.ofList s.text) = s.compounds.map Written.compound := by
  rw [scan_ofList, Selectors.text, cut_gap, Chain.cut_text, List.map_map,
    List.filter_eq_self.mpr]
  · exact List.map_congr_left fun c _ => c.ofChars_text
  · intro c hc
    obtain ⟨w, -, rfl⟩ := List.mem_map.mp hc
    simp [w.ofChars_text, w.not_isEmpty_compound]

/-- Selectors have separators and the characters of their compounds. -/
theorem Selectors.mem_text {s : Selectors} {d : Char} (h : d ∈ s.text) :
    isSeparator d = true ∨ ∃ c ∈ s.compounds, d ∈ c.text := by
  obtain ⟨lead, chain⟩ := s
  simp only [text, compounds, List.mem_append] at h ⊢
  rcases h with h | h
  · exact .inl (lead.separates d h)
  · induction chain with
    | last c trail =>
        rcases List.mem_append.mp h with h | h
        · exact .inr ⟨c, by simp [Chain.compounds], h⟩
        · exact .inl (trail.separates d h)
    | next c gap apart rest ih =>
        rcases List.mem_append.mp h with h | h
        · exact .inr ⟨c, by simp [Chain.compounds], h⟩
        · rcases List.mem_append.mp h with h | h
          · exact .inl (gap.separates d h)
          · exact (ih h).imp_right fun ⟨c', mem, hd⟩ => ⟨c', by simp [Chain.compounds, mem], hd⟩

/-! ## Lower case -/

/-- A plain character is so in lower case. -/
theorem isPlain_toLower {c : Char} (h : isPlain c = true) : isPlain c.toLower = true := by
  rcases Text.toLower_eq_self_or c with eq | ⟨lo, hi, eq⟩
  · rwa [eq]
  · -- a letter is plain
    generalize c.toLower = d at eq
    have letter : 97 ≤ d.toNat ∧ d.toNat ≤ 122 := by omega
    have plain : ∀ e ∈ ',' :: special, d ≠ e := by
      rintro e he rfl
      have all : (',' :: special).all (fun d => d.toNat < 97 || 122 < d.toNat) = true := by decide
      have := List.all_eq_true.mp all d he
      simp only [Bool.or_eq_true, decide_eq_true_eq] at this
      omega
    have blank : Text.isBlank d = false := by
      simp only [Text.isBlank, Bool.or_eq_false_iff, Bool.and_eq_false_iff, decide_eq_false_iff_not,
        beq_eq_false_iff_ne]
      omega
    have other : d ∉ special := fun mem => plain d (by simp [mem]) rfl
    simp [isPlain, isSeparator, blank, other, plain ',' (by simp)]

theorem toLower_of_isSeparator {c : Char} (h : isSeparator c = true) : c.toLower = c := by
  simp only [isSeparator, Bool.or_eq_true, beq_iff_eq] at h
  rcases h with rfl | blank
  · decide
  · exact (Text.lowerChar_of_isBlank blank).1

/-- A gap has no case. -/
theorem Gap.map_toLower (g : Gap) : g.chars.map Char.toLower = g.chars := by
  rw [List.map_congr_left fun c hc => toLower_of_isSeparator (g.separates c hc), List.map_id']

/-- A word in lower case. -/
def Word.lower (w : Word) : Word where
  chars := w.chars.map Char.toLower
  ne_nil := by simp [w.ne_nil]
  all_plain := by simpa using fun c hc => isPlain_toLower (w.plain c hc)

/-- A compound in lower case. -/
def Written.lower (c : Written) : Written where
  tag := c.tag.map Word.lower
  id := c.id.map Word.lower
  classes := c.classes.map Word.lower
  ne_nil := by simpa using c.ne_nil

/-- A chain in lower case. -/
def Chain.lower : Chain → Chain
  | last c trail => last c.lower trail
  | next c gap apart rest => next c.lower gap apart rest.lower

/-- A selector list in lower case. -/
def Selectors.lower (s : Selectors) : Selectors :=
  ⟨s.lead, s.chain.lower⟩

/-- The text in lower case is the text of the compound in lower case. -/
theorem Written.text_lower (c : Written) : c.lower.text = c.text.map Char.toLower := by
  have dot : Char.toLower '.' = '.' := by decide
  have hash : Char.toLower '#' = '#' := by decide
  cases htag : c.tag <;> cases hid : c.id <;>
    simp [text, headText, lower, Word.lower, htag, hid, dot, hash, List.map_flatMap,
      List.flatMap_map]

theorem Chain.text_lower (chain : Chain) : chain.lower.text = chain.text.map Char.toLower := by
  induction chain with
  | last c trail => simp [text, lower, Written.text_lower, Gap.map_toLower]
  | next c gap apart rest ih => simp [text, lower, Written.text_lower, Gap.map_toLower, ih]

theorem Chain.compounds_lower (chain : Chain) :
    chain.lower.compounds = chain.compounds.map Written.lower := by
  induction chain with
  | last c trail => rfl
  | next c gap apart rest ih => simp [compounds, lower, ih]

/-- So it is for selectors. -/
theorem Selectors.text_lower (s : Selectors) : s.lower.text = s.text.map Char.toLower := by
  rw [text, text, List.map_append, Gap.map_toLower, ← Chain.text_lower]
  rfl

/-- Scanning a selector list in lower case gives its compounds in lower case. -/
theorem scan_toLower (s : Selectors) :
    scan (String.ofList (s.text.map Char.toLower)) =
      s.compounds.map fun c => c.lower.compound := by
  rw [← s.text_lower, scan_text, Selectors.compounds, Selectors.lower, Chain.compounds_lower,
    List.map_map]
  rfl

end Compound

end SelectorCatalog
