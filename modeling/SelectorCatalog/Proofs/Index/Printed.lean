import SelectorCatalog.Proofs.Index.Names
import SelectorCatalog.Proofs.Selector.Authored

/-!
# The index of a printed stylesheet

A stylesheet is made of style rules and of media rules with style rules in them. It is printed, and
a parser answers its rules with their selectors in lower case. The index is built from these rules
and the printed text, and recovers from the text the case of every name
(`printed_sheet_is_indexed`): the parser's rules, the text of the selectors and the preludes of the
printed text all tell the same names, in different ways.
-/

namespace SelectorCatalog

open Compound Spelling

namespace Compound

/-- A word of ASCII letters, digits, dashes and underscores. -/
def Word.IsIdent (w : Word) : Prop :=
  ∀ c ∈ w.chars, c.toNat < 0x80 ∧ isNameChar c = true

instance (w : Word) : Decidable w.IsIdent :=
  decidable_of_iff (w.chars.all fun c => c.toNat < 0x80 && isNameChar c) (by simp [Word.IsIdent])

/-- A compound whose names are identifiers; its tag can be a star as well. -/
structure Written.IsIdent (c : Written) : Prop where
  tag : ∀ w ∈ c.tag, w.IsIdent ∨ w.chars = ['*']
  id : ∀ w ∈ c.id, w.IsIdent
  classes : ∀ w ∈ c.classes, w.IsIdent

instance (c : Written) : Decidable c.IsIdent :=
  decidable_of_iff ((∀ w ∈ c.tag, w.IsIdent ∨ w.chars = ['*']) ∧ (∀ w ∈ c.id, w.IsIdent) ∧
      ∀ w ∈ c.classes, w.IsIdent)
    ⟨fun ⟨tag, id, classes⟩ => ⟨tag, id, classes⟩, fun h => ⟨h.tag, h.id, h.classes⟩⟩

end Compound

/-- A style rule. -/
structure StyleRule where
  before : Blank
  selectors : Selectors
  after : Blank
  body : List Char
  unbraced : Unbraced body

/-- A media rule. -/
structure MediaRule where
  before : Blank
  query : List Char
  unbraced : Unbraced query
  nameless : '.' ∉ query ∧ '#' ∉ query
  rules : List StyleRule
  after : Blank

/-- A stylesheet. -/
structure Sheet where
  items : List (StyleRule ⊕ MediaRule)
  after : Blank

namespace StyleRule

/-- What stands before the opening brace. -/
def prelude (r : StyleRule) : List Char :=
  r.before.chars ++ r.selectors.text ++ r.after.chars

/-- The rule as it is printed. -/
def text (r : StyleRule) : List Char :=
  r.prelude ++ '{' :: (r.body ++ ['}'])

/-- The rule that the parser answers. -/
def parsed (r : StyleRule) : Rule :=
  .style (Text.lower (String.ofList r.selectors.text))

end StyleRule

namespace MediaRule

/-- What stands before the brace of the rule. -/
def prelude (r : MediaRule) : List Char :=
  r.before.chars ++ (['@', 'm', 'e', 'd', 'i', 'a', ' '] ++ r.query)

/-- The rule as it is printed, with the rules in it. -/
def text (r : MediaRule) : List Char :=
  r.prelude ++ '{' :: (r.rules.flatMap StyleRule.text ++ r.after.chars ++ ['}'])

/-- The rule that the parser answers. -/
def parsed (r : MediaRule) : Rule :=
  .media (r.rules.map StyleRule.parsed)

end MediaRule

namespace Sheet

/-- The printed stylesheet. -/
def text (sheet : Sheet) : List Char :=
  sheet.items.flatMap (Sum.elim StyleRule.text MediaRule.text) ++ sheet.after.chars

/-- The rules that the parser answers. -/
def parsed (sheet : Sheet) : List Rule :=
  sheet.items.map (Sum.elim StyleRule.parsed MediaRule.parsed)

/-- All style rules, those in media rules included, in order. -/
def styles (sheet : Sheet) : List StyleRule :=
  sheet.items.flatMap (Sum.elim (fun r => [r]) MediaRule.rules)

/-- All compounds, in order. -/
def compounds (sheet : Sheet) : List Written :=
  sheet.styles.flatMap fun r => r.selectors.compounds

/-- The classes as their author wrote them. -/
def classes (sheet : Sheet) : List String :=
  sheet.compounds.flatMap fun c => c.classes.map Word.string

/-- The ids as their author wrote them. -/
def ids (sheet : Sheet) : List String :=
  sheet.compounds.flatMap fun c => (c.id.map Word.string).toList

/-- The index that is built from the parser's rules and the printed text. -/
def index (sheet : Sheet) : SelectorIndex :=
  SelectorIndex.empty.addRules sheet.parsed (String.ofList sheet.text)

end Sheet

/-! ## Characters -/

theorem Blank.unbraced (b : Blank) : Unbraced b.chars :=
  ⟨b.not_mem (by decide), b.not_mem (by decide)⟩

/-- Space ends a name. -/
theorem Blank.ends (b : Blank) : Ends b.chars := fun c hc =>
  not_isNameChar_of_isSeparator (by simp [isSeparator, b.blank c (List.mem_of_mem_head? hc)])

theorem Compound.Written.IsIdent.words {c : Written} (h : c.IsIdent) :
    ∀ w ∈ c.words, w.IsIdent ∨ w.chars = ['*'] := by
  intro w hw
  simp only [Written.words, List.mem_append, Option.mem_toList] at hw
  rcases hw with (hw | hw) | hw
  · exact h.tag w hw
  · exact .inl (h.id w hw)
  · exact .inl (h.classes w hw)

theorem Compound.Word.IsIdent.isName {w : Word} (h : w.IsIdent) : w.IsName :=
  fun c hc => (h c hc).2

/-- An identifier has no other characters than those of ASCII. -/
theorem Compound.Word.IsIdent.ascii {w : Word} (h : w.IsIdent) :
    ∀ c ∈ w.string.toList, c.toNat < 0x80 := by
  intro c hc
  rw [Word.string, String.toList_ofList] at hc
  exact (h c hc).1

/-- A selector list of identifiers is made of ASCII and blanks, without braces. -/
theorem char_of_mem_selectors {s : Selectors} (ident : ∀ c ∈ s.compounds, c.IsIdent) {d : Char}
    (h : d ∈ s.text) : (d.toNat < 0x80 ∨ Text.isBlank d = true) ∧ d ≠ '{' ∧ d ≠ '}' := by
  rcases s.mem_text h with sep | ⟨c, hc, hd⟩
  · simp only [isSeparator, Bool.or_eq_true, beq_iff_eq] at sep
    rcases sep with rfl | blank
    · decide
    · refine ⟨.inr blank, ?_, ?_⟩ <;> rintro rfl <;> cases blank
  · rcases c.mem_text hd with ⟨w, hw, mem⟩ | rfl | rfl
    · rcases (ident c hc).words w hw with name | star
      · obtain ⟨ascii, name⟩ := name d mem
        refine ⟨.inl ascii, ?_, ?_⟩ <;> rintro rfl <;> revert name <;> decide
      · rw [star, List.mem_singleton] at mem
        subst mem
        decide
    · decide
    · decide

/-! ## Preludes of a printed stylesheet -/

namespace StyleRule

variable {r : StyleRule}

/-- What stands before the brace of a media rule has none. -/
theorem unbraced_prelude (ident : ∀ c ∈ r.selectors.compounds, c.IsIdent) : Unbraced r.prelude := by
  have selectors : Unbraced r.selectors.text := by
    constructor
    · intro h
      exact (char_of_mem_selectors ident h).2.1 rfl
    · intro h
      exact (char_of_mem_selectors ident h).2.2 rfl
  exact (r.before.unbraced.append selectors).append r.after.unbraced

theorem yields (ident : ∀ c ∈ r.selectors.compounds, c.IsIdent) : Yields r.text [r.prelude] :=
  .block (unbraced_prelude ident) (.of_unbraced r.unbraced)

/-- The names of a rule are those of its compounds. -/
theorem namesAfter_prelude {sigil : Char} {names : Written → List (List Char)}
    (stays : isSeparator sigil = false)
    (one : ∀ c ∈ r.selectors.compounds, ∀ t, Ends t →
      namesAfter sigil (c.text ++ t) = names c ++ namesAfter sigil t) :
    namesAfter sigil r.prelude = r.selectors.compounds.flatMap names := by
  have blank : Text.isBlank sigil = false := by
    simp only [isSeparator, Bool.or_eq_false_iff] at stays
    exact stays.2
  rw [prelude, List.append_assoc, namesAfter_append_of_not_mem (r.before.not_mem blank),
    namesAfter_text stays r.selectors one r.after.ends,
    namesAfter_of_not_mem (r.after.not_mem blank), List.append_nil]

end StyleRule

namespace MediaRule

variable {r : MediaRule}

theorem yields (ident : ∀ s ∈ r.rules, ∀ c ∈ s.selectors.compounds, c.IsIdent) :
    Yields r.text (r.prelude :: r.rules.map StyleRule.prelude) := by
  have unbraced : Unbraced r.prelude :=
    r.before.unbraced.append (.append ⟨by decide, by decide⟩ r.unbraced)
  have rules : Yields (r.rules.flatMap StyleRule.text) (r.rules.flatMap fun s => [s.prelude]) :=
    .flatMap fun s hs => StyleRule.yields (ident s hs)
  rw [← List.map_eq_flatMap] at rules
  exact .block unbraced (rules.inside r.after.unbraced)

/-- The query of a media rule names nothing. -/
theorem namesAfter_prelude {sigil : Char} (h : sigil = '.' ∨ sigil = '#') :
    namesAfter sigil r.prelude = [] := by
  refine namesAfter_of_not_mem ?_
  rw [prelude, List.mem_append, List.mem_append, not_or, not_or]
  rcases h with rfl | rfl
  · exact ⟨r.before.not_mem (by decide), by decide, r.nameless.1⟩
  · exact ⟨r.before.not_mem (by decide), by decide, r.nameless.2⟩

end MediaRule

namespace Sheet

variable {sheet : Sheet}

/-- The style rules of a sheet are its own and those of its media rules. -/
theorem mem_styles {r : StyleRule} :
    r ∈ sheet.styles ↔ .inl r ∈ sheet.items ∨ ∃ m, .inr m ∈ sheet.items ∧ r ∈ m.rules := by
  simp [styles]

/-- The compounds of a sheet are those of its style rules. -/
theorem mem_compounds {c : Written} :
    c ∈ sheet.compounds ↔ ∃ r ∈ sheet.styles, c ∈ r.selectors.compounds := by
  simp [compounds]

/-- The preludes of a stylesheet are those of its style rules and of its media rules. -/
theorem preludes_text (ident : ∀ c ∈ sheet.compounds, c.IsIdent) :
    preludes sheet.text = sheet.items.flatMap
      (Sum.elim (fun r => [r.prelude]) fun m => m.prelude :: m.rules.map StyleRule.prelude) := by
  refine YieldsInside.preludes_eq
    (Yields.inside (Yields.flatMap fun item mem => ?_) sheet.after.unbraced)
  cases item with
  | inl r =>
      exact r.yields fun c hc => ident c (mem_compounds.mpr ⟨r, mem_styles.mpr (.inl mem), hc⟩)
  | inr m =>
      exact m.yields fun r hr c hc =>
        ident c (mem_compounds.mpr ⟨r, mem_styles.mpr (.inr ⟨m, mem, hr⟩), hc⟩)

/-- The names in the preludes of a stylesheet are those of its compounds. -/
theorem namesAfter_preludes {sigil : Char} {names : Written → List (List Char)}
    (ident : ∀ c ∈ sheet.compounds, c.IsIdent) (h : sigil = '.' ∨ sigil = '#')
    (one : ∀ c ∈ sheet.compounds, ∀ t, Ends t →
      namesAfter sigil (c.text ++ t) = names c ++ namesAfter sigil t) :
    (preludes sheet.text).flatMap (namesAfter sigil) = sheet.compounds.flatMap names := by
  have stays : isSeparator sigil = false := by
    rcases h with rfl | rfl <;> decide
  have rule : ∀ r ∈ sheet.styles,
      namesAfter sigil r.prelude = r.selectors.compounds.flatMap names := fun r hr =>
    r.namesAfter_prelude stays fun c hc => one c (mem_compounds.mpr ⟨r, hr, hc⟩)
  rw [preludes_text ident, compounds, styles, List.flatMap_assoc, List.flatMap_assoc,
    List.flatMap_assoc]
  refine List.flatMap_congr fun item mem => ?_
  cases item with
  | inl r => simp [rule r (mem_styles.mpr (.inl mem))]
  | inr m =>
      simp only [Sum.elim_inr, List.flatMap_cons, MediaRule.namesAfter_prelude h, List.nil_append,
        List.flatMap_map]
      exact List.flatMap_congr fun r hr => rule r (mem_styles.mpr (.inr ⟨m, mem, hr⟩))

/-- The spellings of a printed stylesheet. -/
theorem build_text (ident : ∀ c ∈ sheet.compounds, c.IsIdent) :
    CaseIndex.build (String.ofList sheet.text) = ⟨.ofList sheet.classes, .ofList sheet.ids⟩ := by
  have classes : authored '.' (String.ofList sheet.text) = sheet.classes := by
    rw [authored, String.toList_ofList, namesAfter_preludes ident (.inl rfl) fun c hc t ends =>
      c.namesAfter_dot (fun w hw => ((ident c hc).classes w hw).isName) ends]
    simp only [Sheet.classes, List.map_flatMap, List.map_map]
    rfl
  have ids : authored '#' (String.ofList sheet.text) = sheet.ids := by
    rw [authored, String.toList_ofList, namesAfter_preludes ident (.inr rfl) fun c hc t ends =>
      c.namesAfter_hash (fun w hw => ((ident c hc).id w hw).isName) ends]
    rw [Sheet.ids, List.map_flatMap]
    exact List.flatMap_congr fun c _ => by cases c.id <;> rfl
  rw [CaseIndex.build, classes, ids]

/-- The compounds that are read off the parser's rules. -/
theorem scan_parsed (ident : ∀ c ∈ sheet.compounds, c.IsIdent) :
    (Rule.flattenStyles sheet.parsed).flatMap Compound.scan =
      sheet.compounds.map fun c => c.lower.compound := by
  have texts : Rule.flattenStyles sheet.parsed =
      sheet.styles.map fun r => Text.lower (String.ofList r.selectors.text) := by
    rw [Rule.flattenStyles, parsed, styles, List.flatMap_map, List.map_flatMap]
    refine List.flatMap_congr fun item _ => ?_
    cases item with
    | inl r => rfl
    | inr m => simp [MediaRule.parsed, Rule.styleTexts, StyleRule.parsed, Rule.styleText?,
        List.filterMap_map, Function.comp_def]
  rw [texts, compounds, List.flatMap_map, List.map_flatMap]
  refine List.flatMap_congr fun r hr => ?_
  have even := fun d hd => (char_of_mem_selectors
    (fun c hc => ident c (mem_compounds.mpr ⟨r, hr, hc⟩)) (d := d) hd).1
  rw [Text.lower_ofList even, scan_toLower]

end Sheet

/-! ## The index -/

/-- A word in lower case. -/
theorem Compound.Word.string_lower (w : Word) : w.lower.string = Text.asciiLower w.string := by
  rw [Word.string, Word.string, Text.asciiLower_ofList]
  rfl

/-- A compound in lower case. -/
theorem Compound.Written.compound_lower (c : Written) :
    c.lower.compound = ⟨c.lower.tagText, c.id.map fun w => Text.asciiLower w.string,
      c.classes.map fun w => Text.asciiLower w.string⟩ := by
  simp [compound, lower, Function.comp_def, Word.string_lower]

/-- The case of a tag does not matter for its key, and a missing one has the key of the empty one.
-/
theorem tagKey_tagText_lower (c : Written) :
    tagKey (some c.lower.tagText) = tagKey (c.tag.map Word.string) := by
  cases htag : c.tag with
  | none => simp [Written.tagText, Written.lower, htag, tagKey, anyTag]
  | some w =>
      rw [tagKey_eq_iff]
      exact .inr ⟨_, _, rfl, rfl, by
        simp [Written.tagText, Written.lower, htag, Word.string_lower, Text.eqIgnoreAsciiCase]⟩

/-- The classes of a sheet are the words of its compounds. -/
theorem Sheet.mem_classes {sheet : Sheet} {name : String} :
    name ∈ sheet.classes ↔ ∃ c ∈ sheet.compounds, ∃ w ∈ c.classes, w.string = name := by
  simp [Sheet.classes]

/-- The ids of a sheet are the words of its compounds. -/
theorem Sheet.mem_ids {sheet : Sheet} {name : String} :
    name ∈ sheet.ids ↔ ∃ c ∈ sheet.compounds, ∃ w ∈ c.id, w.string = name := by
  simp [Sheet.ids]

/-- The index of a printed stylesheet, whose names are identifiers of ASCII, holds for every
compound its classes, under the key of its tag, and its id, and nothing else.

* Every name stands in one spelling, which its author has used somewhere and which differs from the
  name by case alone, if at all.
* If no two classes that the author has written differ by case alone, then the classes are spelled
  as they are written; and likewise for the ids. -/
theorem printed_sheet_is_indexed (sheet : Sheet) (ident : ∀ c ∈ sheet.compounds, c.IsIdent) :
    ∃ names, sheet.index = .live names ∧
      (∃ spell, Spells spell sheet.classes ∧
        ∀ key name, name ∈ names.bucket key ↔ ∃ c ∈ sheet.compounds,
          tagKey (c.tag.map Word.string) = key ∧ ∃ w ∈ c.classes, spell w.string = name) ∧
      (∃ spell, Spells spell sheet.ids ∧
        ∀ name, name ∈ names.ids ↔ ∃ c ∈ sheet.compounds, ∃ w ∈ c.id, spell w.string = name) ∧
      (Unambiguous sheet.classes →
        ∀ key name, name ∈ names.bucket key ↔ ∃ c ∈ sheet.compounds,
          tagKey (c.tag.map Word.string) = key ∧ ∃ w ∈ c.classes, w.string = name) ∧
      (Unambiguous sheet.ids → ∀ name, name ∈ names.ids ↔ name ∈ sheet.ids) := by
  obtain ⟨names, live, bucket, ids⟩ :=
    exists_names_addRules sheet.parsed (String.ofList sheet.text)
  rw [Sheet.scan_parsed ident, Sheet.build_text ident] at bucket ids
  -- each name that is authored is recovered in one of its spellings
  obtain ⟨spell, spells, recovered⟩ :=
    Spellings.exists_spells sheet.classes fun name mem => by
      obtain ⟨c, hc, w, hw, rfl⟩ := Sheet.mem_classes.mp mem
      exact ((ident c hc).classes w hw).ascii
  obtain ⟨spellId, spellsId, recoveredId⟩ :=
    Spellings.exists_spells sheet.ids fun name mem => by
      obtain ⟨c, hc, w, hw, rfl⟩ := Sheet.mem_ids.mp mem
      exact ((ident c hc).id w hw).ascii
  -- the parser answers in lower case, which the keys and the recovery see through
  have classes : ∀ key name, name ∈ names.bucket key ↔ ∃ c ∈ sheet.compounds,
      tagKey (c.tag.map Word.string) = key ∧ ∃ w ∈ c.classes, spell w.string = name := by
    intro key name
    rw [bucket]
    simp only [List.mem_map, exists_exists_and_eq_and, Written.compound_lower, tagKey_tagText_lower]
    refine exists_congr fun c => and_congr_right fun hc => and_congr_right fun _ =>
      exists_congr fun w => and_congr_right fun hw => ?_
    rw [recovered _ (Sheet.mem_classes.mpr ⟨c, hc, w, hw, rfl⟩),
      Option.some.injEq]
  have hashes : ∀ name, name ∈ names.ids ↔
      ∃ c ∈ sheet.compounds, ∃ w ∈ c.id, spellId w.string = name := by
    intro name
    rw [ids]
    simp only [List.mem_map, exists_exists_and_eq_and, Written.compound_lower, Option.mem_map]
    refine exists_congr fun c => and_congr_right fun hc => exists_congr fun w =>
      and_congr_right fun hw => ?_
    rw [recoveredId _ (Sheet.mem_ids.mpr ⟨c, hc, w, hw, rfl⟩), Option.some.injEq]
  refine ⟨names, live, ⟨spell, spells, classes⟩, ⟨spellId, spellsId, hashes⟩,
    fun clear key name => ?_, fun clear name => ?_⟩
  -- where no two names differ in case alone, each spelling is the only one
  · rw [classes]
    refine exists_congr fun c => and_congr_right fun hc => and_congr_right fun _ =>
      exists_congr fun w => and_congr_right fun hw => ?_
    rw [spells.eq_self clear (Sheet.mem_classes.mpr ⟨c, hc, w, hw, rfl⟩)]
  · rw [hashes, Sheet.mem_ids]
    refine exists_congr fun c => and_congr_right fun hc => exists_congr fun w =>
      and_congr_right fun hw => ?_
    rw [spellsId.eq_self clear (Sheet.mem_ids.mpr ⟨c, hc, w, hw, rfl⟩)]

/-- The stylesheet `A.Btn, #Top {}@media print{*.Note {}}`. -/
def Sheet.sample : Sheet where
  items := [
    .inl {
      before := ⟨[], by decide⟩
      selectors := ⟨⟨[], by decide⟩,
        .next
          ⟨some ⟨['A'], by decide, by decide⟩, none, [⟨['B', 't', 'n'], by decide, by decide⟩],
            by decide⟩ ⟨[',', ' '], by decide⟩ (by decide)
          (.last ⟨none, some ⟨['T', 'o', 'p'], by decide, by decide⟩, [], by decide⟩
            ⟨[], by decide⟩)⟩
      after := ⟨[' '], by decide⟩
      body := []
      unbraced := ⟨by decide, by decide⟩ },
    .inr {
      before := ⟨[], by decide⟩
      query := ['p', 'r', 'i', 'n', 't']
      unbraced := ⟨by decide, by decide⟩
      nameless := by decide
      rules := [{
        before := ⟨[], by decide⟩
        selectors := ⟨⟨[], by decide⟩, .last
          ⟨some ⟨['*'], by decide, by decide⟩, none, [⟨['N', 'o', 't', 'e'], by decide, by decide⟩],
            by decide⟩ ⟨[], by decide⟩⟩
        after := ⟨[' '], by decide⟩
        body := []
        unbraced := ⟨by decide, by decide⟩ }]
      after := ⟨[], by decide⟩ }]
  after := ⟨[], by decide⟩

theorem Sheet.sample_is_indexed :
    String.ofList sample.text = "A.Btn, #Top {}@media print{*.Note {}}" ∧
    (∀ c ∈ sample.compounds, c.IsIdent) ∧ Unambiguous sample.classes ∧ Unambiguous sample.ids ∧
    ∃ names, sample.index = .live names ∧ "Btn" ∈ names.bucket "a" ∧ "Note" ∈ names.bucket "" ∧
      "Top" ∈ names.ids := by
  have ident : ∀ c ∈ sample.compounds, c.IsIdent := by decide +kernel
  have classes : Unambiguous sample.classes := by decide +kernel
  have ids : Unambiguous sample.ids := by decide +kernel
  obtain ⟨names, live, -, -, bucket, hashes⟩ := printed_sheet_is_indexed sample ident
  refine ⟨by decide +kernel, ident, classes, ids, names, live, ?_, ?_, ?_⟩
  · rw [bucket classes]
    decide +kernel
  · rw [bucket classes]
    decide +kernel
  · rw [hashes ids]
    decide +kernel

end SelectorCatalog
