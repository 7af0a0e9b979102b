import SelectorCatalog.Proofs.Index.Additions
import SelectorCatalog.Proofs.Selector.Nested

/-!
# Names beside comments and quotes

A prelude can have comments and quoted values in it, with any text. The raw text is searched for
braces, these texts included, so what they hold decides on the names in front of them: up to the
brace that ends the prelude nothing is lost, and neither with a `{` in a comment or a value, which
ends a stretch as well. But where a `}` comes first, the stretch in front of it is no prelude, and
its names are not seen (`shown_is_kept`). What stands in front of a name does not matter.
-/

namespace SelectorCatalog

open Spelling

namespace Spelling

/-- What stands in a comment. -/
structure Comment where
  chars : List Char
  unended : ¬['*', '/'] <:+: chars

/-- Whether a text can stand between two quotation marks: there is a mark in it only behind a
backslash. -/
def isQuotable (mark : Char) : List Char → Bool
  | [] => true
  | '\\' :: _ :: rest => isQuotable mark rest
  | c :: rest => c != '\\' && c != mark && isQuotable mark rest

/-- A quoted value. -/
structure Quotation where
  mark : Char
  isMark : mark = '"' ∨ mark = '\''
  chars : List Char
  quotable : isQuotable mark chars = true

/-- A part of a prelude. -/
inductive Part where
  | plain (s : Stretch)
  | comment (c : Comment)
  | quotation (q : Quotation)

/-- The characters of a part. -/
def Part.text : Part → List Char
  | plain s => s.chars
  | comment c => ['/', '*'] ++ (c.chars ++ ['*', '/'])
  | quotation q => q.mark :: (q.chars ++ [q.mark])

end Spelling

/-- The names of one kind that a compound has. -/
def Compound.tokens (c : Compound) : NameKind → List String
  | .className => c.classes
  | .idName => c.id.toList

/-- The names of one kind that are kept; if they are classes, under a key. -/
def Names.kept (names : Names) (key : String) : NameKind → List String
  | .className => names.bucket key
  | .idName => names.ids

/-- A name in a prelude of a stylesheet, outside of comments and quotes. -/
structure Mention where
  /-- The stylesheet in front of the prelude. -/
  before : List Char
  front : List Part
  kind : NameKind
  name : List Char
  ne_nil : name ≠ []
  chars : ∀ c ∈ name, isNameChar c = true
  /-- What follows the name up to the brace that ends the prelude. -/
  back : List Part
  ends : Ends (back.flatMap Part.text)
  /-- The stylesheet behind that brace. -/
  after : List Char

namespace Mention

variable (m : Mention)

/-- The stylesheet in front of the name and its sigil. -/
def lead : List Char :=
  m.before ++ m.front.flatMap Part.text

/-- The text around and with the name. -/
def text : List Char :=
  m.lead ++ m.kind.sigil :: (m.name ++ (m.back.flatMap Part.text ++ '{' :: m.after))

/-- The text as a source. -/
def source : String :=
  String.ofList m.text

/-- What is recovered from the stylesheet for a name of this kind. -/
def recover (name : String) : Option String :=
  ((CaseIndex.build m.source).spellings m.kind).recover name

/-- A `}` comes first in the comments and quotes that follow the name. -/
def IsCut : Prop :=
  firstBrace (m.back.flatMap Part.text) = some '}'

instance : Decidable m.IsCut :=
  inferInstanceAs (Decidable (_ = _))

/-- Rules that are added to an index with this source, and have the name in whatever case, do not
lose it: a spelling of it is kept, and the name itself if the rules have it as it is. -/
def IsKept (names : Names) (rules : List Rule) : Prop :=
  ∀ selectors, Rule.Reaches rules selectors → ∀ c ∈ Compound.scan selectors,
    ∀ token ∈ c.tokens m.kind, Text.lower token = Text.lower (String.ofList m.name) →
      ∃ spelling ∈ ((SelectorIndex.live names).addRules rules m.source).names.kept
          (tagKey (some c.tag)) m.kind,
        Respells m.kind m.source token spelling ∧
          (token = String.ofList m.name → spelling = String.ofList m.name)

end Mention

namespace Spelling

/-- A name that ends somewhere begins a stretch that reaches the next `{`, or none. -/
theorem begins_append_iff {name s : List Char} (ne_nil : name ≠ [])
    (chars : ∀ c ∈ name, isNameChar c = true) (ends : Ends s) :
    Begins name (name ++ s) ↔ firstBrace s = some '{' := by
  rw [firstBrace_eq_some]
  constructor
  · intro begins
    obtain ⟨between, after, eq, -, clean⟩ := begins.reaches
    exact ⟨.inl rfl, between, after, List.append_cancel_left eq, clean⟩
  · rintro ⟨-, between, after, rfl, clean⟩
    have stops : Ends between := by
      intro c hc
      exact ends c (by rw [List.head?_append, hc]; rfl)
    exact ⟨ne_nil, chars, between, after, rfl, stops, clean⟩

end Spelling

/-! ## One name -/

namespace Mention

variable (m : Mention)

/-- The place of the name counts unless a `}` comes first behind it. -/
theorem authoredAt_lead_iff : AuthoredAt m.kind m.text m.lead m.name ↔ ¬m.IsCut := by
  have here : AuthoredAt m.kind m.text m.lead m.name ↔
      Begins m.name (m.name ++ (m.back.flatMap Part.text ++ '{' :: m.after)) := by
    constructor
    · rintro ⟨rest, eq, begins⟩
      rwa [(List.cons.inj (List.append_cancel_left eq)).2]
    · exact fun begins => ⟨_, rfl, begins⟩
  have brace : Ends ('{' :: m.after) := by
    rintro _ ⟨⟩
    decide
  rw [here, begins_append_iff m.ne_nil m.chars (ends_append m.ends brace), IsCut]
  have first : firstBrace (m.back.flatMap Part.text ++ '{' :: m.after) =
      (firstBrace (m.back.flatMap Part.text)).or (some '{') := by
    rw [firstBrace, List.find?_append]
    rfl
  rw [first]
  cases found : firstBrace (m.back.flatMap Part.text) with
  | none => simp
  | some c => rcases (firstBrace_eq_some.mp found).1 with rfl | rfl <;> simp

/-- A name is recovered as it is written where some place of the text is read as such. -/
theorem recover_eq_self_iff : m.recover (String.ofList m.name) = some (String.ofList m.name) ↔
    ∃ before, AuthoredAt m.kind m.text before m.name := by
  constructor
  · intro found
    simpa [source] using (CaseIndex.respells_of_recover found).authored
  · rintro ⟨before, here⟩
    exact CaseIndex.recover_of_authoredAt (by simpa [source] using here)

end Mention

/-- What is recovered for a name of a compound is kept under the key of its tag. -/
theorem Names.mem_kept_addRules {names : Names} {rules : List Rule} {kind : NameKind}
    {source selectors token spelling : String} {c : Compound}
    (reached : Rule.Reaches rules selectors) (mem : c ∈ Compound.scan selectors)
    (has : token ∈ c.tokens kind)
    (recovered : ((CaseIndex.build source).spellings kind).recover token = some spelling) :
    spelling ∈ ((SelectorIndex.live names).addRules rules source).names.kept (tagKey (some c.tag))
      kind := by
  cases kind with
  | className => exact mem_bucket_addRules.mpr (.inr ⟨_, reached, c, mem, rfl, _, has, recovered⟩)
  | idName =>
      have has : token ∈ c.id := Option.mem_toList.mp has
      exact mem_ids_addRules.mpr (.inr ⟨_, reached, c, mem, _, has, recovered⟩)

/-- A name in a prelude, outside of comments and quotes, is recovered as it is unless a `}` comes
first in the comments and quotes behind it. Then it is recovered as it is if and only if it is
authored at another place. Rules do not lose a name that is recovered as it is. -/
theorem shown_is_kept (m : Mention) :
    (m.recover (String.ofList m.name) = some (String.ofList m.name) ↔
        ¬m.IsCut ∨ ∃ before, before ≠ m.lead ∧ AuthoredAt m.kind m.text before m.name) ∧
      (m.recover (String.ofList m.name) = some (String.ofList m.name) →
        ∀ names rules, m.IsKept names rules) := by
  rw [m.recover_eq_self_iff, ← m.authoredAt_lead_iff]
  constructor
  · constructor
    · rintro ⟨before, here⟩
      by_cases same : before = m.lead
      · exact .inl (same ▸ here)
      · exact .inr ⟨before, same, here⟩
    · rintro (here | ⟨before, -, here⟩)
      · exact ⟨m.lead, here⟩
      · exact ⟨before, here⟩
  -- found somewhere in the text, so every spelling of it is recovered
  · rintro ⟨before, here⟩ names rules selectors reached c mem token has same
    have authored : AuthoredAt m.kind m.source.toList before (String.ofList m.name).toList := by
      simpa [Mention.source] using here
    obtain ⟨spelling, recovered⟩ := CaseIndex.exists_recover authored same
    refine ⟨spelling, Names.mem_kept_addRules reached mem has recovered,
      CaseIndex.respells_of_recover recovered, ?_⟩
    rintro rfl
    exact Option.some.inj (recovered.symm.trans (CaseIndex.recover_of_authoredAt authored))

/-- The class in `/*}*/.Card[t="{}"]{}`. -/
def Mention.besideBraces : Mention where
  before := []
  front := [.comment ⟨['}'], by decide⟩]
  kind := .className
  name := ['C', 'a', 'r', 'd']
  ne_nil := by decide
  chars := by
    rw [← List.all_eq_true]
    decide
  back := [.plain ⟨['[', 't', '='], by simp, by decide⟩,
    .quotation ⟨'"', by decide, ['{', '}'], by decide⟩, .plain ⟨[']'], by simp, by decide⟩]
  ends := by
    rintro _ ⟨⟩
    decide
  after := ['}']

theorem besideBraces_is_kept :
    Mention.besideBraces.source = "/*\x7d*/.Card[t=\"\x7b\x7d\"]\x7b\x7d" ∧
    Mention.besideBraces.recover "Card" = some "Card" ∧
    Mention.besideBraces.IsKept .empty [.style ".card"] := by
  obtain ⟨shown, kept⟩ := shown_is_kept Mention.besideBraces
  have recovered := shown.mpr (.inl (by decide))
  exact ⟨by decide +kernel, recovered, kept recovered .empty _⟩

/-- The class in `.Foo[t="}"]{}`. -/
def Mention.cutByValue : Mention where
  before := []
  front := []
  kind := .className
  name := ['F', 'o', 'o']
  ne_nil := by decide
  chars := by
    rw [← List.all_eq_true]
    decide
  back := [.plain ⟨['[', 't', '='], by simp, by decide⟩,
    .quotation ⟨'"', by decide, ['}'], by decide⟩, .plain ⟨[']'], by simp, by decide⟩]
  ends := by
    rintro _ ⟨⟩
    decide
  after := ['}']

/-- The class in `.Foo/*}*/{}`. -/
def Mention.cutByComment : Mention where
  before := []
  front := []
  kind := .className
  name := ['F', 'o', 'o']
  ne_nil := by decide
  chars := by
    rw [← List.all_eq_true]
    decide
  back := [.comment ⟨['}'], by decide⟩]
  ends := by
    rintro _ ⟨⟩
    decide
  after := ['}']

/-- A closing brace in a value or in a comment hides the name in front of it, and the index of the
stylesheet is left without it. -/
theorem closingBrace_hides_class :
    Mention.cutByValue.source = ".Foo[t=\"\x7d\"]\x7b\x7d" ∧
    Mention.cutByValue.recover "Foo" = none ∧
    SelectorIndex.empty.addRules [.style ".Foo[t=\"\x7d\"]"] Mention.cutByValue.source = .empty ∧
    Mention.cutByComment.source = ".Foo/*\x7d*/\x7b\x7d" ∧
    Mention.cutByComment.recover "Foo" = none ∧
    SelectorIndex.empty.addRules [.style ".Foo"] Mention.cutByComment.source = .empty := by
  decide +kernel

end SelectorCatalog
