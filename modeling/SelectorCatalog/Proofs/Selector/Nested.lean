import SelectorCatalog.Proofs.Selector.Recovery

/-!
# Declarations beside nested rules

Rules can stand in the body of a rule, among its declarations. The text of a declaration ends where
a brace comes: at the end of the body nothing is read of it, but in front of a rule it is read as if
it belonged to the rule's prelude (`Statements.names_text`). So a declaration contributes no
spelling if no rule follows it in its body; otherwise it contributes all names that follow a sigil
in it (`declaration_is_silent_iff`).
-/

namespace SelectorCatalog.Spelling

/-- A text without braces, quotes and comments. -/
structure Stretch where
  chars : List Char
  plain : ∀ c ∈ ['{', '}', '"', '\''], c ∉ chars
  uncommented : ¬['/', '*'] <:+: chars

/-- What stands in the body of a rule, or in a stylesheet. -/
inductive Statements where
  /-- What stands behind the last semicolon and the last rule: blanks, or one more declaration. -/
  | rest (last : Stretch)
  | declaration (d : Stretch) (more : Statements)
  | rule (prelude : Stretch) (body more : Statements)

/-- The place of a declaration. -/
inductive Position where
  /-- Behind it the body ends, without a semicolon. -/
  | last
  | inFrontOf (more : Statements)
  | behindDeclaration (d : Stretch) (position : Position)
  | behindRule (prelude : Stretch) (body : Statements) (position : Position)
  | inside (prelude : Stretch) (position : Position) (more : Statements)

namespace Statements

/-- The statements as they are written. -/
def text : Statements → List Char
  | rest last => last.chars
  | declaration d more => d.chars ++ ';' :: more.text
  | rule prelude body more => prelude.chars ++ '{' :: (body.text ++ '}' :: more.text)

/-- Whether one of the statements is a rule. -/
def hasRule : Statements → Bool
  | rest _ => false
  | declaration _ more => more.hasRule
  | rule .. => true

/-- The names that follow a sigil in a prelude, or in a declaration that some rule follows. -/
def declared (sigil : Char) : Statements → List (List Char)
  | rest _ => []
  | declaration d more =>
    (if more.hasRule then namesAfter sigil d.chars else []) ++ more.declared sigil
  | rule prelude body more =>
    namesAfter sigil prelude.chars ++ (body.declared sigil ++ more.declared sigil)

end Statements

namespace Position

/-- The statements with that declaration at that place. -/
def fill : Position → Stretch → Statements
  | last, d => .rest d
  | inFrontOf more, d => .declaration d more
  | behindDeclaration d' position, d => .declaration d' (position.fill d)
  | behindRule prelude body position, d => .rule prelude body (position.fill d)
  | inside prelude position more, d => .rule prelude (position.fill d) more

/-- Whether a rule follows in the same body. -/
def ruleFollows : Position → Bool
  | last => false
  | inFrontOf more => more.hasRule
  | behindDeclaration _ position | behindRule _ _ position | inside _ position _ =>
    position.ruleFollows

/-- What is recovered for a name if that declaration stands at that place. -/
def answer (position : Position) (d : Stretch) (kind : NameKind) (name : String) : Option String :=
  ((CaseIndex.build (String.ofList (position.fill d).text)).spellings kind).recover name

end Position

theorem Stretch.unbraced (s : Stretch) : Unbraced s.chars :=
  ⟨s.plain '{' (by simp), s.plain '}' (by simp)⟩

/-! ## Names of statements -/

/-- Texts are read one by one if no name goes on from one to the other. -/
theorem namesAfter_append {sigil : Char} (s : List Char) {t : List Char} (ends : Ends t) :
    namesAfter sigil (s ++ t) = namesAfter sigil s ++ namesAfter sigil t := by
  induction s with
  | nil => rfl
  | cons c s ih =>
      have run : (s ++ t).takeWhile isNameChar = s.takeWhile isNameChar := by
        rw [List.takeWhile_append, takeWhile_of_ends ends, List.append_nil]
        split
        · next all => exact ((List.takeWhile_prefix isNameChar).eq_of_length all).symm
        · rfl
      simp only [List.cons_append, namesAfter, run, ih]
      split <;> rfl

/-- Names are read off a text, and then off what follows it. -/
def Splits (sigil : Char) (s : List Char) : Prop :=
  ∀ t, namesAfter sigil (s ++ t) = namesAfter sigil s ++ namesAfter sigil t

/-- What splits in two parts splits as a whole. -/
theorem Splits.append {sigil : Char} {s t : List Char} (h : Splits sigil s) (h' : Splits sigil t) :
    Splits sigil (s ++ t) := by
  intro u
  rw [List.append_assoc, h, h', h, List.append_assoc]

/-- A semicolon has no names. -/
theorem namesAfter_semicolon (kind : NameKind) (t : List Char) :
    namesAfter kind.sigil (';' :: t) = namesAfter kind.sigil t := by
  have other : ';' ≠ kind.sigil := by cases kind <;> decide
  exact namesAfter_cons_of_ends fun eq => absurd eq other

/-- A semicolon separates names. -/
theorem namesAfter_append_semicolon (kind : NameKind) (d t : List Char) :
    namesAfter kind.sigil (d ++ ';' :: t) =
      namesAfter kind.sigil d ++ namesAfter kind.sigil t := by
  have ends : Ends (';' :: t) := by
    rintro _ ⟨⟩
    decide
  rw [namesAfter_append d ends, namesAfter_semicolon]

/-- Everything splits after a semicolon. -/
theorem splits_semicolon (kind : NameKind) (d : List Char) : Splits kind.sigil (d ++ [';']) := by
  intro t
  rw [List.append_assoc, List.singleton_append, namesAfter_append_semicolon,
    namesAfter_append_semicolon]
  simp [namesAfter]

namespace Statements

/-- Statements behind a text that goes on, with a closing brace behind them, or the end. -/
theorem names_append_text {kind : NameKind} (s : Statements) {front tail : List Char}
    (unbraced : Unbraced front) (splits : Splits kind.sigil front)
    (closes : ∀ u, Unbraced u → names kind.sigil (u ++ tail) = names kind.sigil tail) :
    names kind.sigil (front ++ (s.text ++ tail)) =
      (if s.hasRule then namesAfter kind.sigil front else []) ++
        (s.declared kind.sigil ++ names kind.sigil tail) := by
  induction s generalizing front tail with
  | rest last =>
      rw [text, ← List.append_assoc, closes _ (unbraced.append last.unbraced)]
      rfl
  | declaration d more ih =>
      -- what follows goes on from this declaration and all in front of it
      have longer : front ++ ((declaration d more).text ++ tail) =
          (front ++ (d.chars ++ [';'])) ++ (more.text ++ tail) := by simp [text]
      have read : namesAfter kind.sigil (front ++ (d.chars ++ [';'])) =
          namesAfter kind.sigil front ++ namesAfter kind.sigil d.chars := by
        rw [splits, namesAfter_append_semicolon]
        simp [namesAfter]
      rw [longer, ih (unbraced.append (d.unbraced.append ⟨by decide, by decide⟩))
        (splits.append (splits_semicolon kind d.chars)) closes, read, declared, hasRule]
      split <;> simp
  | rule prelude body more ihBody ihMore =>
      have parts : front ++ ((rule prelude body more).text ++ tail) =
          (front ++ prelude.chars) ++
            '{' :: ([] ++ (body.text ++ '}' :: ([] ++ (more.text ++ tail)))) := by simp [text]
      have closed (t : List Char) : names kind.sigil ('}' :: t) = names kind.sigil t :=
        names_append_close unbraced_nil t
      rw [parts, names_append_open (unbraced.append prelude.unbraced), splits,
        ihBody unbraced_nil (fun _ => rfl) fun _ hu => by rw [names_append_close hu, closed],
        closed, ihMore unbraced_nil (fun _ => rfl) closes, declared, hasRule]
      simp [namesAfter]

/-- The names of a stylesheet, statement by statement. -/
theorem names_text (kind : NameKind) (s : Statements) :
    names kind.sigil s.text = s.declared kind.sigil := by
  have nothing : names kind.sigil [] = [] := names_of_unbraced unbraced_nil
  have closes (u : List Char) (hu : Unbraced u) :
      names kind.sigil (u ++ []) = names kind.sigil [] := by
    rw [List.append_nil, names_of_unbraced hu, nothing]
  have read := s.names_append_text unbraced_nil (fun _ => rfl) closes
  simpa [namesAfter, nothing] using read

end Statements

/-! ## One declaration -/

namespace Position

/-- Whether a rule follows does not depend on the declaration in the place. -/
theorem hasRule_fill (position : Position) (d d' : Stretch) :
    (position.fill d).hasRule = (position.fill d').hasRule := by
  induction position with
  | last | inFrontOf | behindRule | inside => rfl
  | behindDeclaration d' position ih => exact ih

/-- The names of a declaration count where a rule follows it; all others stay the same. -/
theorem exists_declared_fill (sigil : Char) (position : Position) :
    ∃ before after, ∀ d, (position.fill d).declared sigil =
      before ++ ((if position.ruleFollows then namesAfter sigil d.chars else []) ++ after) := by
  induction position with
  | last => exact ⟨[], [], fun d => rfl⟩
  | inFrontOf more => exact ⟨[], more.declared sigil, fun d => rfl⟩
  | behindDeclaration d' position ih =>
      obtain ⟨before, after, eq⟩ := ih
      refine ⟨(if (position.fill d').hasRule then namesAfter sigil d'.chars else []) ++ before,
        after, fun d => ?_⟩
      rw [fill, Statements.declared, eq, position.hasRule_fill d d', List.append_assoc]
      rfl
  | behindRule prelude body position ih =>
      obtain ⟨before, after, eq⟩ := ih
      refine ⟨namesAfter sigil prelude.chars ++ (body.declared sigil ++ before), after, fun d => ?_⟩
      simp only [fill, Statements.declared, eq, List.append_assoc]
      rfl
  | inside prelude position more ih =>
      obtain ⟨before, after, eq⟩ := ih
      refine ⟨namesAfter sigil prelude.chars ++ before, after ++ more.declared sigil, fun d => ?_⟩
      simp only [fill, Statements.declared, eq, List.append_assoc]
      rfl

variable {position : Position}

/-- Where no rule follows, all declarations read the same. -/
theorem answer_eq_of_not_ruleFollows (h : position.ruleFollows = false) (d d' : Stretch)
    (kind : NameKind) (name : String) :
    position.answer d kind name = position.answer d' kind name := by
  obtain ⟨before, after, eq⟩ := position.exists_declared_fill kind.sigil
  have same : authored kind.sigil (String.ofList (position.fill d).text) =
      authored kind.sigil (String.ofList (position.fill d').text) := by
    rw [authored_ofList, authored_ofList, Statements.names_text, Statements.names_text, eq, eq, h]
    rfl
  rw [answer, answer, CaseIndex.spellings_build, CaseIndex.spellings_build, same]

/-- Where a rule follows, the names of a declaration are recovered as they are. -/
theorem answer_of_ruleFollows (h : position.ruleFollows = true) {d : Stretch} {kind : NameKind}
    {name : List Char} (mem : name ∈ namesAfter kind.sigil d.chars) :
    position.answer d kind (String.ofList name) = some (String.ofList name) := by
  obtain ⟨before, after, eq⟩ := position.exists_declared_fill kind.sigil
  rw [answer, CaseIndex.spellings_build]
  refine Spellings.recover_of_mem ?_
  rw [authored_ofList, Statements.names_text, eq, if_pos h]
  exact List.mem_map_of_mem (by simp [mem])

/-- A declaration in which a name with that many characters stands. -/
def longName (n : Nat) : Stretch where
  chars := ['a', ':', '.'] ++ List.replicate n 'b'
  plain := by simp
  uncommented := by
    intro h
    have slash : '/' ∈ ['a', ':', '.'] ++ List.replicate n 'b' := h.subset (by simp)
    simp at slash

theorem mem_namesAfter_longName (n : Nat) :
    List.replicate (n + 1) 'b' ∈ namesAfter NameKind.className.sigil (longName (n + 1)).chars := by
  have name : ∀ c ∈ List.replicate (n + 1) 'b', isNameChar c = true := by
    intro c hc
    rw [List.eq_of_mem_replicate hc]
    decide
  have read : namesAfter '.' ('.' :: (List.replicate (n + 1) 'b' ++ [])) =
      List.replicate (n + 1) 'b' :: namesAfter '.' [] :=
    namesAfter_cons (by simp) name (by simp) (by simp [Ends])
  rw [List.append_nil] at read
  have front : '.' ∉ ['a', ':'] := by decide
  show _ ∈ namesAfter '.' (['a', ':'] ++ '.' :: List.replicate (n + 1) 'b')
  rw [namesAfter_append_of_not_mem front, read]
  exact List.mem_cons_self

end Position

/-- The text of a declaration does not matter to what is recovered, whatever is asked for, if and
only if no rule follows it in its body. If one follows, every name that stands behind a sigil in the
declaration is recovered as it is. -/
theorem declaration_is_silent_iff (position : Position) :
    ((∀ d d' kind name, position.answer d kind name = position.answer d' kind name) ↔
        position.ruleFollows = false) ∧
      ∀ d kind, ∀ name ∈ namesAfter kind.sigil d.chars, position.ruleFollows = true →
        position.answer d kind (String.ofList name) = some (String.ofList name) := by
  refine ⟨⟨fun same => ?_, fun none => position.answer_eq_of_not_ruleFollows none⟩,
    fun d kind name mem follows => position.answer_of_ruleFollows follows mem⟩
  by_contra follows
  rw [Bool.not_eq_false] at follows
  -- a name that is longer than the whole text does not stand in it
  let blank : Stretch := ⟨[], by simp, by simp⟩
  let n := (position.fill blank).text.length
  have found := position.answer_of_ruleFollows follows (Position.mem_namesAfter_longName n)
  rw [same _ blank] at found
  obtain ⟨before, rest, eq, begins⟩ := (CaseIndex.respells_of_recover found).authored
  obtain ⟨between, after, rfl, -, -⟩ := begins.reaches
  have long := congrArg List.length eq
  simp only [String.toList_ofList, List.length_append, List.length_cons, List.length_replicate]
    at long
  omega

/-- The place of a declaration in `.a{ … ;.c{}}`. -/
def Position.inFrontOfNested : Position :=
  .inside ⟨['.', 'a'], by simp, by decide⟩
    (.inFrontOf (.rule ⟨['.', 'c'], by simp, by decide⟩ (.rest ⟨[], by simp, by decide⟩)
      (.rest ⟨[], by simp, by decide⟩)))
    (.rest ⟨[], by simp, by decide⟩)

/-- The declaration `b:url(x.Logo.png)`. -/
def Stretch.image : Stretch :=
  ⟨"b:url(x.Logo.png)".toList, by simp, by decide +kernel⟩

/-- The declaration `b:red`. -/
def Stretch.colour : Stretch :=
  ⟨"b:red".toList, by simp, by decide +kernel⟩

/-- In front of a nested rule, a part of the name of a file is read as a class. -/
theorem image_is_read_as_class :
    String.ofList (Position.inFrontOfNested.fill .image).text = ".a{b:url(x.Logo.png);.c{}}" ∧
    String.ofList (Position.inFrontOfNested.fill .colour).text = ".a{b:red;.c{}}" ∧
    Position.inFrontOfNested.answer .image .className "logo" = some "Logo" ∧
    Position.inFrontOfNested.answer .colour .className "logo" = none := by
  decide +kernel

end SelectorCatalog.Spelling
