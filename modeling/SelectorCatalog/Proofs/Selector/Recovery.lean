import SelectorCatalog.Proofs.Selector.Authored

/-!
# Which spelling is recovered

A name is authored at a place of a text if a sigil stands there, the name is all of the run of name
characters behind the sigil, and from there the text reaches a `{` without crossing a brace
(`AuthoredAt`). This speaks of one place at a time, and of nothing but the text.

The spellings are collected in one pass from the end of the text. They are the names authored at its
places, in the order of the places (`mem_names`, `find?_names`); so the spelling that is recovered
for a name is told by the places, too (`recover_iff_recovers`).
-/

namespace SelectorCatalog

/-- The two kinds of names. -/
inductive NameKind where
  | className
  | idName
deriving DecidableEq, Repr

/-- The character in front of a name of that kind. -/
def NameKind.sigil : NameKind → Char
  | .className => '.'
  | .idName => '#'

/-- The spellings of one kind. -/
def CaseIndex.spellings (cases : CaseIndex) : NameKind → Spellings
  | .className => cases.classes
  | .idName => cases.ids

namespace Spelling

/-- The name is all of the run of name characters that a text begins with, and the text reaches a
`{` without crossing a brace. -/
structure Begins (name text : List Char) : Prop where
  ne_nil : name ≠ []
  chars : ∀ c ∈ name, isNameChar c = true
  reaches : ∃ between after,
    text = name ++ (between ++ '{' :: after) ∧ Ends between ∧ Unbraced between

/-- In a text, behind `before`, a name is authored. -/
def AuthoredAt (kind : NameKind) (text before name : List Char) : Prop :=
  ∃ rest, text = before ++ kind.sigil :: rest ∧ Begins name rest

/-- Behind `before`, the first name with some property is authored. -/
structure FirstAt (kind : NameKind) (P : List Char → Prop) (text before name : List Char) : Prop
    where
  authored : AuthoredAt kind text before name
  holds : P name
  first : ∀ before' name', AuthoredAt kind text before' name' → P name' →
    before.length ≤ before'.length

/-- What is recovered for a name from a text, by the places of the text. -/
inductive Recovers (kind : NameKind) (source name : String) : Option String → Prop where
  /-- The name itself, if it is authored somewhere. -/
  | verbatim (before : List Char) (authored : AuthoredAt kind source.toList before name.toList) :
      Recovers kind source name (some name)
  /-- Otherwise the first spelling with the same lower case. -/
  | folded (before : List Char) (spelling : String)
      (absent : ∀ before, ¬AuthoredAt kind source.toList before name.toList)
      (first : FirstAt kind (fun s => Text.lower (String.ofList s) = Text.lower name) source.toList
        before spelling.toList) :
      Recovers kind source name (some spelling)
  /-- Otherwise nothing. -/
  | unknown
      (absent : ∀ before spelling, AuthoredAt kind source.toList before spelling →
        Text.lower (String.ofList spelling) ≠ Text.lower name) :
      Recovers kind source name none

/-- A name is authored somewhere in a source, and differs from a given one by case alone. -/
structure Respells (kind : NameKind) (source token name : String) : Prop where
  authored : ∃ before, AuthoredAt kind source.toList before name.toList
  same : Text.lower name = Text.lower token

/-- The names of a text that follow a sigil in a prelude, in order. -/
def names (sigil : Char) (text : List Char) : List (List Char) :=
  (preludes text).flatMap (namesAfter sigil)

/-- The authored names are those of the characters. -/
theorem authored_ofList (sigil : Char) (text : List Char) :
    authored sigil (String.ofList text) = (names sigil text).map String.ofList := by
  rw [authored, String.toList_ofList, names]

/-- The first brace of a text. -/
def firstBrace (s : List Char) : Option Char :=
  s.find? fun c => c == '{' || c == '}'

/-! ## Preludes -/

theorem unbraced_nil : Unbraced [] :=
  ⟨by simp, by simp⟩

theorem Unbraced.cons {c : Char} {s : List Char} (h : ¬(c = '{' ∨ c = '}')) (h' : Unbraced s) :
    Unbraced (c :: s) := by
  rw [not_or] at h
  simp only [Unbraced, List.mem_cons, not_or]
  exact ⟨⟨Ne.symm h.1, h'.1⟩, Ne.symm h.2, h'.2⟩

/-- Without braces there is no first one. -/
theorem firstBrace_eq_none {s : List Char} : firstBrace s = none ↔ Unbraced s := by
  rw [firstBrace, List.find?_eq_none]
  constructor
  · intro none
    exact ⟨fun mem => none _ mem (by simp), fun mem => none _ mem (by simp)⟩
  · intro clean c hc brace
    simp only [Bool.or_eq_true, beq_iff_eq] at brace
    rcases brace with rfl | rfl
    · exact clean.1 hc
    · exact clean.2 hc

/-- The first brace has none before it. -/
theorem firstBrace_eq_some {s : List Char} {brace : Char} :
    firstBrace s = some brace ↔ (brace = '{' ∨ brace = '}') ∧
      ∃ between after, s = between ++ brace :: after ∧ Unbraced between := by
  have clean (between : List Char) :
      (∀ c ∈ between, (!(c == '{' || c == '}')) = true) ↔ Unbraced between := by
    rw [← firstBrace_eq_none, firstBrace, List.find?_eq_none]
    simp
  simp only [firstBrace, List.find?_eq_some_iff_append, clean, exists_and_right, Bool.or_eq_true,
    beq_iff_eq]

/-- Without braces there are no preludes. -/
theorem preludes_of_unbraced {s : List Char} (h : Unbraced s) : preludes s = [] :=
  (YieldsInside.of_unbraced h).preludes_eq

/-- What stands before a brace that opens is a prelude. -/
theorem preludes_append_open {s : List Char} (h : Unbraced s) (t : List Char) :
    preludes (s ++ '{' :: t) = s :: preludes t := by
  have opened (q : Preludes) : Preludes.push '{' q = ⟨some [], q.all⟩ := rfl
  rw [preludes, List.foldr_append, List.foldr_cons, opened, foldr_push h]
  simp [Preludes.all, preludes]

/-- What stands before a brace that closes is none. -/
theorem preludes_append_close {s : List Char} (h : Unbraced s) (t : List Char) :
    preludes (s ++ '}' :: t) = preludes t := by
  have closed (q : Preludes) : Preludes.push '}' q = ⟨none, q.all⟩ := rfl
  rw [preludes, List.foldr_append, List.foldr_cons, closed, foldr_push h]
  simp [Preludes.all, preludes]

/-! ## Names at the beginning of a text -/

theorem unbraced_of_isNameChar {name : List Char} (chars : ∀ c ∈ name, isNameChar c = true) :
    Unbraced name := by
  constructor
  · intro mem
    exact absurd (chars _ mem) (by decide)
  · intro mem
    exact absurd (chars _ mem) (by decide)

theorem takeWhile_of_ends {s : List Char} (h : Ends s) : s.takeWhile isNameChar = [] := by
  cases s with
  | nil => rfl
  | cons c s => simp [h c rfl]

theorem ends_of_takeWhile {s : List Char} (h : s.takeWhile isNameChar = []) : Ends s := by
  cases s with
  | nil => simp [Ends]
  | cons c s =>
      rintro _ ⟨⟩
      simpa [List.takeWhile_cons] using h

/-- A name is read up to its end. -/
theorem takeWhile_name {name s : List Char} (chars : ∀ c ∈ name, isNameChar c = true)
    (ends : Ends s) : (name ++ s).takeWhile isNameChar = name := by
  rw [List.takeWhile_append_of_pos chars, takeWhile_of_ends ends, List.append_nil]

theorem ends_append {s t : List Char} (h : Ends s) (h' : Ends t) : Ends (s ++ t) := by
  cases s with
  | nil => exact h'
  | cons c s => exact h

theorem ends_dropWhile (s : List Char) : Ends (s.dropWhile isNameChar) := by
  intro c hc
  have := List.head?_dropWhile_not isNameChar s
  rw [hc] at this
  simpa using this

/-- The name that begins is read off the text. -/
theorem Begins.eq_takeWhile {name text : List Char} (h : Begins name text) :
    name = text.takeWhile isNameChar := by
  obtain ⟨between, after, rfl, ends, -⟩ := h.reaches
  have brace : Ends ('{' :: after) := by
    rintro _ ⟨⟩
    decide
  rw [takeWhile_name h.chars (ends_append ends brace)]

/-- At one place one name begins. -/
theorem Begins.unique {name name' text : List Char} (h : Begins name text)
    (h' : Begins name' text) :
    name = name' :=
  h.eq_takeWhile.trans h'.eq_takeWhile.symm

/-- In a stretch that a `{` ends, every run of name characters is a name. -/
theorem begins_of_reaches {between : List Char} (h : Unbraced between) (after : List Char)
    (ne : between.takeWhile isNameChar ≠ []) :
    Begins (between.takeWhile isNameChar) (between ++ '{' :: after) where
  ne_nil := ne
  chars _ hc := List.mem_takeWhile_imp hc
  reaches := by
    refine ⟨between.dropWhile isNameChar, after, ?_, ends_dropWhile between, ?_⟩
    · rw [← List.append_assoc, List.takeWhile_append_dropWhile]
    · have sub : between.dropWhile isNameChar ⊆ between := List.dropWhile_subset _
      exact ⟨fun mem => h.1 (sub mem), fun mem => h.2 (sub mem)⟩

/-! ## Names of a text -/

theorem not_isNameChar_sigil (kind : NameKind) : isNameChar kind.sigil = false := by
  cases kind <;> decide

theorem unbraced_sigil (kind : NameKind) : Unbraced [kind.sigil] := by
  cases kind <;> exact ⟨by decide, by decide⟩

/-- Before a brace that opens names are read. -/
theorem names_append_open {sigil : Char} {s : List Char} (h : Unbraced s) (t : List Char) :
    names sigil (s ++ '{' :: t) = namesAfter sigil s ++ names sigil t := by
  rw [names, preludes_append_open h, List.flatMap_cons, names]

/-- Before a brace that closes they are not. -/
theorem names_append_close {sigil : Char} {s : List Char} (h : Unbraced s) (t : List Char) :
    names sigil (s ++ '}' :: t) = names sigil t := by
  rw [names, preludes_append_close h, names]

theorem names_of_unbraced {sigil : Char} {s : List Char} (h : Unbraced s) : names sigil s = [] := by
  rw [names, preludes_of_unbraced h, List.flatMap_nil]

/-- Where a name is authored, it comes first. -/
theorem names_cons_of_begins {kind : NameKind} {name rest : List Char} (h : Begins name rest) :
    names kind.sigil (kind.sigil :: rest) = name :: names kind.sigil rest := by
  obtain ⟨between, after, rfl, ends, unbraced⟩ := h.reaches
  have word : Unbraced (name ++ between) := (unbraced_of_isNameChar h.chars).append unbraced
  have other : kind.sigil ∉ name := fun mem =>
    Bool.false_ne_true ((not_isNameChar_sigil kind).symm.trans (h.chars _ mem))
  have front : names kind.sigil (kind.sigil :: (name ++ (between ++ '{' :: after))) =
      namesAfter kind.sigil (kind.sigil :: (name ++ between)) ++ names kind.sigil after := by
    rw [← List.append_assoc]
    exact names_append_open ((unbraced_sigil kind).append word) after
  rw [front, ← List.append_assoc, names_append_open word,
    namesAfter_cons h.ne_nil h.chars other ends, namesAfter_append_of_not_mem other]
  rfl

/-- Without a name after it a character adds none. -/
theorem namesAfter_cons_of_ends {sigil c : Char} {s : List Char} (h : c = sigil → Ends s) :
    namesAfter sigil (c :: s) = namesAfter sigil s := by
  by_cases eq : c = sigil
  · simp [namesAfter, takeWhile_of_ends (h eq)]
  · simp [namesAfter, eq]

/-- Where no name is authored, there is none to be found. -/
theorem names_cons_of_not_begins {sigil c : Char} {rest : List Char}
    (h : c = sigil → ∀ name, ¬Begins name rest) : names sigil (c :: rest) = names sigil rest := by
  by_cases brace : c = '{' ∨ c = '}'
  · rcases brace with rfl | rfl
    · exact names_append_open unbraced_nil rest
    · exact names_append_close unbraced_nil rest
  · cases first : firstBrace rest with
    | none =>
        have clean := firstBrace_eq_none.mp first
        rw [names_of_unbraced clean, names_of_unbraced (clean.cons brace)]
    | some b =>
        obtain ⟨rfl | rfl, between, after, rfl, clean⟩ := firstBrace_eq_some.mp first
        · have ends : c = sigil → Ends between := fun eq =>
            ends_of_takeWhile (not_ne_iff.mp fun ne => h eq _ (begins_of_reaches clean after ne))
          rw [names_append_open clean, ← List.cons_append, names_append_open (clean.cons brace)]
          exact congrArg (· ++ names sigil after) (namesAfter_cons_of_ends ends)
        · rw [names_append_close clean, ← List.cons_append, names_append_close (clean.cons brace)]

/-! ## Places -/

section Places

variable {kind : NameKind} {P : List Char → Prop} {text before name : List Char} {c : Char}

theorem not_authoredAt_nil : ¬AuthoredAt kind [] before name := by
  rintro ⟨rest, eq, -⟩
  simp at eq

/-- At the first place a name is authored when the sigil is there and the name follows. -/
theorem authoredAt_nil_cons :
    AuthoredAt kind (c :: text) [] name ↔ c = kind.sigil ∧ Begins name text := by
  constructor
  · rintro ⟨rest, eq, begins⟩
    obtain ⟨rfl, rfl⟩ := List.cons.inj eq
    exact ⟨rfl, begins⟩
  · rintro ⟨rfl, begins⟩
    exact ⟨text, rfl, begins⟩

/-- Further on it is authored when it is so in the rest. -/
theorem authoredAt_cons_cons {d : Char} :
    AuthoredAt kind (c :: text) (d :: before) name ↔ d = c ∧ AuthoredAt kind text before name := by
  constructor
  · rintro ⟨rest, eq, begins⟩
    obtain ⟨same, eq⟩ := List.cons.inj eq
    exact ⟨same.symm, rest, eq, begins⟩
  · rintro ⟨rfl, rest, rfl, begins⟩
    exact ⟨rest, rfl, begins⟩

/-- At one place stands one name. -/
theorem AuthoredAt.unique {before' name' : List Char} (h : AuthoredAt kind text before name)
    (h' : AuthoredAt kind text before' name') (same : before.length = before'.length) :
    name = name' := by
  obtain ⟨rest, rfl, begins⟩ := h
  obtain ⟨rest', eq, begins'⟩ := h'
  obtain ⟨-, eq⟩ := List.append_inj eq same
  obtain rfl := (List.cons.inj eq).2
  exact begins.unique begins'

/-- There is one first name. -/
theorem FirstAt.unique {before' name' : List Char} (h : FirstAt kind P text before name)
    (h' : FirstAt kind P text before' name') : name = name' :=
  h.authored.unique h'.authored (Nat.le_antisymm (h.first before' name' h'.authored h'.holds)
    (h'.first before name h.authored h.holds))

/-- The names that are found are those that are authored. -/
theorem mem_names : name ∈ names kind.sigil text ↔ ∃ before, AuthoredAt kind text before name := by
  induction text with
  | nil => simp [not_authoredAt_nil, names_of_unbraced unbraced_nil]
  | cons c rest ih =>
      have later : (∃ before, AuthoredAt kind (c :: rest) before name) ↔
          (c = kind.sigil ∧ Begins name rest) ∨ name ∈ names kind.sigil rest := by
        rw [ih, ← authoredAt_nil_cons]
        constructor
        · rintro ⟨_ | ⟨d, before⟩, authored⟩
          · exact .inl authored
          · exact .inr ⟨before, (authoredAt_cons_cons.mp authored).2⟩
        · rintro (authored | ⟨before, authored⟩)
          · exact ⟨[], authored⟩
          · exact ⟨c :: before, authoredAt_cons_cons.mpr ⟨rfl, authored⟩⟩
      rw [later]
      by_cases here : c = kind.sigil ∧ ∃ name, Begins name rest
      · obtain ⟨rfl, name', begins⟩ := here
        rw [names_cons_of_begins begins, List.mem_cons]
        refine or_congr_left ⟨fun eq => ⟨rfl, eq ▸ begins⟩, fun begins' => ?_⟩
        exact begins'.2.unique begins
      · rw [names_cons_of_not_begins fun eq name' begins => here ⟨eq, name', begins⟩]
        exact (or_iff_right fun begins => here ⟨begins.1, name, begins.2⟩).symm

/-- If the first character is not the place of such a name, the first such name of the text is that
of the rest. -/
theorem firstAt_cons (h : ∀ name, AuthoredAt kind (c :: text) [] name → ¬P name) :
    (∃ before, FirstAt kind P (c :: text) before name) ↔
      ∃ before, FirstAt kind P text before name := by
  constructor
  · rintro ⟨_ | ⟨d, before⟩, authored, holds, first⟩
    · exact absurd holds (h name authored)
    · refine ⟨before, (authoredAt_cons_cons.mp authored).2, holds,
        fun before' name' h' holds' => ?_⟩
      exact Nat.le_of_succ_le_succ
        (first (c :: before') name' (authoredAt_cons_cons.mpr ⟨rfl, h'⟩) holds')
  · rintro ⟨before, authored, holds, first⟩
    refine ⟨c :: before, authoredAt_cons_cons.mpr ⟨rfl, authored⟩, holds, ?_⟩
    rintro (_ | ⟨d, before'⟩) name' h' holds'
    · exact absurd holds' (h name' h')
    · exact Nat.succ_le_succ (first before' name' (authoredAt_cons_cons.mp h').2 holds')

/-- The names are found in the order of their places. -/
theorem find?_names {p : List Char → Bool} :
    (names kind.sigil text).find? p = some name ↔
      ∃ before, FirstAt kind (fun name => p name = true) text before name := by
  induction text with
  | nil =>
      rw [names_of_unbraced unbraced_nil, List.find?_nil]
      exact iff_of_false (by simp) fun ⟨_, first⟩ => not_authoredAt_nil first.authored
  | cons c rest ih =>
      by_cases here : ∃ name', AuthoredAt kind (c :: rest) [] name' ∧ p name' = true
      · obtain ⟨name', authored, holds⟩ := here
        obtain ⟨rfl, begins⟩ := authoredAt_nil_cons.mp authored
        rw [names_cons_of_begins begins, List.find?_cons_of_pos holds, Option.some.injEq]
        constructor
        · rintro rfl
          exact ⟨[], authored, holds, fun _ _ _ _ => Nat.zero_le _⟩
        · rintro ⟨before, first⟩
          -- no place is in front of the first character
          obtain rfl := List.eq_nil_of_length_eq_zero
            (Nat.le_zero.mp (first.first [] name' authored holds))
          exact begins.unique (authoredAt_nil_cons.mp first.authored).2
      · have none : ∀ name', AuthoredAt kind (c :: rest) [] name' → ¬p name' = true :=
          fun name' authored holds => here ⟨name', authored, holds⟩
        rw [firstAt_cons none, ← ih]
        by_cases begins : c = kind.sigil ∧ ∃ name', Begins name' rest
        · obtain ⟨rfl, name', begins⟩ := begins
          rw [names_cons_of_begins begins,
            List.find?_cons_of_neg (none name' (authoredAt_nil_cons.mpr ⟨rfl, begins⟩))]
        · rw [names_cons_of_not_begins fun eq name' h => begins ⟨eq, name', h⟩]

end Places

/-- Only one answer is right. -/
theorem Recovers.unique {kind : NameKind} {source name : String} {answer answer' : Option String}
    (h : Recovers kind source name answer) (h' : Recovers kind source name answer') :
    answer = answer' := by
  have unlisted : ∀ {before : List Char}, AuthoredAt kind source.toList before name.toList →
      ¬∀ before spelling, AuthoredAt kind source.toList before spelling →
        Text.lower (String.ofList spelling) ≠ Text.lower name :=
    fun here absent => absent _ _ here (by rw [String.ofList_toList])
  rcases h with ⟨before, here⟩ | ⟨before, spelling, absent, first⟩ | absent <;>
    rcases h' with ⟨before', here'⟩ | ⟨before', spelling', absent', first'⟩ | absent'
  · rfl
  · exact absurd here (absent' before)
  · exact absurd absent' (unlisted here)
  · exact absurd here' (absent before')
  · rw [String.toList_inj.mp (first.unique first')]
  · exact absurd first.holds (absent' before _ first.authored)
  · exact absurd absent (unlisted here')
  · exact absurd first'.holds (absent before' _ first'.authored)
  · rfl

end Spelling

/-! ## Recovery -/

namespace Spellings

variable {names : List String} {name : String}

/-- What was authored as it is comes back so. -/
theorem recover_of_mem (h : name ∈ names) : (ofList names).recover name = some name := by
  rw [recover, if_pos]
  simpa [ofList] using h

/-- Else the first name comes back that differs in case alone. -/
theorem recover_of_not_mem (h : name ∉ names) :
    (ofList names).recover name =
      names.find? fun spelling => Text.lower spelling == Text.lower name := by
  rw [recover, if_neg (by simpa [ofList] using h)]
  simp [ofList, List.find?_map, Function.comp_def]

end Spellings

namespace CaseIndex

open Spelling

/-- The spellings of a source are its authored names. -/
theorem spellings_build (source : String) (kind : NameKind) :
    (build source).spellings kind = .ofList (authored kind.sigil source) := by
  cases kind <;> rfl

variable {kind : NameKind} {source name : String}

/-- A name is authored when it is so at some place. -/
theorem mem_authored :
    name ∈ authored kind.sigil source ↔
      ∃ before, AuthoredAt kind source.toList before name.toList := by
  rw [← mem_names, authored, List.mem_map]
  constructor
  · rintro ⟨chars, mem, rfl⟩
    rwa [String.toList_ofList]
  · intro mem
    exact ⟨name.toList, mem, String.ofList_toList⟩

/-- The first authored name with a property is that of the first place. -/
theorem find?_authored {p : String → Bool} {spelling : String} :
    (authored kind.sigil source).find? p = some spelling ↔
      ∃ before, FirstAt kind (fun s => p (String.ofList s) = true) source.toList before
        spelling.toList := by
  rw [authored, List.find?_map, ← find?_names, Option.map_eq_some_iff]
  constructor
  · rintro ⟨chars, found, rfl⟩
    rwa [String.toList_ofList]
  · intro found
    exact ⟨spelling.toList, found, String.ofList_toList⟩

/-- A name that is authored is recovered as it is. -/
theorem recover_of_authoredAt {before : List Char}
    (here : AuthoredAt kind source.toList before name.toList) :
    ((build source).spellings kind).recover name = some name := by
  rw [spellings_build]
  exact Spellings.recover_of_mem (mem_authored.mpr ⟨before, here⟩)

/-- What is recovered is what the specification says. -/
theorem recovers_recover (kind : NameKind) (source name : String) :
    Recovers kind source name (((build source).spellings kind).recover name) := by
  by_cases listed : ∃ before, AuthoredAt kind source.toList before name.toList
  · obtain ⟨before, here⟩ := listed
    rw [recover_of_authoredAt here]
    exact .verbatim before here
  · rw [spellings_build, Spellings.recover_of_not_mem (mt mem_authored.mp listed)]
    cases found : (authored kind.sigil source).find? _ with
    | some spelling =>
        obtain ⟨before, first⟩ := find?_authored.mp found
        exact .folded before spelling (not_exists.mp listed) (by simpa using first)
    | none =>
        refine .unknown fun before spelling here same => ?_
        have mem : String.ofList spelling ∈ authored kind.sigil source :=
          mem_authored.mpr ⟨before, by rwa [String.toList_ofList]⟩
        simpa [same] using List.find?_eq_none.mp found _ mem

/-- What is recovered for a name is authored, and differs from the name by case alone. -/
theorem respells_of_recover {token : String}
    (h : ((build source).spellings kind).recover token = some name) :
    Respells kind source token name := by
  have recovers := recovers_recover kind source token
  rw [h] at recovers
  rcases recovers with ⟨before, here⟩ | ⟨before, _, _, first⟩
  · exact ⟨⟨before, here⟩, rfl⟩
  · exact ⟨⟨before, first.authored⟩, by simpa using first.holds⟩

/-- Something is recovered for a name that differs from an authored one by case alone. -/
theorem exists_recover {before : List Char} {token : String}
    (here : AuthoredAt kind source.toList before name.toList)
    (same : Text.lower token = Text.lower name) :
    ∃ spelling, ((build source).spellings kind).recover token = some spelling := by
  have recovers := recovers_recover kind source token
  cases found : ((build source).spellings kind).recover token with
  | some spelling => exact ⟨spelling, rfl⟩
  | none =>
      rw [found] at recovers
      obtain _ | _ | absent := recovers
      exact absurd (by rw [String.ofList_toList, same]) (absent before _ here)

/-- The spelling that is recovered for a name is the name itself if the text has it somewhere, right
behind the sigil of its kind, in full, and with no brace up to the next `{`. Otherwise it is the
first name in the text of which the same is true and which has the same lower case, if there is one.
-/
theorem recover_iff_recovers (kind : NameKind) (source name : String) (answer : Option String) :
    ((build source).spellings kind).recover name = answer ↔ Recovers kind source name answer := by
  constructor
  · rintro rfl
    exact recovers_recover kind source name
  · intro recovers
    exact (recovers_recover kind source name).unique recovers

/-- What is written exactly so comes before what comes first. -/
example : ((build ".Foo {} .foo {}").spellings .className).recover "foo" = some "foo" ∧
    ((build ".Foo {} .foo {}").spellings .className).recover "FOO" = some "Foo" := by
  decide +kernel

end CaseIndex

end SelectorCatalog
