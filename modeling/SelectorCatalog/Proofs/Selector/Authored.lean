import SelectorCatalog.Proofs.Selector.Written
import SelectorCatalog.Selector.Spelling

/-!
# Names in preludes

A stylesheet is read for its preludes from the end. A text yields preludes when these come before
those of whatever is read after it (`Yields`); a block yields its own prelude and then those of its
contents (`Yields.block`), so the preludes of a stylesheet are read off its blocks.

In a prelude that holds a selector list the names after a dot are the classes and those after a hash
the ids, in order, if all of them are made of name characters (`namesAfter_text`).
-/

namespace SelectorCatalog.Spelling

/-! ## Preludes -/

/-- A text without braces. -/
def Unbraced (s : List Char) : Prop :=
  '{' ∉ s ∧ '}' ∉ s

/-- A text contributes these preludes, whatever comes after it. -/
def Yields (s : List Char) (found : List (List Char)) : Prop :=
  ∀ p : Preludes, (s.foldr Preludes.push p).all = found ++ p.all

/-- A text contributes these preludes if what comes after it is the end of a block, or nothing. -/
def YieldsInside (s : List Char) (found : List (List Char)) : Prop :=
  ∀ closed, (s.foldr Preludes.push ⟨none, closed⟩).all = found ++ closed

/-- Two texts without braces have none together. -/
theorem Unbraced.append {s t : List Char} (h : Unbraced s) (h' : Unbraced t) :
    Unbraced (s ++ t) := by
  simp only [Unbraced, List.mem_append, not_or]
  exact ⟨⟨h.1, h'.1⟩, h.2, h'.2⟩

/-- A text without braces is part of the prelude being read, if there is one. -/
theorem foldr_push {s : List Char} (h : Unbraced s) (p : Preludes) :
    s.foldr Preludes.push p = ⟨p.current.map (s ++ ·), p.closed⟩ := by
  induction s with
  | nil => cases p with | mk current closed => cases current <;> rfl
  | cons c s ih =>
      simp only [Unbraced, List.mem_cons, not_or] at h
      rw [List.foldr_cons, ih ⟨h.1.2, h.2.2⟩, Preludes.push]
      simp [Ne.symm h.1.1, Ne.symm h.2.1, Function.comp_def]

namespace Yields

variable {s t : List Char} {found found' : List (List Char)}

theorem nil : Yields [] [] :=
  fun _ => rfl

/-- The preludes of two texts follow each other. -/
theorem append (h : Yields s found) (h' : Yields t found') : Yields (s ++ t) (found ++ found') := by
  intro p
  rw [List.foldr_append, h, h', List.append_assoc]

/-- The preludes of several texts follow each other. -/
theorem flatMap {α : Type} {text : α → List Char} {preludes : α → List (List Char)} {xs : List α}
    (h : ∀ x ∈ xs, Yields (text x) (preludes x)) :
    Yields (xs.flatMap text) (xs.flatMap preludes) := by
  induction xs with
  | nil => exact nil
  | cons x xs ih =>
      rw [List.flatMap_cons, List.flatMap_cons]
      exact (h x (by simp)).append (ih fun y hy => h y (by simp [hy]))

/-- What stands at the end of a block is no prelude. -/
theorem inside (h : Yields s found) (h' : Unbraced t) : YieldsInside (s ++ t) found := by
  intro closed
  rw [List.foldr_append, foldr_push h', h]
  rfl

/-- A block has a prelude, and those of its contents. -/
theorem block (h : Unbraced s) (h' : YieldsInside t found) :
    Yields (s ++ '{' :: (t ++ ['}'])) (s :: found) := by
  intro p
  have body : (t ++ ['}']).foldr Preludes.push p = t.foldr Preludes.push ⟨none, p.all⟩ := by
    rw [List.foldr_append]
    rfl
  have opened (q : Preludes) : Preludes.push '{' q = ⟨some [], q.all⟩ := rfl
  rw [List.foldr_append, List.foldr_cons, body, opened, h', foldr_push h]
  simp [Preludes.all]

end Yields

/-- Without braces there are no preludes. -/
theorem YieldsInside.of_unbraced {s : List Char} (h : Unbraced s) : YieldsInside s [] :=
  Yields.nil.inside h

theorem YieldsInside.preludes_eq {s : List Char} {found : List (List Char)}
    (h : YieldsInside s found) : preludes s = found :=
  (h []).trans (List.append_nil _)

/-! ## Names -/

/-- No name goes on in that text. -/
def Ends (s : List Char) : Prop :=
  ∀ c ∈ s.head?, isNameChar c = false

variable {sigil : Char}

/-- Without the sigil there are no names. -/
theorem namesAfter_append_of_not_mem {s : List Char} (h : sigil ∉ s) (t : List Char) :
    namesAfter sigil (s ++ t) = namesAfter sigil t := by
  induction s with
  | nil => rfl
  | cons c s ih =>
      simp only [List.mem_cons, not_or] at h
      simp [namesAfter, Ne.symm h.1, ih h.2]

theorem namesAfter_of_not_mem {s : List Char} (h : sigil ∉ s) : namesAfter sigil s = [] := by
  have := namesAfter_append_of_not_mem h []
  rwa [List.append_nil] at this

/-- A run of name characters right after the sigil is a name. -/
theorem namesAfter_cons {name t : List Char} (ne : name ≠ [])
    (chars : ∀ c ∈ name, isNameChar c = true) (other : sigil ∉ name) (ends : Ends t) :
    namesAfter sigil (sigil :: (name ++ t)) = name :: namesAfter sigil t := by
  have stop : t.takeWhile isNameChar = [] := by
    cases t with
    | nil => rfl
    | cons c t => simp [ends c rfl]
  have run : (name ++ t).takeWhile isNameChar = name := by
    rw [List.takeWhile_append_of_pos chars, stop, List.append_nil]
  rw [namesAfter]
  simp [run, ne, namesAfter_append_of_not_mem other]

end Spelling

namespace Compound

open Spelling

/-- Blanks and commas do not belong to names. -/
theorem not_isNameChar_of_isSeparator {c : Char} (h : isSeparator c = true) :
    isNameChar c = false := by
  simp only [isSeparator, Bool.or_eq_true, beq_iff_eq] at h
  rcases h with rfl | blank
  · decide
  · have all : Text.blanks.all (fun c => !isNameChar c) = true := by decide +kernel
    simpa using List.all_eq_true.mp all c (Text.mem_blanks blank)

/-- A gap ends a name. -/
theorem Gap.ends (g : Gap) {t : List Char} (h : g.chars ≠ [] ∨ Ends t) : Ends (g.chars ++ t) := by
  cases hg : g.chars with
  | nil => exact h.resolve_left fun ne => ne hg
  | cons c rest =>
      rintro _ ⟨⟩
      exact not_isNameChar_of_isSeparator (g.separates c (by simp [hg]))

theorem Gap.not_mem (g : Gap) {d : Char} (h : isSeparator d = false) : d ∉ g.chars :=
  fun mem => by simp [g.separates d mem] at h

/-- A word of name characters. -/
def Word.IsName (w : Word) : Prop :=
  ∀ c ∈ w.chars, isNameChar c = true

namespace Written

variable (c : Written) {t : List Char}

/-- Classes end a name before them. -/
theorem ends_classes (classes : List Word) (ends : Ends t) :
    Ends ((classes.flatMap fun w => '.' :: w.chars) ++ t) := by
  cases classes with
  | nil => exact ends
  | cons w rest =>
      rintro _ ⟨⟩
      decide

/-- The names of written classes are read off them. -/
theorem namesAfter_classes {classes : List Word} (names : ∀ w ∈ classes, w.IsName) (ends : Ends t) :
    namesAfter '.' ((classes.flatMap fun w => '.' :: w.chars) ++ t) =
      classes.map Word.chars ++ namesAfter '.' t := by
  induction classes with
  | nil => rfl
  | cons w rest ih =>
      rw [List.flatMap_cons, List.cons_append, List.cons_append, List.append_assoc,
        namesAfter_cons w.ne_nil (names w (by simp)) (w.not_mem (by decide))
          (ends_classes rest ends),
        ih fun w' h => names w' (by simp [h])]
      rfl

/-- The classes of a compound are the names after its dots. -/
theorem namesAfter_dot (names : ∀ w ∈ c.classes, w.IsName) (ends : Ends t) :
    namesAfter '.' (c.text ++ t) = c.classes.map Word.chars ++ namesAfter '.' t := by
  rw [text, List.append_assoc, namesAfter_append_of_not_mem c.dot_not_mem_headText,
    namesAfter_classes names ends]

/-- The id of a compound is the name after its hash. -/
theorem namesAfter_hash (names : ∀ w ∈ c.id, w.IsName) (ends : Ends t) :
    namesAfter '#' (c.text ++ t) = (c.id.map Word.chars).toList ++ namesAfter '#' t := by
  have hash : ∀ w : Word, '#' ∉ w.chars := fun w => w.not_mem (by decide)
  have classes : '#' ∉ c.classes.flatMap fun w => '.' :: w.chars := by
    simp [hash]
  have tag : '#' ∉ (c.tag.map Word.chars).getD [] := by
    cases c.tag <;> simp [hash]
  rw [text, headText, List.append_assoc, List.append_assoc, namesAfter_append_of_not_mem tag]
  cases hid : c.id with
  | none => exact namesAfter_append_of_not_mem classes t
  | some w =>
      rw [Option.map_some, Option.getD_some, List.cons_append, namesAfter_cons w.ne_nil
        (names w hid) (hash w) (ends_classes c.classes ends), namesAfter_append_of_not_mem classes]
      rfl

end Written

/-- The names of a selector list, compound by compound. -/
theorem namesAfter_text {sigil : Char} {names : Written → List (List Char)}
    (stays : isSeparator sigil = false) (s : Selectors)
    (one : ∀ c ∈ s.compounds, ∀ t, Ends t →
      namesAfter sigil (c.text ++ t) = names c ++ namesAfter sigil t) {t : List Char}
    (ends : Ends t) :
    namesAfter sigil (s.text ++ t) = s.compounds.flatMap names ++ namesAfter sigil t := by
  obtain ⟨lead, chain⟩ := s
  rw [Selectors.text, List.append_assoc, namesAfter_append_of_not_mem (lead.not_mem stays)]
  simp only [Selectors.compounds] at one ⊢
  induction chain with
  | last c trail =>
      rw [Chain.text, List.append_assoc,
        one c (by simp [Chain.compounds]) _ (trail.ends (.inr ends)),
        namesAfter_append_of_not_mem (trail.not_mem stays)]
      simp [Chain.compounds]
  | next c gap apart rest ih =>
      rw [Chain.text, List.append_assoc, List.append_assoc,
        one c (by simp [Chain.compounds]) _ (gap.ends (.inl apart)),
        namesAfter_append_of_not_mem (gap.not_mem stays),
        ih fun d hd => one d (by simp [Chain.compounds, hd])]
      simp [Chain.compounds]

end Compound

/-! ## Recovering a spelling -/

/-- Of names in ASCII, each is found from its lower case, in a spelling that differs by case alone.
-/
theorem Spellings.recover_asciiLower {names : List String}
    (ascii : ∀ name ∈ names, ∀ c ∈ name.toList, c.toNat < 0x80) {name : String}
    (mem : name ∈ names) :
    ∃ spelling ∈ names, (Spellings.ofList names).recover (Text.asciiLower name) = some spelling ∧
      Text.asciiLower spelling = Text.asciiLower name := by
  have lowered : Text.lower (Text.asciiLower name) = Text.asciiLower name := by
    rw [Text.lower_eq_asciiLower, Text.asciiLower_asciiLower]
    intro c hc
    rw [Text.asciiLower, String.toList_map] at hc
    obtain ⟨d, hd, rfl⟩ := List.mem_map.mp hc
    exact Text.toNat_toLower_lt (ascii name mem d hd)
  by_cases listed : Text.asciiLower name ∈ names
  · refine ⟨_, listed, ?_, Text.asciiLower_asciiLower name⟩
    rw [recover, if_pos]
    simpa [ofList] using listed
  · rw [recover, if_neg (by simpa [ofList] using listed)]
    -- the name itself is one that differs by case alone
    have isSome :
        ((ofList names).entries.find? (·.2 == Text.lower (Text.asciiLower name))).isSome := by
      rw [List.find?_isSome]
      refine ⟨(name, Text.lower name), List.mem_map.mpr ⟨name, mem, rfl⟩, ?_⟩
      rw [lowered, Text.lower_eq_asciiLower (ascii name mem), beq_iff_eq]
    obtain ⟨⟨spelling, lower⟩, found⟩ := Option.isSome_iff_exists.mp isSome
    have same := List.find?_some found
    obtain ⟨other, hother, eq⟩ := List.mem_map.mp (List.mem_of_find?_eq_some found)
    cases eq
    rw [lowered, Text.lower_eq_asciiLower (ascii _ hother), beq_iff_eq] at same
    exact ⟨_, hother, by simp [found], same⟩

/-- For each of the authored names one spelling that the author has used, whatever the case of the
name. -/
structure Spells (spell : String → String) (authored : List String) : Prop where
  mem : ∀ name ∈ authored, spell name ∈ authored
  same : ∀ name ∈ authored, Text.eqIgnoreAsciiCase (spell name) name = true
  unique : ∀ name name', Text.eqIgnoreAsciiCase name name' = true → spell name = spell name'

/-- No two of the authored names differ by case alone. -/
def Unambiguous (authored : List String) : Prop :=
  ∀ name ∈ authored, ∀ name' ∈ authored, Text.eqIgnoreAsciiCase name name' = true → name = name'

instance (authored : List String) : Decidable (Unambiguous authored) :=
  inferInstanceAs (Decidable (∀ name ∈ authored, ∀ name' ∈ authored, _ → _))

/-- Where no two names differ in case alone, each is spelled as it is. -/
theorem Spells.eq_self {spell : String → String} {authored : List String}
    (h : Spells spell authored) (clear : Unambiguous authored) {name : String}
    (mem : name ∈ authored) : spell name = name :=
  clear _ (h.mem name mem) _ mem (h.same name mem)

/-- Each authored name is recovered in a spelling that was authored. -/
theorem Spellings.exists_spells (names : List String)
    (ascii : ∀ name ∈ names, ∀ c ∈ name.toList, c.toNat < 0x80) :
    ∃ spell, Spells spell names ∧ ∀ name ∈ names,
      (Spellings.ofList names).recover (Text.asciiLower name) = some (spell name) := by
  let spell name := ((ofList names).recover (Text.asciiLower name)).getD (Text.asciiLower name)
  have spells : ∀ name ∈ names, (ofList names).recover (Text.asciiLower name) = some (spell name) ∧
      spell name ∈ names ∧ Text.eqIgnoreAsciiCase (spell name) name = true := by
    intro name mem
    obtain ⟨spelling, listed, found, same⟩ := recover_asciiLower ascii mem
    have eq : spell name = spelling := by simp [spell, found]
    rw [eq]
    exact ⟨found, listed, by simpa [Text.eqIgnoreAsciiCase] using same⟩
  refine ⟨spell, ⟨fun name mem => (spells name mem).2.1, fun name mem => (spells name mem).2.2,
    fun name name' same => ?_⟩, fun name mem => (spells name mem).1⟩
  rw [Text.eqIgnoreAsciiCase, beq_iff_eq] at same
  simp only [spell, same]

end SelectorCatalog
