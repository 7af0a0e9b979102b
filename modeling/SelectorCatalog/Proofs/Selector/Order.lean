import SelectorCatalog.Proofs.Selector.Written

/-!
# The place of an id

An author can write the id of a compound in front of its classes, behind them or among them. Only in
front of them it is read as an id: behind a class, it is taken for a part of that class
(`id_belongs_in_front`).
-/

namespace SelectorCatalog.Compound

/-- A compound whose id can stand anywhere among its classes. -/
structure Shuffled where
  tag : Option Word
  before : List Word
  id : Option Word
  after : List Word
  ne_nil : tag.isSome ∨ id.isSome ∨ before ++ after ≠ []

namespace Shuffled

variable (c : Shuffled)

/-- The same compound with its id in front of the classes. -/
def ordered : Written where
  tag := c.tag
  id := c.id
  classes := c.before ++ c.after
  ne_nil := c.ne_nil

/-- The compound as it is written, with its id among the classes. -/
def text : List Char :=
  (c.tag.map Word.chars).getD [] ++ ((c.before.flatMap fun w => '.' :: w.chars) ++
    ((c.id.map fun w => '#' :: w.chars).getD [] ++ c.after.flatMap fun w => '.' :: w.chars))

/-- What is read: an id behind a class is a part of the class. -/
def reading : Compound :=
  match c.before.getLast?, c.id with
  | some last, some id =>
    { tag := c.ordered.tagText
      id := none
      classes := c.before.dropLast.map Word.string ++
        String.ofList (last.chars ++ '#' :: id.chars) :: c.after.map Word.string }
  | _, _ => c.ordered.compound

/-- The parts of a compound stand in another order, its characters are the same. -/
theorem mem_text {d : Char} : d ∈ c.text ↔ d ∈ c.ordered.text := by
  simp only [text, ordered, Written.text, Written.headText, List.mem_append, List.flatMap_append,
    or_assoc, or_left_comm]

/-- Nothing of it is stripped. -/
theorem strip_text : strip c.text = c.text :=
  strip_eq_self fun _ hd mem => c.ordered.not_mem_text hd (c.mem_text.mp mem)

/-- It is read like the one with the id in front only if the id is in front or missing. -/
theorem reading_eq_ordered_iff : c.reading = c.ordered.compound ↔ c.id = none ∨ c.before = [] := by
  rw [reading]
  cases id : c.id with
  | none => simp
  | some w =>
      cases before : c.before.getLast? with
      | none => simp [List.getLast?_eq_none_iff.mp before]
      | some last =>
          have ne : c.before ≠ [] := by
            rintro eq
            simp [eq] at before
          simp [Written.compound, ordered, id, ne]

/-- The parts in front of the id, and the others. -/
def segments : Segments :=
  (Segments.ofWords c.tag none c.before).append (.ofWords none c.id c.after)

/-- Its segments are read off its signs. -/
theorem text_segments : c.segments.text = c.text := by
  rw [segments, Segments.text_append, Segments.text, Segments.text, Segments.head_ofWords,
    Segments.head_ofWords]
  simp [text, Segments.ofWords, List.flatMap_map]

/-- An id behind a class goes to the class when the compound is cut. -/
theorem compound_segments : c.segments.compound = c.reading := by
  rcases List.eq_nil_or_concat c.before with before | ⟨front, last, before⟩
  · -- no class is in front: this is the compound in order
    have ordered : c.segments.compound = c.ordered.compound := by
      rw [← Written.compound_segments]
      simp [segments, Segments.append, Segments.ofWords, Written.segments, Segments.compound,
        Shuffled.ordered, before]
    rw [ordered, (c.reading_eq_ordered_iff).mpr (.inr before)]
  · rw [List.concat_eq_append] at before
    cases id : c.id with
    | none =>
        rw [(c.reading_eq_ordered_iff).mpr (.inl id), ← Written.compound_segments]
        simp [segments, Segments.append, Segments.ofWords, Written.segments, Segments.compound,
          Segments.head, Shuffled.ordered, before, id]
    | some w =>
        simp [segments, Segments.append, Segments.ofWords, Segments.compound, Segments.head,
          reading, Written.tagText, Shuffled.ordered, before, id, Function.comp_def]
        exact ⟨by cases c.tag <;> rfl, rfl⟩

/-- Something is read. -/
theorem not_isEmpty_reading : c.reading.isEmpty = false := by
  rw [reading]
  split
  · simp [isEmpty]
  · exact c.ordered.not_isEmpty_compound

/-- It is read as one compound. -/
theorem scan_text : scan (String.ofList c.text) = [c.reading] := by
  have stays : ∀ d ∈ c.text, isSeparator d = false := fun d hd =>
    c.ordered.not_isSeparator (c.mem_text.mp hd)
  rw [scan_of_not_isSeparator stays, ofChars, strip_text, ← text_segments, Segments.ofParts_text,
    compound_segments]
  simp [not_isEmpty_reading]

end Shuffled

/-- A compound is read as the one with its id in front if the id stands there, or if there is none.
Otherwise it is read without an id, and the class in front of the id ends with the hash and the id.
-/
theorem id_belongs_in_front (c : Shuffled) :
    scan (String.ofList c.text) = [c.reading] ∧
      scan (String.ofList c.ordered.text) = [c.ordered.compound] ∧
      (scan (String.ofList c.text) = scan (String.ofList c.ordered.text) ↔
        c.id = none ∨ c.before = []) := by
  refine ⟨c.scan_text, c.ordered.scan_text, ?_⟩
  rw [c.scan_text, c.ordered.scan_text, List.singleton_inj]
  exact c.reading_eq_ordered_iff

/-- The compound `.card#main`. -/
def Shuffled.idBehindClass : Shuffled where
  tag := none
  before := [⟨['c', 'a', 'r', 'd'], by decide, by decide⟩]
  id := some ⟨['m', 'a', 'i', 'n'], by decide, by decide⟩
  after := []
  ne_nil := by decide

theorem idBehindClass_is_lost :
    String.ofList Shuffled.idBehindClass.text = ".card#main" ∧
    scan ".card#main" = [⟨"", none, ["card#main"]⟩] ∧
    scan ".card#main" ≠ [Shuffled.idBehindClass.ordered.compound] ∧
    scan ".card#main" ≠ scan (String.ofList Shuffled.idBehindClass.ordered.text) := by
  decide +kernel

end SelectorCatalog.Compound
