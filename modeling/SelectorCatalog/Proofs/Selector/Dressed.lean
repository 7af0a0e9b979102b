import SelectorCatalog.Proofs.Selector.Written

/-!
# Selector lists as authors write them

An author puts a pseudo part behind a compound, or writes one alone, and joins the compounds of a
group by blanks or by a combinator among blanks; commas separate the groups. Scanning the text of
such a list gives back the tag, the id and the classes of each compound, in order, and leaves out
the compounds that have none of them (`printed_groups_are_read`).
-/

namespace SelectorCatalog

/-- Blanks as a gap. -/
def Blank.gap (b : Blank) : Compound.Gap where
  chars := b.chars
  all_separate := by
    rw [List.all_eq_true]
    intro d hd
    simp [Compound.isSeparator, b.blank d hd]

namespace Compound

/-- What follows the colon of a pseudo part: anything but blanks and commas. -/
structure Pseudo where
  chars : List Char
  all_stay : chars.all (fun d => !isSeparator d) = true

/-- A compound with its pseudo part; either can be missing. -/
structure Dressed where
  names : Option Written
  pseudo : Option Pseudo

/-- Blanks, one at least. -/
structure Space extends Blank where
  ne_nil : chars ≠ []

/-- What stands between two compounds of a group. -/
inductive Joint where
  | space (s : Space)
  | combinator (before : Space) (sign : Char) (joins : isCombinator sign = true) (after : Space)

/-- Compounds with something between any two of them. -/
structure Group where
  lead : Blank
  first : Dressed
  rest : List (Joint × Dressed)
  trail : Blank

namespace Dressed

/-- The compound as it is written, with its pseudo parts. -/
def text (c : Dressed) : List Char :=
  (c.names.map Written.text).getD [] ++ (c.pseudo.map fun p => ':' :: p.chars).getD []

/-- The compound that is written, if it has a tag, an id or a class. -/
def compound? (c : Dressed) : Option Compound :=
  c.names.map Written.compound

end Dressed

/-- What stands between two compounds. -/
def Joint.text : Joint → List Char
  | space s => s.chars
  | combinator before sign _ after => before.chars ++ sign :: after.chars

namespace Group

/-- The compounds of a group, in order. -/
def compounds (g : Group) : List Dressed :=
  g.first :: g.rest.map (·.2)

/-- The group as it is written. -/
def text (g : Group) : List Char :=
  g.lead.chars ++
    (g.first.text ++ (g.rest.flatMap fun p => p.1.text ++ p.2.text) ++ g.trail.chars)

/-- The text of several groups. -/
def listText (groups : List Group) : List Char :=
  [','].intercalate (groups.map text)

end Group

/-! ## One compound -/

theorem Pseudo.stays (p : Pseudo) : ∀ d ∈ p.chars, isSeparator d = false := by
  simpa using List.all_eq_true.mp p.all_stay

namespace Dressed

variable (c : Dressed)

/-- No separator is in the text of a compound. -/
theorem not_isSeparator {d : Char} (h : d ∈ c.text) : isSeparator d = false := by
  rcases List.mem_append.mp h with h | h
  · cases hn : c.names with
    | none => simp [hn] at h
    | some w => exact w.not_isSeparator (by simpa [hn] using h)
  · cases hp : c.pseudo with
    | none => simp [hp] at h
    | some p =>
        rw [hp] at h
        rcases List.mem_cons.mp h with rfl | h
        · decide
        · exact p.stays d h

/-- Stripping a compound takes its pseudo part away and nothing else. -/
theorem strip_text : strip c.text = (c.names.map Written.text).getD [] := by
  have clean : ∀ d ∈ [':', '[', '>', '+', '~'], d ∉ (c.names.map Written.text).getD [] := by
    cases c.names with
    | none => simp
    | some w => exact fun d hd => w.not_mem_text hd
  cases hp : c.pseudo with
  | none => rw [text, hp, Option.map_none, Option.getD_none, List.append_nil, strip_eq_self clean]
  | some p =>
      rw [text, hp, Option.map_some, Option.getD_some,
        strip_append_colon (clean '[' (by simp)) (clean ':' (by simp)),
        filter_eq_self_of_not_mem fun d hd => clean d (.tail _ (.tail _ hd))]

theorem scan_text : scan (String.ofList c.text) = c.compound?.toList := by
  rw [scan_of_not_isSeparator fun d hd => c.not_isSeparator hd, ofChars, strip_text, compound?]
  cases c.names with
  | none => rfl
  | some w => simp [w.ofParts_text, w.not_isEmpty_compound]

end Dressed

/-! ## Groups -/

/-- A joint keeps apart what it stands between. -/
theorem scan_append_joint (u : List Char) (j : Joint) (v : List Char) :
    scan (String.ofList (u ++ (j.text ++ v))) =
      scan (String.ofList u) ++ scan (String.ofList v) := by
  cases j with
  | space s => exact scan_append_gap u s.gap (.inl s.ne_nil)
  | combinator before sign joins after =>
      have right : scan (String.ofList ([sign] ++ (after.gap.chars ++ v))) =
          scan (String.ofList v) := by
        rw [scan_append_gap [sign] after.gap (.inl after.ne_nil), scan_combinator joins,
          List.nil_append]
      rw [← right, ← scan_append_gap u before.gap (.inl before.ne_nil)]
      simp [Joint.text, Blank.gap]

namespace Group

/-- Compounds are read one after another. -/
theorem scan_rest (c : Dressed) (rest : List (Joint × Dressed)) :
    scan (String.ofList (c.text ++ rest.flatMap fun p => p.1.text ++ p.2.text)) =
      (c :: rest.map (·.2)).filterMap Dressed.compound? := by
  induction rest generalizing c with
  | nil =>
      rw [List.flatMap_nil, List.append_nil, Dressed.scan_text]
      cases h : c.compound? <;> simp [h]
  | cons p rest ih =>
      rw [List.flatMap_cons, List.append_assoc, scan_append_joint, Dressed.scan_text, ih,
        List.map_cons]
      cases h : c.compound? <;> simp [h]

theorem scan_text (g : Group) :
    scan (String.ofList g.text) = g.compounds.filterMap Dressed.compound? := by
  have trail (u : List Char) :
      scan (String.ofList (u ++ g.trail.chars)) = scan (String.ofList u) := by
    have := scan_append_gap u g.trail.gap (v := []) (.inr rfl)
    simpa [Blank.gap] using this
  rw [text, show g.lead.chars = g.lead.gap.chars from rfl, scan_gap, trail, scan_rest, compounds]

end Group

/-- **Scanning undoes printing**, for groups of compounds with pseudo parts and combinators between
them: what has a tag, an id or a class is read as it was meant, everything else is left out. -/
theorem printed_groups_are_read (groups : List Group) :
    scan (String.ofList (Group.listText groups)) =
      (groups.flatMap Group.compounds).filterMap Dressed.compound? := by
  induction groups with
  | nil => rfl
  | cons g rest ih =>
      rw [List.flatMap_cons, List.filterMap_append, ← ih, ← Group.scan_text]
      cases rest with
      | nil => simp [Group.listText, List.intercalate]
      | cons g' more =>
          have next : Group.listText (g :: g' :: more) =
              g.text ++ ',' :: Group.listText (g' :: more) := by
            simp [Group.listText, List.intercalate]
          rw [next, scan_append _ (by decide)]

example : scan "ul > *#top:not([x]), :root .a.b::before" =
    [⟨"ul", none, []⟩, ⟨"*", some "top", []⟩, ⟨"", none, ["a", "b"]⟩] := by
  decide +kernel

end Compound

end SelectorCatalog
