import SelectorCatalog.Proofs.Entry.Reading
import SelectorCatalog.Proofs.Index.Merge

/-!
# The course of a fetch

A fetch is where the answers that it was given have led it: `Fetch.Stage.Follows` says what it holds
at each stage in terms of these. Nothing is asked of the parser: it may take or refuse each text,
and may answer for them in any order. One answer leads from what follows from the answers before it
to what follows from all of them (`Fetch.Stage.Follows.advance`).
-/

namespace SelectorCatalog.Fetch

/-- The size and the text that a fetch was told of, the size within the limit. -/
structure HasText (limit : Nat) (told : Stage → Answer → Prop) (stat : FileStat) (text : String) :
    Prop where
  sized : told .stat (.stat (.ok stat))
  size_le : stat.size ≤ limit
  read : told (.read stat) (.text (.ok text))

/-- What a fetch holds at a stage: `told s a` says that it was given the answer `a` at the stage
`s`.
-/
inductive Stage.Follows (limit : Nat) (kind : EntryKind) (told : Stage → Answer → Prop) :
    Stage → Prop where
  | stat : (∀ s a, ¬told s a) → Follows limit kind told .stat
  | read {stat : FileStat} : told .stat (.stat (.ok stat)) → stat.size ≤ limit →
      (∀ s i result, ¬told s (.parsed i result)) → Follows limit kind told (.read stat)
  | parse {stat : FileStat} {text : String} {links : List Path} {blocks : List Block} :
      HasText limit told stat text → blocks.map (·.text) = parsedTexts kind text →
      (∀ i result, (∃ s, told s (.parsed i result)) ↔
        ∃ block, blocks[i]? = some block ∧ block.outcome = some result) →
      Follows limit kind told (.parse stat links blocks)
  | build {stat : FileStat} {text : String} {links : List Path}
      {sources : List (String × List Rule)} (outcomes : List (Except Error (List Rule))) :
      HasText limit told stat text → outcomes.length = (parsedTexts kind text).length →
      (∀ i result, (∃ s, told s (.parsed i result)) ↔ outcomes[i]? = some result) →
      indexOf sources = SelectorIndex.empty.addTaken (parsedTexts kind text) outcomes →
      Follows limit kind told (.build stat links sources)

variable {limit : Nat} {kind : EntryKind} {told told' : Stage → Answer → Prop} {f : Fetch}
    {e : Entry}
  {root : Option Path} {a : Answer} {notices : List Notice} {stage : Stage} {stat : FileStat}
  {text : String} {links : List Path} {blocks : List Block} {i : Nat}
  {result : Except Error (List Rule)}

/-- A text that was told is told when more is. -/
theorem HasText.mono (h : HasText limit told stat text) (le : ∀ s a, told s a → told' s a) :
    HasText limit told' stat text :=
  ⟨le _ _ h.sized, h.size_le, le _ _ h.read⟩

/-- What a fetch holds depends on nothing but the answers that it was given. -/
theorem Stage.Follows.congr (h : stage.Follows limit kind told)
    (same : ∀ s a, told' s a ↔ told s a) : stage.Follows limit kind told' := by
  obtain rfl : told' = told := funext fun s => funext fun a => propext (same s a)
  exact h

/-! ## What a fetch waits for -/

/-- The answer that a fetch waits for is the one of its stage. A text is parsed once. -/
theorem expects_cases (expected : f.expects a = true) :
    (f.stage = .stat ∧ ∃ result, a = .stat result) ∨
      (∃ stat, f.stage = .read stat ∧ ∃ result, a = .text result) ∨
      (∃ stat links blocks i result block, f.stage = .parse stat links blocks ∧
        a = .parsed i result ∧ blocks[i]? = some block ∧ block.outcome = none) ∨
      ∃ stat links sources, f.stage = .build stat links sources ∧ a = .built := by
  unfold expects at expected
  split at expected
  · next at_ => exact .inl ⟨at_, _, rfl⟩
  · next stat result at_ => exact .inr (.inl ⟨stat, at_, result, rfl⟩)
  · next stat links sources at_ => exact .inr (.inr (.inr ⟨stat, links, sources, at_, rfl⟩))
  · next stat links blocks i result at_ =>
      obtain ⟨block, there, empty⟩ := (Option.any_eq_true ..).mp expected
      exact .inr (.inr (.inl ⟨stat, links, blocks, i, result, block, at_, rfl, there,
        Option.isNone_iff_eq_none.mp empty⟩))
  · cases expected

/-! ## Blocks -/

/-- The blocks with the parser's answer for one of them. -/
def answered (blocks : List Block) (i : Nat) (result : Except Error (List Rule)) : List Block :=
  blocks.modify i fun block => { block with outcome := some result }

/-- The outcomes after the parser's answer: the new one, and those there were. -/
theorem outcome_answered_iff {block : Block} (there : blocks[i]? = some block)
    (empty : block.outcome = none) {j : Nat} {r : Except Error (List Rule)} :
    (∃ b, (answered blocks i result)[j]? = some b ∧ b.outcome = some r) ↔
      (∃ b, blocks[j]? = some b ∧ b.outcome = some r) ∨ j = i ∧ r = result := by
  rw [answered, List.getElem?_modify]
  by_cases same : i = j
  · subst same
    simp [there, empty, eq_comm]
  · simp [same, Ne.symm same]

/-- The outcomes of blocks that have all been parsed. -/
theorem exists_outcomes (all : blocks.all (·.outcome.isSome) = true) :
    ∃ outcomes : List (Except Error (List Rule)),
      blocks.map (·.outcome) = outcomes.map some := by
  induction blocks with
  | nil => exact ⟨[], rfl⟩
  | cons block rest ih =>
      rw [List.all_cons, Bool.and_eq_true] at all
      obtain ⟨result, has⟩ := Option.isSome_iff_exists.mp all.1
      obtain ⟨outcomes, others⟩ := ih all.2
      exact ⟨result :: outcomes, by rw [List.map_cons, List.map_cons, has, others]⟩

/-- A text without anything to parse is an index already, any other text is to be parsed. -/
theorem stageAfterText_cases (e : Entry) (root : Option Path) (stat : FileStat) (text : String) :
    ∃ links,
      (parsedTexts e.kind text = [] ∧ stageAfterText e root stat text = .build stat links []) ∨
      stageAfterText e root stat text =
        .parse stat links ((parsedTexts e.kind text).map fun t => ⟨t, none⟩) := by
  rw [stageAfterText]
  cases e.kind with
  | css => exact ⟨[], .inr rfl⟩
  | html =>
      cases styles : Html.Document.styles text with
      | nil => exact ⟨_, .inl ⟨styles, rfl⟩⟩
      | cons style rest =>
          refine ⟨Html.Document.dependencies text e.path root, .inr ?_⟩
          rw [show parsedTexts .html text = style :: rest from styles]

/-! ## One answer -/

namespace Stage.Follows

/-- The text was told. -/
theorem afterText (e : Entry) (root : Option Path) (has : HasText limit told stat text)
    (unparsed : ∀ s i result, ¬told s (.parsed i result)) :
    (stageAfterText e root stat text).Follows limit e.kind told := by
  obtain ⟨links, ⟨none, after⟩ | after⟩ := stageAfterText_cases e root stat text
  · rw [after]
    refine .build [] has (by rw [none]; rfl) (fun i result => ?_) (by rw [none]; rfl)
    simp [unparsed]
  · rw [after]
    refine .parse has (by rw [List.map_map]; exact List.map_id _) fun i result => ?_
    simp only [unparsed, exists_false, false_iff, List.getElem?_map]
    rintro ⟨block, there, outcome⟩
    obtain ⟨t, -, rfl⟩ := Option.map_eq_some_iff.mp there
    cases outcome

/-- The parser has answered for one more block. -/
theorem afterBlock (has : HasText limit told stat text)
    (texts : blocks.map (·.text) = parsedTexts kind text)
    (outcomes : ∀ i result, (∃ s, told s (.parsed i result)) ↔
      ∃ block, blocks[i]? = some block ∧ block.outcome = some result) :
    (stageAfterBlock stat links blocks).Follows limit kind told := by
  rw [stageAfterBlock]
  split
  · next all =>
      obtain ⟨results, parsed⟩ := exists_outcomes all
      refine .build results has ?_ (fun i result => (outcomes i result).trans ?_) ?_
      · rw [← texts, List.length_map]
        simpa using (congrArg List.length parsed).symm
      · -- an outcome is read off the blocks or off the list of outcomes
        have same : (blocks[i]?).map (·.outcome) = (results[i]?).map some := by
          rw [← List.getElem?_map, parsed, List.getElem?_map]
        cases hb : blocks[i]? <;> cases hr : results[i]? <;> simp_all
      · rw [indexOf_accepted parsed, texts]
  · exact .parse has texts outcomes

/-- An answer leads a fetch on to what follows from it and from all answers before it. -/
theorem advance (h : f.stage.Follows limit e.kind told) (expected : f.expects a = true)
    (hr : f.resume e limit root a = (e, notices, .waiting stage))
    (tells : ∀ s x, told' s x ↔ told s x ∨ s = f.stage ∧ x = a) :
    stage.Follows limit e.kind told' := by
  have before : ∀ s x, told s x → told' s x := fun s x h => (tells s x).mpr (.inl h)
  have now : told' f.stage a := (tells _ _).mpr (.inr ⟨rfl, rfl⟩)
  obtain ⟨at_, r, rfl⟩ | ⟨st, at_, r, rfl⟩ | ⟨st, links, blocks, i, r, block, at_, rfl, there,
    empty⟩ |
    ⟨st, links, sources, at_, rfl⟩ := expects_cases expected
  · -- the size is told
    rw [at_] at h now
    cases r with
    | error error => simp [resume, at_] at hr
    | ok st =>
        cases h with
        | stat nothing =>
            simp only [resume, at_] at hr
            split at hr
            · cases hr
            · next small =>
                cases hr
                refine .read now (Nat.le_of_not_lt small) fun s i result parsed => ?_
                rcases (tells _ _).mp parsed with old | ⟨-, new⟩
                · exact nothing _ _ old
                · cases new
  · -- the text is told
    rw [at_] at h now
    cases r with
    | error error => simp [resume, at_] at hr
    | ok text =>
        cases h with
        | read size small unparsed =>
            simp only [resume, at_] at hr
            cases hr
            refine afterText e root ⟨before _ _ size, small, now⟩ fun s i result parsed => ?_
            rcases (tells _ _).mp parsed with old | ⟨-, new⟩
            · exact unparsed _ _ _ old
            · cases new
  · -- the parser has answered for a block
    rw [at_] at h
    cases h with
    | parse has texts outcomes =>
        simp only [resume, at_, afterParse] at hr
        cases hf : fatal? e r with
        | some error =>
            rw [hf] at hr
            cases hr
        | none =>
            rw [hf] at hr
            cases hr
            show (stageAfterBlock st links (answered blocks i r)).Follows limit e.kind told'
            refine afterBlock (has.mono before) ((map_text_modify blocks i r).trans texts)
              fun j result => ?_
            rw [outcome_answered_iff there empty, ← outcomes]
            simp only [tells, Answer.parsed.injEq, at_]
            grind
  · -- the index is built, and the fetch is over
    simp only [resume, at_] at hr
    split at hr <;> cases hr

end Stage.Follows

end SelectorCatalog.Fetch
