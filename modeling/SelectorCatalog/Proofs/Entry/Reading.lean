import SelectorCatalog.Entry.Fetch
import SelectorCatalog.Proofs.Entry.Turn

/-!
# From a text to an index

What a fetch may hold on its way from the text that it has read to the index that it builds, when
the parser answers with the rules that a text has: `Fetch.Stage.HasRead`. The parser may answer for
the texts of a document in any order, and a stylesheet that it refuses ends the fetch.

* `Fetch.resume_unread`, `Fetch.Stage.HasRead.advance`: one answer.
* `Entry.install_ok`: what an entry makes of what a fetch found.
* `Entry.Shows`: an entry holds what one text has.
-/

namespace SelectorCatalog

mutual

/-- Whether two rules are the same. -/
def Rule.decEq : (r s : Rule) → Decidable (r = s)
  | .style a, .style b => decidable_of_iff (a = b) (by rw [Rule.style.injEq])
  | .media rs, .media ss =>
    match Rule.decEqs rs ss with
    | .isTrue h => .isTrue (by rw [h])
    | .isFalse h => .isFalse fun eq => h (Rule.media.inj eq)
  | .other, .other => .isTrue rfl
  | .style _, .media _ | .style _, .other | .media _, .style _ | .media _, .other
  | .other, .style _ | .other, .media _ => .isFalse nofun

/-- Whether two lists of rules are the same. -/
def Rule.decEqs : (rs ss : List Rule) → Decidable (rs = ss)
  | [], [] => .isTrue rfl
  | r :: rs, s :: ss =>
    match Rule.decEq r s, Rule.decEqs rs ss with
    | .isTrue h, .isTrue h' => .isTrue (by rw [h, h'])
    | .isFalse h, _ => .isFalse fun eq => h (List.cons.inj eq).1
    | _, .isFalse h => .isFalse fun eq => h (List.cons.inj eq).2
  | [], _ :: _ | _ :: _, [] => .isFalse nofun

end

instance : DecidableEq Rule := Rule.decEq

instance decidableEqExcept {ε α : Type} [DecidableEq ε] [DecidableEq α] :
    DecidableEq (Except ε α)
  | .ok a, .ok b => decidable_of_iff (a = b) (by rw [Except.ok.injEq])
  | .error a, .error b => decidable_of_iff (a = b) (by rw [Except.error.injEq])
  | .ok _, .error _ | .error _, .ok _ => .isFalse nofun

namespace Fetch

/-- Whether a fetch at that stage has not read the file yet. -/
def Stage.isUnread : Stage → Bool
  | .stat | .read _ => true
  | .parse .. | .build .. => false

/-- The texts in a file that are parsed. -/
def parsedTexts (kind : EntryKind) (text : String) : List String :=
  match kind with
  | .css => [text]
  | .html => Html.Document.styles text

/-- The stylesheets that a file links. -/
def linksIn (kind : EntryKind) (path : Path) (root : Option Path) (text : String) : List Path :=
  match kind with
  | .css => []
  | .html => Html.Document.dependencies text path root

/-- The parsed texts of a file with their rules. -/
def sourcesOf (rulesOf : String → List Rule) (kind : EntryKind) (text : String) :
    List (String × List Rule) :=
  (parsedTexts kind text).map fun t => (t, rulesOf t)

/-- What a fetch holds once it has read a text. -/
inductive Stage.HasRead (rulesOf : String → List Rule) (kind : EntryKind) (path : Path)
    (root : Option Path) (text : String) : Stage → Prop where
  | parse (stat : FileStat) {blocks : List Block} : blocks.map (·.text) = parsedTexts kind text →
      (∀ block ∈ blocks, ∀ result, block.outcome = some result →
        result = .ok (rulesOf block.text)) →
      HasRead rulesOf kind path root text (.parse stat (linksIn kind path root text) blocks)
  | build (stat : FileStat) :
      HasRead rulesOf kind path root text
        (.build stat (linksIn kind path root text) (sourcesOf rulesOf kind text))

/-- Whether the answer to a fetch has the rules of its text, where it is the parser's. The parser
may refuse a stylesheet. -/
def agrees (rulesOf : String → List Rule) (kind : EntryKind) (f : Fetch) (a : Answer) : Bool :=
  match f.stage, a with
  | .parse _ _ blocks, .parsed i result => (blocks[i]?).all fun block =>
      result = .ok (rulesOf block.text) || (kind == .css && !result.isOk)
  | _, _ => true

variable {rulesOf : String → List Rule} {kind : EntryKind} {path : Path} {root : Option Path}
  {text : String} {f : Fetch} {e : Entry} {limit : Nat} {a : Answer} {notices : List Notice}
  {stage : Stage}

/-- After a text was read the fetch carries the links and blocks of it. -/
theorem hasRead_stageAfterText (rulesOf : String → List Rule) (e : Entry) (root : Option Path)
    (stat : FileStat) (text : String) :
    (stageAfterText e root stat text).HasRead rulesOf e.kind e.path root text := by
  have fresh : ∀ texts : List String, ∀ block ∈ texts.map fun s => (⟨s, none⟩ : Block), ∀ result,
      block.outcome = some result → result = .ok (rulesOf block.text) := by
    intro texts block mem result h
    obtain ⟨s, -, rfl⟩ := List.mem_map.mp mem
    cases h
  rcases e with ⟨_ | _, p⟩
  · -- a document without styles has nothing to parse
    cases hs : Html.Document.styles text with
    | nil =>
        simp only [stageAfterText, hs]
        have built : Stage.HasRead rulesOf .html p root text _ := .build stat
        have none : sourcesOf rulesOf .html text = [] := by
          rw [sourcesOf, show parsedTexts .html text = [] from hs]
          rfl
        rwa [none] at built
    | cons s rest =>
        simp only [stageAfterText, hs]
        refine .parse stat ?_ (fresh (s :: rest))
        show ((s :: rest).map _).map _ = Html.Document.styles text
        rw [hs, List.map_map]
        exact List.map_id _
  · exact .parse stat rfl (fresh [text])

/-- An answer before the file is read leads to the text at most. -/
theorem resume_unread (unread : f.stage.isUnread = true)
    (h : f.resume e limit root a = (e, notices, .waiting stage)) :
    stage.isUnread = true ∨ ∃ text, a = .text (.ok text) ∧ (∃ stat, f.stage = .read stat) ∧
      ∀ rulesOf, stage.HasRead rulesOf e.kind e.path root text := by
  unfold resume at h
  split at h
  case h_1 => cases h
  case h_2 stat _ =>
      by_cases large : limit < stat.size
      · rw [if_pos large] at h
        cases h
      · rw [if_neg large] at h
        cases h
        exact .inl rfl
  case h_3 => cases h
  case h_4 stat text at_ =>
      cases h
      exact .inr ⟨text, rfl, ⟨stat, at_⟩, fun rulesOf =>
        hasRead_stageAfterText rulesOf e root stat text⟩
  case h_5 at_ | h_6 at_ =>
      rw [at_] at unread
      cases unread
  case h_7 =>
      cases h
      exact .inl unread

/-- The accepted texts are all texts when the parser takes each of them. -/
theorem accepted_eq {blocks : List Block}
    (parsed : ∀ block ∈ blocks, block.outcome = some (.ok (rulesOf block.text))) :
    accepted blocks = (blocks.map (·.text)).map fun t => (t, rulesOf t) := by
  induction blocks with
  | nil => rfl
  | cons block rest ih =>
      have first := parsed block List.mem_cons_self
      have others := ih fun b mem => parsed b (List.mem_cons_of_mem _ mem)
      rw [accepted] at others ⊢
      simp only [List.filterMap_cons, first, List.map_cons, others]

/-- The parser's answer for a block fills in an outcome, and the texts stay. -/
theorem map_text_modify (blocks : List Block) (i : Nat) (result : Except Error (List Rule)) :
    (blocks.modify i fun block => { block with outcome := some result }).map (·.text) =
      blocks.map (·.text) := by
  apply List.ext_getElem?
  intro j
  simp only [List.getElem?_map, List.getElem?_modify]
  split <;> cases blocks[j]? <;> rfl

/-- The parser has answered for one more text. -/
theorem hasRead_stageAfterBlock {stat : FileStat} {blocks : List Block} {i : Nat}
    {result : Except Error (List Rule)} (texts : blocks.map (·.text) = parsedTexts kind text)
    (parsed : ∀ block ∈ blocks, ∀ r, block.outcome = some r → r = .ok (rulesOf block.text))
    (agrees : ∀ block, blocks[i]? = some block → result = .ok (rulesOf block.text)) :
    (stageAfterBlock stat (linksIn kind path root text)
      (blocks.modify i fun block => { block with outcome := some result })).HasRead
        rulesOf kind path root text := by
  let after := blocks.modify i fun block => { block with outcome := some result }
  have texts' : after.map (·.text) = parsedTexts kind text :=
    (map_text_modify blocks i result).trans texts
  have parsed' : ∀ block ∈ after, ∀ r, block.outcome = some r → r = .ok (rulesOf block.text) := by
    intro block mem r hr
    obtain ⟨j, hj⟩ := List.getElem?_of_mem mem
    rw [List.getElem?_modify] at hj
    obtain ⟨b, hb, rfl⟩ := Option.map_eq_some_iff.mp hj
    by_cases eq : i = j
    · subst eq
      simp only [if_true] at hr ⊢
      cases hr
      exact agrees b hb
    · simp only [eq, if_false] at hr ⊢
      exact parsed b (List.mem_of_getElem? hb) r hr
  show (stageAfterBlock stat _ after).HasRead rulesOf kind path root text
  rw [stageAfterBlock]
  split
  · next all =>
      have taken : accepted after = sourcesOf rulesOf kind text := by
        rw [sourcesOf, ← texts']
        refine accepted_eq fun block mem => ?_
        obtain ⟨r, hr⟩ := Option.isSome_iff_exists.mp (List.all_eq_true.mp all block mem)
        rw [hr, parsed' block mem r hr]
      rw [taken]
      exact .build stat
  · exact .parse stat texts' parsed'

/-- An answer leads a fetch that has read a text on with that text. -/
theorem Stage.HasRead.advance (h : f.stage.HasRead rulesOf e.kind e.path root text)
    (agrees : f.agrees rulesOf e.kind a = true) {root' : Option Path}
    (hr : f.resume e limit root' a = (e, notices, .waiting stage)) :
    stage.HasRead rulesOf e.kind e.path root text := by
  unfold resume at hr
  split at hr
  case h_1 at_ | h_2 at_ | h_3 at_ | h_4 at_ =>
      rw [at_] at h
      cases h
  case h_5 i result at_ =>
      rw [at_] at h
      cases h with
      | parse stat texts parsed =>
          rw [afterParse] at hr
          cases hf : fatal? e result with
          | some error =>
              rw [hf] at hr
              cases hr
          | none =>
              rw [hf] at hr
              cases hr
              refine hasRead_stageAfterBlock texts parsed fun block hb => ?_
              simp only [Fetch.agrees, at_, hb, Option.all_some, Bool.or_eq_true,
                decide_eq_true_iff, Bool.and_eq_true, beq_iff_eq] at agrees
              obtain ok | ⟨css, refused⟩ := agrees
              · exact ok
              · -- a stylesheet that is refused ends its fetch
                cases result with
                | ok rules => cases refused
                | error error => simp [fatal?, css] at hf
  case h_6 => split at hr <;> cases hr
  case h_7 =>
      cases hr
      exact h

end Fetch

namespace Entry

/-- The entry holds what a text has: its names, and the links of a document. -/
structure Shows (rulesOf : String → List Rule) (root : Option Path) (text : String) (e : Entry) :
    Prop where
  index : e.index = Fetch.indexOf (Fetch.sourcesOf rulesOf e.kind text)
  links : e.kind = .html → e.dependencies = Fetch.linksIn e.kind e.path root text

variable {e d : Entry}

@[simp] theorem fetches_beginFetch (e : Entry) : e.beginFetch.fetches = e.fetches + 1 := by
  rw [beginFetch]
  cases e.kind <;> rfl

@[simp] theorem installed_beginFetch (e : Entry) : e.beginFetch.installed = e.installed := by
  rw [beginFetch]
  cases e.kind <;> rfl

@[simp] theorem indexedAt_beginFetch (e : Entry) : e.beginFetch.indexedAt = e.indexedAt := by
  rw [beginFetch]
  cases e.kind <;> rfl

/-- A stylesheet keeps its names while it is fetched. -/
theorem beginFetch_css (css : e.kind = .css) :
    e.beginFetch = { e with fetches := e.fetches + 1 } := by
  rw [beginFetch, css]

@[simp] theorem fetches_dispose (e : Entry) : e.dispose.fetches = e.fetches := by
  rw [dispose]
  split <;> rfl

@[simp] theorem installed_dispose (e : Entry) : e.dispose.installed = e.installed := by
  rw [dispose]
  split <;> rfl

@[simp] theorem indexedAt_dispose (e : Entry) : e.dispose.indexedAt = e.indexedAt := by
  rw [dispose]
  split <;> rfl

/-- What a live entry makes of what a fetch found: it takes it over whole, unless it holds something
later. -/
theorem install_ok {generation : Nat} {found : Finding} (h : e.install generation found = .ok d) :
    e.isDisposed = false ∧ d.fetches = e.fetches ∧
      (generation < e.installed ∧ d = e ∨
        e.installed ≤ generation ∧ d.installed = generation ∧ d.index = found.index ∧
          (e.kind = .html → d.dependencies = found.dependencies) ∧
          d.timestamp = some found.modified ∧ d.indexedAt = some found.started) := by
  rw [install] at h
  split at h
  · cases h
  · next live =>
      refine ⟨Bool.eq_false_iff.mpr live, ?_⟩
      by_cases late : generation < e.installed
      · rw [if_pos late] at h
        cases h
        exact ⟨rfl, .inl ⟨late, rfl⟩⟩
      · rw [if_neg late] at h
        dsimp only at h
        split at h
        · cases h
          exact ⟨rfl, .inr ⟨Nat.le_of_not_lt late, rfl, rfl, fun _ => rfl, rfl, rfl⟩⟩
        · next css =>
            cases h
            refine ⟨rfl, .inr ⟨Nat.le_of_not_lt late, rfl, rfl, fun html => ?_, rfl, rfl⟩⟩
            cases css.symm.trans html

end Entry

end SelectorCatalog
