import SelectorCatalog.Proofs.Entry.Turn
import SelectorCatalog.Proofs.Path.Normal

/-!
# The links of an entry

The links that a document shows are those that it has told last, unless it shows none
(`Turned.hasTold`). Every link that a fetch finds is a path in normal form, and so is every link
that an entry takes over (`Fetch.areNormal_resume`, `Entry.areNormal_install`).
-/

namespace SelectorCatalog

/-- Whether links are paths in normal form. -/
def AreNormal (links : List Path) : Prop :=
  ∀ path ∈ links, Path.IsNormal path.text.toList

/-- No links are in normal form. -/
theorem areNormal_nil : AreNormal [] :=
  nofun

/-- The links of a document are paths in normal form, whatever its text. -/
theorem areNormal_dependencies (text : String) (document : Path) (root : Option Path) :
    AreNormal (Html.Document.dependencies text document root) := by
  intro path mem
  obtain ⟨href, -, rfl⟩ := List.mem_map.mp mem
  exact Path.isNormal_resolve href document root

namespace Fetch

/-- The links that a fetch has found so far. -/
def Stage.links : Stage → List Path
  | .parse _ links _ | .build _ links _ => links
  | .stat | .read _ => []

variable {f : Fetch} {e : Entry} {limit : Nat} {root : Option Path} {a : Answer}
  {notices : List Notice} {stage : Stage}

/-- The links that are read from a text are in normal form. -/
theorem areNormal_stageAfterText (e : Entry) (root : Option Path) (stat : FileStat)
    (text : String) : AreNormal (stageAfterText e root stat text).links := by
  rw [stageAfterText]
  split
  · exact areNormal_nil
  · dsimp only
    split <;> exact areNormal_dependencies text e.path root

@[simp] theorem links_stageAfterBlock (stat : FileStat) (links : List Path) (blocks : List Block) :
    (stageAfterBlock stat links blocks).links = links := by
  rw [stageAfterBlock]
  split <;> rfl

/-- An answer leads a fetch on to links in normal form. -/
theorem areNormal_resume (normal : AreNormal f.stage.links) {e' : Entry}
    (h : f.resume e limit root a = (e', notices, .waiting stage)) : AreNormal stage.links := by
  unfold resume at h
  -- the links of a fetch are set when its text is read, and then stay
  split at h
  case h_1 => cases h
  case h_2 =>
      split at h
      · cases h
      · cases h
        exact areNormal_nil
  case h_3 => cases h
  case h_4 =>
      cases h
      exact areNormal_stageAfterText _ _ _ _
  case h_5 stat links blocks i result at_ =>
      rw [at_] at normal
      rw [afterParse] at h
      cases hf : fatal? e result with
      | some error =>
          rw [hf] at h
          cases h
      | none =>
          rw [hf] at h
          cases h
          rw [links_stageAfterBlock]
          exact normal
  case h_6 => split at h <;> cases h
  case h_7 =>
      cases h
      exact normal

end Fetch

namespace Entry

/-- Whether the links that an entry shows, if any, are the last that it has told. -/
def HasTold (e : Entry) : Prop :=
  e.dependencies = [] ∨ e.sent.getLast? = some (.fetchComplete e.dependencies)

variable {e d : Entry} {generation : Nat} {found : Finding}

/-- A fetch that begins keeps the links of an entry or drops them. -/
theorem dependencies_beginFetch (e : Entry) :
    e.beginFetch.dependencies = [] ∨ e.beginFetch.dependencies = e.dependencies := by
  rw [beginFetch]
  cases e.kind
  · exact .inl rfl
  · exact .inr rfl

/-- A disposal drops the links of an entry, unless it comes too late. -/
theorem dependencies_dispose (e : Entry) :
    e.dispose.dependencies = [] ∨ e.dispose = e := by
  rw [dispose]
  split
  · exact .inr rfl
  · exact .inl rfl

/-- An entry takes over what was found with its links, which it tells, or keeps those that it has.
-/
theorem dependencies_install (h : e.install generation found = .ok d) :
    d.dependencies = e.dependencies ∧ d.sent = e.sent ∨
      d.dependencies = found.dependencies ∧
        d.sent = e.sent ++ [.fetchComplete found.dependencies] := by
  rw [install] at h
  split at h
  · cases h
  · split at h
    · cases h
      exact .inl ⟨rfl, rfl⟩
    · dsimp only at h
      split at h
      · cases h
        exact .inr ⟨rfl, rfl⟩
      · cases h
        exact .inl ⟨rfl, rfl⟩

/-- An entry that installs links in normal form shows such. -/
theorem areNormal_install (normal : AreNormal e.dependencies)
    (normal' : AreNormal found.dependencies) (h : e.install generation found = .ok d) :
    AreNormal d.dependencies := by
  obtain ⟨eq, -⟩ | ⟨eq, -⟩ := dependencies_install h
  · rwa [eq]
  · rwa [eq]

theorem Turn.hasTold (h : e.Turn d) (told : e.HasTold) : d.HasTold := by
  cases h with
  | same => exact told
  | clear => exact .inl rfl
  | fetch =>
      rcases dependencies_beginFetch e with none | same
      · exact .inl none
      · rw [HasTold, same, sent_beginFetch]
        exact told
  | install generation found _ h =>
      rcases dependencies_install h with ⟨same, sent⟩ | ⟨new, sent⟩
      · rw [HasTold, same, sent]
        exact told
      · right
        rw [new, sent, List.getLast?_concat]
  | dispose =>
      rcases dependencies_dispose e with none | same
      · exact .inl none
      · rw [same]
        exact told

/-- An entry has told of the links that it shows, along all accesses. -/
theorem Turned.hasTold (h : e.Turned d) (told : e.HasTold) : d.HasTold := by
  induction h with
  | refl => exact told
  | tail _ turn ih => exact turn.hasTold ih

/-- What an entry has told is never taken back. -/
theorem Turned.sent_prefix (h : e.Turned d) : e.sent <+: d.sent := by
  induction h with
  | refl => exact List.prefix_refl _
  | tail _ turn ih => exact ih.trans turn.sent_prefix

/-- Who has heard as much as an entry has told by now has heard, last of all, its last event. -/
theorem Turned.last_of_receive? (h : e.Turned d) {seen : Nat} {event : EntryEvent}
    (received : e.receive? seen = some (event, d.sent.length)) : d.sent.getLast? = some event := by
  obtain ⟨told, untold, sent, length⟩ := receive?_some received
  obtain ⟨later, eq⟩ := h.sent_prefix
  have whole := congrArg List.length eq
  simp only [sent, List.length_append, List.length_cons] at whole
  obtain ⟨rfl, rfl⟩ : untold = [] ∧ later = [] :=
    ⟨List.length_eq_zero_iff.mp (by omega), List.length_eq_zero_iff.mp (by omega)⟩
  rw [← eq, sent, List.append_nil, List.getLast?_concat]

end Entry

end SelectorCatalog
