import Mathlib.Logic.Relation
import SelectorCatalog.Entry.Receiver
import SelectorCatalog.Entry.Fetch

/-!
# What may become of an entry

An entry takes a turn when a fetch is started on it or installs what it found, when it is cleared
and when it is disposed of. No turn changes the file that the entry is of, and what the entry tells
on a turn is said by `Turn.told`: nothing, its disposal, or the links of a document.

It follows that every entry is `Honest`: its disposal is the last that it tells, and a stylesheet
tells nothing else.
-/

namespace SelectorCatalog.Entry

/-- What may become of an entry. -/
inductive Turn (e : Entry) : Entry → Prop where
  | same : Turn e e
  | fetch : e.isDisposed = false → Turn e e.beginFetch
  | install {d : Entry} (generation : Nat) (found : Finding) : found.index.isDisposed = false →
      e.install generation found = .ok d → Turn e d
  | clear : Turn e e.clear
  | dispose : Turn e e.dispose

/-- What may become of an entry in the course of time. -/
def Turned : Entry → Entry → Prop :=
  Relation.ReflTransGen Turn

/-- Entries of which each may have taken a turn. -/
def Turns (es ds : List Entry) : Prop :=
  ds.length = es.length ∧ ∀ (id : EntryId) (e : Entry), es[id]? = some e → ∃ d : Entry,
    ds[id]? = some d ∧ e.Turn d

/-- Entries of which some may have been disposed of. -/
def Disposals (es ds : List Entry) : Prop :=
  ds.length = es.length ∧
    ∀ (id : EntryId) (e : Entry), es[id]? = some e → ds[id]? = some e ∨ ds[id]? = some e.dispose

/-- Disposal is the last that an entry tells, and a stylesheet tells nothing else. -/
structure Honest (e : Entry) : Prop where
  live : e.isDisposed = false → .disposed ∉ e.sent
  last : e.isDisposed = true → ∃ told, e.sent = told ++ [.disposed] ∧ .disposed ∉ told
  css : e.kind = .css → ∀ x ∈ e.sent, x = .disposed

variable {e d : Entry} {es ds : List Entry}

/-! ## One turn -/

/-- A cleared entry is as live as it was. -/
theorem isDisposed_clear (e : Entry) : e.clear.isDisposed = e.isDisposed := by
  show e.index.clear.isDisposed = e.index.isDisposed
  cases e.index <;> rfl

/-- A fetch that begins leaves an entry as live as it was. -/
theorem isDisposed_beginFetch (e : Entry) : e.beginFetch.isDisposed = e.isDisposed := by
  rw [beginFetch]
  cases e.kind
  · exact isDisposed_clear _
  · rfl

/-- A fetch that begins tells nothing. -/
theorem sent_beginFetch (e : Entry) : e.beginFetch.sent = e.sent := by
  rw [beginFetch]
  cases e.kind <;> rfl

/-- An entry that takes nothing in is disposed of. -/
theorem isDisposed_of_refused {generation : Nat} {found : Finding} {error : Error}
    (h : e.install generation found = .error error) : e.isDisposed = true := by
  rw [Entry.install] at h
  split at h
  · assumption
  · split at h
    · cases h
    · dsimp only at h
      split at h <;> cases h

/-- A turn changes neither the kind nor the path nor the scope. -/
theorem Turn.file (h : e.Turn d) : d.kind = e.kind ∧ d.path = e.path ∧ d.scope = e.scope := by
  cases h with
  | same | clear => exact ⟨rfl, rfl, rfl⟩
  | fetch => rcases e with ⟨_ | _⟩ <;> exact ⟨rfl, rfl, rfl⟩
  | install generation found _ h =>
      rw [Entry.install] at h
      split at h
      · cases h
      · split at h
        · cases h
          exact ⟨rfl, rfl, rfl⟩
        · dsimp only at h
          split at h <;> cases h <;> exact ⟨rfl, rfl, rfl⟩
  | dispose =>
      rw [Entry.dispose]
      split <;> exact ⟨rfl, rfl, rfl⟩

/-- What is told on a turn. -/
theorem Turn.told (h : e.Turn d) :
    (d.isDisposed = e.isDisposed ∧ d.sent = e.sent) ∨
      (e.isDisposed = false ∧ d.isDisposed = true ∧ d.sent = e.sent ++ [.disposed]) ∨
      (e.isDisposed = false ∧ d.isDisposed = false ∧ e.kind = .html ∧
        ∃ links, d.sent = e.sent ++ [.fetchComplete links]) := by
  cases h with
  | same => exact .inl ⟨rfl, rfl⟩
  | clear => exact .inl ⟨isDisposed_clear e, rfl⟩
  | fetch => exact .inl ⟨isDisposed_beginFetch e, sent_beginFetch e⟩
  | install generation found live h =>
      rw [Entry.install] at h
      split at h
      · cases h
      · next up =>
          have up : e.isDisposed = false := Bool.eq_false_iff.mpr up
          split at h
          · cases h
            exact .inl ⟨rfl, rfl⟩
          · dsimp only at h
            split at h
            · next html =>
                cases h
                exact .inr (.inr ⟨up, live, html, found.dependencies, rfl⟩)
            · cases h
              exact .inl ⟨live.trans up.symm, rfl⟩
  | dispose =>
      cases up : e.isDisposed with
      | true => exact .inl (by simp [Entry.dispose, up])
      | false => exact .inr (.inl ⟨rfl, isDisposed_dispose e, by simp [Entry.dispose, up, send]⟩)

/-- A disposal is told at most. -/
theorem sent_dispose (e : Entry) :
    e.dispose.sent = e.sent ∨ e.dispose.sent = e.sent ++ [.disposed] := by
  obtain ⟨-, sent⟩ | ⟨-, -, sent⟩ | ⟨-, live, -⟩ := (Turn.dispose : e.Turn e.dispose).told
  · exact .inl sent
  · exact .inr sent
  · cases live.symm.trans (isDisposed_dispose e)

/-- A disposed entry stays disposed of and tells nothing more. -/
theorem Turn.frozen (h : e.Turn d) (gone : e.isDisposed = true) :
    d.isDisposed = true ∧ d.sent = e.sent := by
  obtain ⟨same, sent⟩ | ⟨live, -⟩ | ⟨live, -⟩ := h.told
  · exact ⟨same.trans gone, sent⟩
  · exact absurd gone (by simp [live])
  · exact absurd gone (by simp [live])

/-- What an entry has told is never taken back. -/
theorem Turn.sent_prefix (h : e.Turn d) : e.sent <+: d.sent := by
  obtain ⟨-, sent⟩ | ⟨-, -, sent⟩ | ⟨-, -, -, links, sent⟩ := h.told
  · exact ⟨[], by rw [sent, List.append_nil]⟩
  · exact ⟨_, sent.symm⟩
  · exact ⟨_, sent.symm⟩

/-- A new entry is honest: it has told of nothing. -/
theorem honest_new (kind : EntryKind) (path : Path) (scope : Scope) :
    Honest { kind := kind, path := path, scope := scope } where
  live _ := by simp
  last h := by cases h
  css _ := by simp

/-- An honest entry stays so with each access. -/
theorem Turn.honest (h : e.Turn d) (honest : e.Honest) : d.Honest := by
  obtain ⟨kind, -, -⟩ := h.file
  obtain ⟨same, sent⟩ | ⟨live, gone, sent⟩ | ⟨live, live', html, links, sent⟩ := h.told
  · constructor
    · rw [same, sent]
      exact honest.live
    · rw [same, sent]
      exact honest.last
    · rw [kind, sent]
      exact honest.css
  · constructor
    · rw [gone]
      exact fun h => by cases h
    · exact fun _ => ⟨e.sent, sent, honest.live live⟩
    · rw [kind, sent]
      intro css x hx
      rcases List.mem_append.mp hx with hx | hx
      · exact honest.css css x hx
      · exact List.mem_singleton.mp hx
  · constructor
    · rw [sent]
      intro _ hx
      rcases List.mem_append.mp hx with hx | hx
      · exact honest.live live hx
      · cases List.mem_singleton.mp hx
    · rw [live']
      exact fun h => by cases h
    · rw [kind, html]
      exact fun h => by cases h

/-! ## Turns of several entries -/

theorem Turns.refl (es : List Entry) : Turns es es :=
  ⟨rfl, fun _ e h => ⟨e, h, .same⟩⟩

/-- One entry takes a turn. -/
theorem Turns.set {id : EntryId} (h : es[id]? = some e) (t : e.Turn d) :
    Turns es (es.set id d) := by
  refine ⟨List.length_set, fun i x hx => ?_⟩
  rw [List.getElem?_set]
  by_cases hi : id = i
  · subst hi
    obtain rfl := Option.some.inj (h.symm.trans hx)
    exact ⟨d, by rw [if_pos rfl, if_pos (List.getElem?_eq_some_iff.mp h).1], t⟩
  · exact ⟨x, by rw [if_neg hi, hx], .same⟩

/-- One entry takes a turn, if it is there. -/
theorem Turns.modify (es : List Entry) (id : EntryId) {f : Entry → Entry}
    (t : ∀ e : Entry, e.Turn (f e)) : Turns es (es.modify id f) := by
  refine ⟨List.length_modify .., fun i x hx => ?_⟩
  rw [List.getElem?_modify, hx]
  by_cases hi : id = i
  · exact ⟨f x, by simp [hi], t x⟩
  · exact ⟨x, by simp [hi], .same⟩

/-- Every entry after the turns comes from one before them. -/
theorem Turns.origin (h : Turns es ds) {id : EntryId} (hd : ds[id]? = some d) :
    ∃ e : Entry, es[id]? = some e ∧ e.Turn d := by
  obtain ⟨lt, -⟩ := List.getElem?_eq_some_iff.mp hd
  obtain ⟨e, he⟩ : ∃ e, es[id]? = some e := ⟨_, List.getElem?_eq_getElem (h.1 ▸ lt)⟩
  obtain ⟨d', hd', turn⟩ := h.2 id e he
  obtain rfl := Option.some.inj (hd.symm.trans hd')
  exact ⟨_, he, turn⟩

theorem Disposals.refl (es : List Entry) : Disposals es es :=
  ⟨rfl, fun _ _ h => .inl h⟩

/-- Several disposals are disposals. -/
theorem Disposals.trans {fs : List Entry} (h : Disposals es ds) (h' : Disposals ds fs) :
    Disposals es fs := by
  refine ⟨h'.1.trans h.1, fun i x hx => ?_⟩
  rcases h.2 i x hx with hd | hd
  · exact h'.2 i x hd
  · rcases h'.2 i _ hd with hf | hf
    · exact .inr hf
    · exact .inr (by rw [hf, dispose_dispose])

/-- One entry is disposed of, if it is there. -/
theorem Disposals.modify (es : List Entry) (id : EntryId) :
    Disposals es (es.modify id Entry.dispose) := by
  refine ⟨List.length_modify .., fun i x hx => ?_⟩
  rw [List.getElem?_modify, hx]
  by_cases hi : id = i
  · exact .inr (by simp [hi])
  · exact .inl (by simp [hi])

/-- A disposal is a turn. -/
theorem Disposals.turns (h : Disposals es ds) : Turns es ds := by
  refine ⟨h.1, fun id e he => ?_⟩
  rcases h.2 id e he with hd | hd
  · exact ⟨e, hd, .same⟩
  · exact ⟨e.dispose, hd, .dispose⟩

/-! ## Hearing -/

/-- What is heard next has been told. -/
theorem receive?_some {seen seen' : Nat} {event : EntryEvent}
    (h : e.receive? seen = some (event, seen')) :
    ∃ told untold, e.sent = told ++ event :: untold ∧ told.length + 1 = seen' := by
  obtain ⟨x, hx, hp⟩ := Option.map_eq_some_iff.mp h
  cases hp
  obtain ⟨lt, rfl⟩ := List.getElem?_eq_some_iff.mp hx
  refine ⟨e.sent.take (e.oldest seen), e.sent.drop (e.oldest seen + 1), ?_, ?_⟩
  · rw [List.getElem_cons_drop, List.take_append_drop]
  · rw [List.length_take, Nat.min_eq_left (Nat.le_of_lt lt)]

/-- What a receiver hears was told. -/
theorem receive?_mem {seen seen' : Nat} {event : EntryEvent}
    (h : e.receive? seen = some (event, seen')) : event ∈ e.sent := by
  obtain ⟨told, untold, sent, -⟩ := receive?_some h
  simp [sent]

/-- A receiver does not hear more than was told. -/
theorem receive?_le {seen seen' : Nat} {event : EntryEvent}
    (h : e.receive? seen = some (event, seen')) : seen' ≤ e.sent.length := by
  obtain ⟨told, untold, sent, rfl⟩ := receive?_some h
  rw [sent, List.length_append, List.length_cons]
  omega

/-- Who hears the links of a disposed document has its disposal before him. -/
theorem Honest.lt_of_receive? (honest : e.Honest) (gone : e.isDisposed = true) {seen seen' : Nat}
    {links : List Path} (h : e.receive? seen = some (.fetchComplete links, seen')) :
    seen' < e.sent.length := by
  obtain ⟨told, untold, sent, rfl⟩ := receive?_some h
  obtain ⟨before, last, -⟩ := honest.last gone
  rw [sent] at last ⊢
  cases untold with
  | nil => cases List.append_inj_right' last rfl
  | cons =>
      rw [List.length_append, List.length_cons, List.length_cons]
      omega

/-- Who hears of a disposal hears it of a disposed entry. -/
theorem Honest.isDisposed_of_receive? (honest : e.Honest) {seen seen' : Nat}
    (h : e.receive? seen = some (.disposed, seen')) : e.isDisposed = true := by
  cases live : e.isDisposed with
  | true => rfl
  | false => exact absurd (receive?_mem h) (honest.live live)

/-- What is heard next is what could be heard first. -/
theorem receive?_mem_unheard {seen seen' : Nat} {event : EntryEvent}
    (h : e.receive? seen = some (event, seen')) : event ∈ e.unheard seen := by
  rw [receive?_eq_head?_unheard] at h
  obtain ⟨x, hx, eq⟩ := Option.map_eq_some_iff.mp h
  cases eq
  exact List.mem_of_mem_head? hx

/-- A receiver that hears something gets on. -/
theorem receive?_seen_lt {seen seen' : Nat} {event : EntryEvent}
    (h : e.receive? seen = some (event, seen')) : seen < seen' := by
  obtain ⟨x, -, eq⟩ := Option.map_eq_some_iff.mp h
  cases eq
  exact Nat.lt_succ_of_le (Nat.le_max_left _ _)

/-- Who goes on has less before him. -/
theorem mem_unheard_of_le {seen seen' : Nat} (le : seen ≤ seen') {event : EntryEvent}
    (h : event ∈ e.unheard seen') : event ∈ e.unheard seen := by
  have le' : e.oldest seen ≤ e.oldest seen' := by
    rw [oldest, oldest]
    omega
  exact List.drop_subset_drop_left _ le' h

/-- The disposal of an entry brings no links. -/
theorem links_unheard_of_disposal {seen : Nat} {links : List Path}
    (sent : d.sent = e.sent ∨ d.sent = e.sent ++ [.disposed])
    (h : .fetchComplete links ∈ d.unheard seen) : .fetchComplete links ∈ e.unheard seen := by
  rcases sent with sent | sent
  · rwa [unheard, oldest, sent] at h
  · have le : e.oldest seen ≤ d.oldest seen := by
      rw [oldest, oldest, sent, List.length_append]
      omega
    rw [unheard, sent] at h
    replace h := List.drop_subset_drop_left _ le h
    rw [List.drop_append] at h
    rcases List.mem_append.mp h with h | h
    · exact h
    · cases List.mem_singleton.mp (List.mem_of_mem_drop h)

/-- Links come from live documents alone. -/
theorem Turn.links_unheard (h : e.Turn d) (no : e.kind = .html → e.isDisposed = true) {seen : Nat}
    {links : List Path} (mem : .fetchComplete links ∈ d.unheard seen) :
    .fetchComplete links ∈ e.unheard seen := by
  obtain ⟨-, sent⟩ | ⟨-, -, sent⟩ | ⟨live, -, html, -⟩ := h.told
  · exact links_unheard_of_disposal (.inl sent) mem
  · exact links_unheard_of_disposal (.inr sent) mem
  · cases live.symm.trans (no html)

/-- Who has not heard everything has something to hear. -/
theorem receive?_isSome {seen : Nat} (h : seen < e.sent.length) : (e.receive? seen).isSome := by
  have lt : e.oldest seen < e.sent.length := by
    rw [oldest, capacity]
    omega
  rw [receive?, List.getElem?_eq_getElem lt]
  rfl

end SelectorCatalog.Entry
