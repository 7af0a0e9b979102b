import Mathlib.Data.List.DropRight
import Mathlib.Data.List.Induction
import SelectorCatalog.Proofs.Index.Names

/-!
# An index and its history

Indices are changed by calls, and copied. A `pool` starts with one empty index; every act is a call
on one of its indices or makes a copy of one. Each index has a history of calls of its own, which a
copy inherits, and `pool_means_its_histories` says what an index answers in terms of its history
alone: of the names added since it was last cleared, those that a search asks for, or nothing once
it has been disposed of.
-/

namespace SelectorCatalog.SelectorIndex

/-- A call that changes an index. -/
inductive Call where
  | addClass (name : String) (tag : Option String)
  | addId (name : String)
  | addRules (rules : List Rule) (source : String)
  | clear
  | dispose

namespace Call

/-- The classes that a call adds, with their tags, in order. -/
def classes : Call → List (Option String × String)
  | addClass name tag => [(tag, name)]
  | addRules rules source => (candidates rules source).filterMap Candidate.class?
  | addId _ | clear | dispose => []

/-- The ids that a call adds, in order. -/
def ids : Call → List String
  | addId name => [name]
  | addRules rules source => (candidates rules source).filterMap Candidate.id?
  | addClass .. | clear | dispose => []

/-- Whether a call empties an index. -/
def isClear : Call → Bool
  | clear => true
  | addClass .. | addId _ | addRules .. | dispose => false

end Call

/-- The index after a call. -/
def apply (index : SelectorIndex) : Call → SelectorIndex
  | .addClass name tag => index.addClass name tag
  | .addId name => index.addId name
  | .addRules rules source => index.addRules rules source
  | .clear => index.clear
  | .dispose => index.dispose

/-- What happens to a pool of indices. -/
inductive Act where
  /-- A call is made on the index of that number. -/
  | call (i : Nat) (c : Call)
  /-- The index of that number is copied. -/
  | clone (i : Nat)

/-- The pool after an act; a copy comes last. -/
def act (pool : List SelectorIndex) : Act → List SelectorIndex
  | .call i c => pool.modify i (·.apply c)
  | .clone i => pool ++ pool[i]?.toList

/-- The histories after an act: those of other indices are not concerned, and a copy has that of the
index it was made from. -/
def record (histories : List (List Call)) : Act → List (List Call)
  | .call i c => histories.modify i (· ++ [c])
  | .clone i => histories ++ histories[i]?.toList

/-- The indices that some acts lead to, beginning with an empty one. -/
def pool (acts : List Act) : List SelectorIndex :=
  acts.foldl act [.empty]

/-- The calls made on each of them. -/
def histories (acts : List Act) : List (List Call) :=
  acts.foldl record [[]]

/-- The calls since an index was last cleared. -/
def sinceClear (calls : List Call) : List Call :=
  calls.rtakeWhile fun c => !c.isClear

/-- The classes added since an index was last cleared, with their tags. -/
def classesAdded (calls : List Call) : List (Option String × String) :=
  (sinceClear calls).flatMap Call.classes

/-- The ids added since an index was last cleared. -/
def idsAdded (calls : List Call) : List String :=
  (sinceClear calls).flatMap Call.ids

/-- Whether a name has a query as a contiguous part, when case is ignored. -/
def Matches (query name : String) : Prop :=
  Text.fold query.toList <:+: Text.fold name.toList

/-- What an index answers after some calls. -/
structure Means (index : SelectorIndex) (calls : List Call) : Prop where
  /-- Nothing, once it has been disposed of. -/
  gone : .dispose ∈ calls → (∀ query tag ignore, index.searchClass query tag ignore = []) ∧
    (∀ query, index.searchId query = []) ∧ index.size = 0
  /-- The classes of a tag that match and are not ignored, each once, by their first addition. -/
  searchClass : .dispose ∉ calls → ∀ query tag ignore,
    (index.searchClass query tag ignore).Nodup ∧
    (index.searchClass query tag ignore).Pairwise (fun name name' =>
      (classesUnder (tagKey (some tag)) (classesAdded calls)).idxOf name <
        (classesUnder (tagKey (some tag)) (classesAdded calls)).idxOf name') ∧
    ∀ name, name ∈ index.searchClass query tag ignore ↔
      (∃ t, (t, name) ∈ classesAdded calls ∧ SameTag t (some tag)) ∧
        Matches query name ∧ name ∉ ignore
  /-- The ids that match, each once, by their first addition. -/
  searchId : .dispose ∉ calls → ∀ query, (index.searchId query).Nodup ∧
    (index.searchId query).Pairwise (fun name name' =>
      (idsAdded calls).idxOf name < (idsAdded calls).idxOf name') ∧
    ∀ name, name ∈ index.searchId query ↔ name ∈ idsAdded calls ∧ Matches query name
  /-- The number of different classes, counted for each tag, and of different ids. -/
  size : .dispose ∉ calls → index.size =
    ((classesAdded calls).map fun p => (tagKey p.1, p.2)).toFinset.card +
      (idsAdded calls).toFinset.card

/-! ## One index -/

/-- The index matches names as the specification does. -/
theorem matches_iff {query name : String} :
    Text.occursIgnoringCase query name = true ↔ Matches query name :=
  Text.occurs_iff _ _

/-- What counts are the calls since the last clear. -/
theorem sinceClear_append (calls : List Call) (c : Call) :
    sinceClear (calls ++ [c]) = if c.isClear then [] else sinceClear calls ++ [c] := by
  rw [sinceClear, List.rtakeWhile_concat]
  cases c <;> rfl

/-- The classes that were added since then. -/
theorem classesAdded_append (calls : List Call) (c : Call) :
    classesAdded (calls ++ [c]) = if c.isClear then [] else classesAdded calls ++ c.classes := by
  rw [classesAdded, sinceClear_append]
  split <;> simp [classesAdded]

/-- The ids that were added since then. -/
theorem idsAdded_append (calls : List Call) (c : Call) :
    idsAdded (calls ++ [c]) = if c.isClear then [] else idsAdded calls ++ c.ids := by
  rw [idsAdded, sinceClear_append]
  split <;> simp [idsAdded]

/-- A call on a live index. -/
theorem reads_apply {names : Names} {calls : List Call}
    (reads : names.Reads (classesAdded calls) (idsAdded calls)) {c : Call} (stays : c ≠ .dispose) :
    ∃ names', apply (.live names) c = .live names' ∧
      names'.Reads (classesAdded (calls ++ [c])) (idsAdded (calls ++ [c])) := by
  rw [classesAdded_append, idsAdded_append]
  cases c with
  | addClass name tag =>
      refine ⟨_, rfl, ?_⟩
      simpa [Call.isClear, Call.classes, Call.ids] using reads.addClass tag name
  | addId name =>
      refine ⟨_, rfl, ?_⟩
      simpa [Call.isClear, Call.classes, Call.ids] using reads.addId name
  | addRules rules source => exact ⟨_, rfl, reads.add (candidates rules source)⟩
  | clear => exact ⟨_, rfl, Names.reads_empty⟩
  | dispose => exact absurd rfl stays

/-- Calls on an empty index, unless it is disposed of. -/
theorem reads_foldl_apply {calls : List Call} (stays : .dispose ∉ calls) :
    ∃ names, calls.foldl apply .empty = .live names ∧
      names.Reads (classesAdded calls) (idsAdded calls) := by
  induction calls using List.reverseRecOn with
  | nil => exact ⟨.empty, rfl, Names.reads_empty⟩
  | append_singleton calls c ih =>
      simp only [List.mem_append, List.mem_singleton, not_or] at stays
      obtain ⟨names, eq, reads⟩ := ih stays.1
      rw [List.foldl_append, eq]
      exact reads_apply reads (Ne.symm stays.2)

/-- Nothing is called on an index that is disposed of. -/
theorem apply_disposed (c : Call) : apply .disposed c = .disposed := by
  cases c <;> rfl

/-- No call brings a disposed index back. -/
theorem foldl_apply_disposed (calls : List Call) : calls.foldl apply .disposed = .disposed := by
  induction calls with
  | nil => rfl
  | cons c calls ih => rw [List.foldl_cons, apply_disposed, ih]

/-- An index that was disposed of once is so in the end. -/
theorem foldl_apply_of_mem {calls : List Call} (gone : .dispose ∈ calls) (index : SelectorIndex) :
    calls.foldl apply index = .disposed := by
  obtain ⟨before, after, rfl⟩ := List.append_of_mem gone
  rw [List.foldl_append, List.foldl_cons]
  exact foldl_apply_disposed after

/-- An index means its history. -/
theorem means_foldl_apply (calls : List Call) : Means (calls.foldl apply .empty) calls where
  gone gone := by
    rw [foldl_apply_of_mem gone]
    exact ⟨fun _ _ _ => rfl, fun _ => rfl, rfl⟩
  searchClass stays query tag ignore := by
    obtain ⟨names, eq, reads⟩ := reads_foldl_apply stays
    obtain ⟨nodup, ordered, mem⟩ := (reads.bucket (tagKey (some tag))).search fun name =>
      !ignore.contains name && Text.occursIgnoringCase query name
    rw [eq]
    refine ⟨nodup, ordered, fun name => (mem name).trans ?_⟩
    simp only [mem_classesUnder, tagKey_eq_iff, Bool.and_eq_true, matches_iff, Bool.not_eq_true',
      List.contains_eq_mem, decide_eq_false_iff_not]
    exact Iff.and .rfl and_comm
  searchId stays query := by
    obtain ⟨names, eq, reads⟩ := reads_foldl_apply stays
    obtain ⟨nodup, ordered, mem⟩ := reads.ids.search (Text.occursIgnoringCase query)
    rw [eq]
    exact ⟨nodup, ordered, fun name => (mem name).trans (and_congr_right fun _ => matches_iff)⟩
  size stays := by
    obtain ⟨names, eq, reads⟩ := reads_foldl_apply stays
    rw [eq]
    exact reads.size_eq

/-! ## A pool of them -/

/-- An act on a pool is recorded in the histories of its indices. -/
theorem act_map (hs : List (List Call)) (a : Act) :
    act (hs.map fun calls => calls.foldl apply .empty) a =
      (record hs a).map fun calls => calls.foldl apply .empty := by
  cases a with
  | call i c =>
      refine List.ext_getElem? fun j => ?_
      simp only [act, record, List.getElem?_modify, List.getElem?_map]
      cases hs[j]? with
      | none => rfl
      | some calls => by_cases h : i = j <;> simp [h]
  | clone i =>
      simp only [act, record, List.map_append, List.getElem?_map]
      cases hs[i]? <;> rfl

/-- The pool holds what its histories have made. -/
theorem pool_eq (acts : List Act) :
    pool acts = (histories acts).map fun calls => calls.foldl apply .empty := by
  induction acts using List.reverseRecOn with
  | nil => rfl
  | append_singleton acts a ih =>
      rw [pool, histories, List.foldl_append, List.foldl_append]
      show act (pool acts) a = (record (histories acts) a).map _
      rw [ih, act_map]

/-- Whatever is done to a pool of indices, each of them answers what its own history says, and
nothing that happened to a copy of it, or to the one that it was copied from, afterwards. -/
theorem pool_means_its_histories (acts : List Act) :
    List.Forall₂ Means (pool acts) (histories acts) := by
  rw [pool_eq, List.forall₂_map_left_iff]
  exact List.forall₂_same.mpr fun calls _ => means_foldl_apply calls

/-- A copy goes its own way. -/
example : (pool [.call 0 (.addId "a"), .clone 0, .call 0 .clear, .call 1 (.addId "b")]).map
    (·.searchId "") = [[], ["a", "b"]] := by
  decide +kernel

end SelectorCatalog.SelectorIndex
