import Mathlib.Data.Finset.Card
import SelectorCatalog.Index
import SelectorCatalog.Proofs.Text.Ascii

/-!
# What the names of an index say

The names of an index are read off the names that were added to it. Under every key stand the
classes that were added under a tag with this key, each once and in the order of their first
addition, and the ids stand likewise (`Names.Reads`). Every addition preserves this (`Reads.add`),
and it determines the number of names (`Reads.size_eq`).
-/

namespace SelectorCatalog

/-- Nothing is kept twice. -/
theorem nodup_insertNew [DecidableEq α] {kept : List α} (h : kept.Nodup) (x : α) :
    (insertNew x kept).Nodup := by
  rw [insertNew]
  split
  · exact h
  · next new =>
      rw [List.nodup_append]
      refine ⟨h, List.pairwise_singleton _ _, ?_⟩
      rintro y hy _ hz rfl
      exact new (List.contains_iff_mem.mpr (List.mem_singleton.mp hz ▸ hy))

/-- The members of `added`, each once, in the order in which they first occur there. -/
structure Firsts [DecidableEq α] (kept added : List α) : Prop where
  nodup : kept.Nodup
  mem_iff : ∀ x, x ∈ kept ↔ x ∈ added
  ordered : kept.Pairwise fun x y => added.idxOf x < added.idxOf y

namespace Firsts

variable [DecidableEq α] {kept added : List α}

theorem nil : Firsts ([] : List α) [] :=
  ⟨.nil, fun _ => .rfl, .nil⟩

/-- What is kept are the first occurrences of what was added. -/
theorem insertNew (h : Firsts kept added) (x : α) : Firsts (insertNew x kept) (added ++ [x]) := by
  have ordered : kept.Pairwise fun y z => (added ++ [x]).idxOf y < (added ++ [x]).idxOf z := by
    refine h.ordered.imp_of_mem fun hy hz lt => ?_
    rwa [List.idxOf_append_of_mem ((h.mem_iff _).mp hy),
      List.idxOf_append_of_mem ((h.mem_iff _).mp hz)]
  have nodup := nodup_insertNew h.nodup x
  by_cases mem : x ∈ kept
  · rw [SelectorCatalog.insertNew, if_pos (List.contains_iff_mem.mpr mem)]
    refine ⟨h.nodup, fun y => ?_, ordered⟩
    rw [h.mem_iff, List.mem_append, List.mem_singleton]
    exact ⟨.inl, fun hy => hy.elim id fun eq => eq ▸ (h.mem_iff x).mp mem⟩
  · rw [SelectorCatalog.insertNew, if_neg (mt List.contains_iff_mem.mp mem)] at nodup ⊢
    refine ⟨nodup, fun y => by simp [h.mem_iff], List.pairwise_append.mpr
      ⟨ordered, List.pairwise_singleton _ _, fun y hy z hz => ?_⟩⟩
    -- what is new comes after all that was added before
    obtain rfl := List.mem_singleton.mp hz
    have hy' := (h.mem_iff y).mp hy
    rw [List.idxOf_append_of_mem hy', List.idxOf_append_of_notMem (mt (h.mem_iff _).mpr mem)]
    exact Nat.lt_of_lt_of_le (List.idxOf_lt_length_of_mem hy') (Nat.le_add_right _ _)

/-- The number of members, each counted once. -/
theorem length_eq (h : Firsts kept added) : kept.length = added.toFinset.card := by
  rw [← List.toFinset_card_of_nodup h.nodup]
  congr 1
  ext x
  simp [h.mem_iff]

/-- What is searched for stays in order. -/
theorem search (h : Firsts kept added) (p : α → Bool) :
    (kept.filter p).Nodup ∧
      (kept.filter p).Pairwise (fun x y => added.idxOf x < added.idxOf y) ∧
      ∀ x, x ∈ kept.filter p ↔ x ∈ added ∧ p x = true :=
  ⟨h.nodup.filter p, h.ordered.filter p, fun x => by rw [List.mem_filter, h.mem_iff]⟩

end Firsts

/-! ## Keys of tags -/

/-- Whether a tag stands for any element. -/
def IsAnyTag (tag : Option String) : Prop :=
  tag = none ∨ tag = some "" ∨ tag = some "*"

/-- Whether two tags stand for the same elements. -/
def SameTag (s t : Option String) : Prop :=
  IsAnyTag s ∧ IsAnyTag t ∨ ∃ a b, s = some a ∧ t = some b ∧ Text.eqIgnoreAsciiCase a b = true

/-- The key of any tag is that of tags that mean all. -/
theorem tagKey_eq_anyTag {tag : Option String} : tagKey tag = anyTag ↔ IsAnyTag tag := by
  cases tag with
  | none => simp [tagKey, IsAnyTag]
  | some tag =>
      by_cases star : tag = "*"
      · simp [tagKey, IsAnyTag, star]
      · simp [tagKey, IsAnyTag, star, anyTag]

/-- Any other tag has its own name for a key, up to case. -/
theorem tagKey_of_not_isAnyTag {tag : Option String} (h : ¬IsAnyTag tag) :
    ∃ name, tag = some name ∧ tagKey tag = Text.asciiLower name := by
  cases tag with
  | none => exact absurd (.inl rfl) h
  | some name =>
      have star : name ≠ "*" := fun eq => h (.inr (.inr (by rw [eq])))
      exact ⟨name, rfl, by simp [tagKey, star]⟩

/-- No other spelling of a tag stands for any element. -/
theorem eq_of_isAnyTag {a b : String} (h : IsAnyTag (some a))
    (same : Text.eqIgnoreAsciiCase a b = true) : a = b := by
  rw [Text.eqIgnoreAsciiCase, beq_iff_eq] at same
  rcases h with h | h | h
  · cases h
  · cases h
    exact (Text.asciiLower_eq_empty.mp (same.symm.trans (Text.asciiLower_eq_empty.mpr rfl))).symm
  · cases h
    exact (Text.asciiLower_eq_star.mp (same.symm.trans (Text.asciiLower_eq_star.mpr rfl))).symm

/-- Tags have one key when they stand for the same elements. -/
theorem tagKey_eq_iff {s t : Option String} : tagKey s = tagKey t ↔ SameTag s t := by
  -- a tag that stands for any tag has one key
  by_cases hs : IsAnyTag s
  · rw [tagKey_eq_anyTag.mpr hs, eq_comm, tagKey_eq_anyTag]
    refine ⟨fun ht => .inl ⟨hs, ht⟩, ?_⟩
    rintro (⟨-, ht⟩ | ⟨a, b, rfl, rfl, same⟩)
    · exact ht
    · exact eq_of_isAnyTag hs same ▸ hs
  · constructor
    · intro eq
      have ht : ¬IsAnyTag t := mt tagKey_eq_anyTag.mpr (eq ▸ mt tagKey_eq_anyTag.mp hs)
      obtain ⟨a, rfl, ha⟩ := tagKey_of_not_isAnyTag hs
      obtain ⟨b, rfl, hb⟩ := tagKey_of_not_isAnyTag ht
      exact .inr ⟨a, b, rfl, rfl, by simpa [Text.eqIgnoreAsciiCase, ← ha, ← hb] using eq⟩
    · rintro (⟨h, -⟩ | ⟨a, b, rfl, rfl, same⟩)
      · exact absurd h hs
      · have same' : Text.eqIgnoreAsciiCase b a = true := by
          rw [Text.eqIgnoreAsciiCase, beq_iff_eq] at same ⊢
          exact same.symm
        -- equal up to case, so neither stands for any tag
        have ht : ¬IsAnyTag (some b) := fun h => hs (eq_of_isAnyTag h same' ▸ h)
        obtain ⟨_, ⟨⟩, ha⟩ := tagKey_of_not_isAnyTag hs
        obtain ⟨_, ⟨⟩, hb⟩ := tagKey_of_not_isAnyTag ht
        rw [ha, hb]
        simpa [Text.eqIgnoreAsciiCase] using same

/-- A missing tag has the key of the empty one. -/
theorem tagKey_getD (tag : Option String) : tagKey (some (tag.getD anyTag)) = tagKey tag := by
  cases tag <;> simp [tagKey, anyTag]

/-! ## Names -/

/-- The classes among `classes` that were added under a tag with that key, in order. -/
def classesUnder (key : String) (classes : List (Option String × String)) : List String :=
  (classes.filter fun p => tagKey p.1 == key).map (·.2)

/-- The classes under a key are those whose tag has it. -/
theorem mem_classesUnder {key name : String} {classes : List (Option String × String)} :
    name ∈ classesUnder key classes ↔ ∃ tag, (tag, name) ∈ classes ∧ tagKey tag = key := by
  simp [classesUnder]

/-- Those of two lists follow each other. -/
theorem classesUnder_append (key : String) (xs ys : List (Option String × String)) :
    classesUnder key (xs ++ ys) = classesUnder key xs ++ classesUnder key ys := by
  simp [classesUnder]

/-- The class that a candidate declares, with its tag. -/
def Candidate.class? : Candidate → Option (Option String × String)
  | .class tag name => some (some tag, name)
  | .id _ => none

/-- The id that a candidate declares. -/
def Candidate.id? : Candidate → Option String
  | .class _ _ => none
  | .id name => some name

namespace Names

variable {names : Names} {classes : List (Option String × String)} {ids : List String}

/-- The names are those that were added, `classes` with their tags and `ids`, in this order. -/
structure Reads (names : Names) (classes : List (Option String × String)) (ids : List String) :
    Prop where
  keys : (names.classes.map (·.1)).Nodup
  bucket : ∀ key, Firsts (names.bucket key) (classesUnder key classes)
  ids : Firsts names.ids ids

theorem reads_empty : empty.Reads [] [] :=
  ⟨.nil, fun _ => .nil, .nil⟩

/-- An insertion under a key is seen under this key only. -/
theorem bucket_insertUnder (key name k : String) (kept : List (String × List String)) :
    bucket ⟨insertUnder key name kept, ids⟩ k =
      if k = key then insertNew name (bucket ⟨kept, ids⟩ k) else bucket ⟨kept, ids⟩ k := by
  induction kept with
  | nil =>
      by_cases h : k = key
      · simp [insertUnder, bucket, insertNew, h]
      · simp [insertUnder, bucket, h, Ne.symm h]
  | cons p rest ih =>
      obtain ⟨key', names⟩ := p
      simp only [bucket] at ih
      by_cases h : key' = key <;> by_cases h' : key' = k <;> by_cases h'' : k = key <;>
        simp_all [insertUnder, bucket]

/-- A new key comes last, and none comes twice. -/
theorem keys_insertUnder (key name : String) (kept : List (String × List String)) :
    (insertUnder key name kept).map (·.1) = insertNew key (kept.map (·.1)) := by
  induction kept with
  | nil => rfl
  | cons p rest ih =>
      obtain ⟨k, names⟩ := p
      by_cases h : k = key
      · simp [insertUnder, insertNew, h]
      · by_cases mem : key ∈ rest.map (·.1) <;>
          simp_all [insertUnder, insertNew, Ne.symm h]

/-- The classes with their keys. -/
def pairs (names : Names) : List (String × String) :=
  names.classes.flatMap fun p => p.2.map (p.1, ·)

theorem length_pairs (names : Names) :
    names.pairs.length = (names.classes.flatMap (·.2)).length := by
  simp [pairs, List.length_flatMap]

/-- With each key once, every class that is kept is found under its key. -/
theorem bucket_of_mem (keys : (names.classes.map (·.1)).Nodup) {key : String} {kept : List String}
    (mem : (key, kept) ∈ names.classes) : names.bucket key = kept := by
  have found : names.classes.find? (·.1 == key) = some (key, kept) := by
    obtain ⟨before, after, eq⟩ := List.append_of_mem mem
    rw [eq, List.map_append, List.map_cons, List.nodup_append] at keys
    rw [eq, List.find?_append]
    have none : before.find? (·.1 == key) = none := by
      rw [List.find?_eq_none]
      rintro p hp same
      exact keys.2.2 _ (List.mem_map_of_mem hp) key (by simp) (beq_iff_eq.mp same)
    simp [none]
  rw [bucket, found]
  rfl

/-- A class is in a bucket when it is paired with the key. -/
theorem mem_bucket (keys : (names.classes.map (·.1)).Nodup) {key name : String} :
    name ∈ names.bucket key ↔ (key, name) ∈ names.pairs := by
  rw [pairs, List.mem_flatMap]
  constructor
  · intro mem
    rw [bucket] at mem
    cases found : names.classes.find? (·.1 == key) with
    | none => simp [found] at mem
    | some p =>
        obtain rfl : p.1 = key := by simpa using List.find?_some found
        refine ⟨p, List.mem_of_find?_eq_some found, List.mem_map.mpr ⟨name, ?_, rfl⟩⟩
        simpa [found] using mem
  · rintro ⟨⟨key', kept⟩, mem, hp⟩
    obtain ⟨name', hn, eq⟩ := List.mem_map.mp hp
    cases eq
    rwa [bucket_of_mem keys mem]

namespace Reads

/-- A class is read in under its tag. -/
theorem addClass (h : names.Reads classes ids) (tag : Option String) (name : String) :
    (names.add (.class (tag.getD anyTag) name)).Reads (classes ++ [(tag, name)]) ids where
  keys := by
    show ((insertUnder _ name names.classes).map (·.1)).Nodup
    rw [keys_insertUnder]
    exact nodup_insertNew h.keys _
  bucket key := by
    show Firsts (Names.bucket ⟨insertUnder _ name names.classes, names.ids⟩ key) _
    rw [bucket_insertUnder, tagKey_getD, classesUnder_append]
    by_cases same : key = tagKey tag
    · rw [if_pos same]
      simpa [classesUnder, same] using (h.bucket key).insertNew name
    · rw [if_neg same]
      simpa [classesUnder, Ne.symm same] using h.bucket key
  ids := h.ids

/-- An id is read in. -/
theorem addId (h : names.Reads classes ids) (name : String) :
    (names.add (.id name)).Reads classes (ids ++ [name]) :=
  ⟨h.keys, h.bucket, h.ids.insertNew name⟩

/-- Candidates are read in one after another. -/
theorem add (h : names.Reads classes ids) (candidates : List Candidate) :
    (candidates.foldl Names.add names).Reads (classes ++ candidates.filterMap Candidate.class?)
      (ids ++ candidates.filterMap Candidate.id?) := by
  induction candidates generalizing names classes ids with
  | nil => simpa using h
  | cons candidate rest ih =>
      cases candidate with
      | «class» tag name =>
          simpa [List.filterMap_cons, Candidate.class?, Candidate.id?] using
            ih (h.addClass (some tag) name)
      | id name =>
          simpa [List.filterMap_cons, Candidate.class?, Candidate.id?] using ih (h.addId name)

/-- The pairs are the keys of the tags with the classes that were read. -/
theorem mem_pairs (h : names.Reads classes ids) {key name : String} :
    (key, name) ∈ names.pairs ↔ ∃ tag, (tag, name) ∈ classes ∧ tagKey tag = key := by
  rw [← mem_classesUnder, ← (h.bucket key).mem_iff, mem_bucket h.keys]

/-- No class is paired twice with one key. -/
theorem nodup_pairs (h : names.Reads classes ids) : names.pairs.Nodup := by
  rw [pairs, List.nodup_flatMap]
  constructor
  · rintro ⟨key, kept⟩ mem
    have nodup := (h.bucket key).nodup
    rw [bucket_of_mem h.keys mem] at nodup
    exact nodup.map fun _ _ eq => (Prod.mk.inj eq).2
  · refine (List.pairwise_map.mp h.keys).imp fun ne => ?_
    rintro p hp hq
    obtain ⟨_, -, rfl⟩ := List.mem_map.mp hp
    obtain ⟨_, -, eq⟩ := List.mem_map.mp hq
    exact ne (Prod.mk.inj eq).1.symm

/-- The classes are counted once for each key, the ids once. -/
theorem size_eq (h : names.Reads classes ids) :
    names.size = (classes.map fun p => (tagKey p.1, p.2)).toFinset.card + ids.toFinset.card := by
  have pairs : names.pairs.toFinset = (classes.map fun p => (tagKey p.1, p.2)).toFinset := by
    ext ⟨key, name⟩
    simp [h.mem_pairs, and_comm]
  rw [Names.size, ← length_pairs, ← List.toFinset_card_of_nodup h.nodup_pairs, pairs,
    h.ids.length_eq]

end Reads

end Names

/-! ## The names that rules declare -/

/-- The classes that a compound offers are those that can be recovered. -/
theorem Compound.class_mem_candidates {cases : CaseIndex} {c : Compound} {tag name : String} :
    .class tag name ∈ c.candidates cases ↔
      tag = c.tag ∧ ∃ n ∈ c.classes, cases.classes.recover n = some name := by
  simp only [candidates, List.mem_append, Option.mem_toList, Option.map_eq_some_iff, reduceCtorEq,
    and_false, exists_false, false_or, List.mem_map, List.mem_filterMap, Candidate.class.injEq]
  constructor
  · rintro ⟨_, declared, rfl, rfl⟩
    exact ⟨rfl, declared⟩
  · rintro ⟨rfl, declared⟩
    exact ⟨name, declared, rfl, rfl⟩

/-- The ids that a compound offers are those that can be recovered. -/
theorem Compound.id_mem_candidates {cases : CaseIndex} {c : Compound} {name : String} :
    .id name ∈ c.candidates cases ↔ ∃ n ∈ c.id, cases.ids.recover n = some name := by
  simp [candidates, Option.bind_eq_some_iff]

/-- The classes that rules offer are those of their compounds. -/
theorem mem_candidates_class {rules : List Rule} {source name : String} {tag : Option String} :
    (tag, name) ∈ (candidates rules source).filterMap Candidate.class? ↔
      ∃ c ∈ (Rule.flattenStyles rules).flatMap Compound.scan, tag = some c.tag ∧
        ∃ n ∈ c.classes, (CaseIndex.build source).classes.recover n = some name := by
  rw [candidates, List.mem_filterMap]
  constructor
  · rintro ⟨candidate, mem, eq⟩
    obtain ⟨c, hc, mem⟩ := List.mem_flatMap.mp mem
    cases candidate with
    | «class» tag' name' =>
        cases eq
        obtain ⟨rfl, declared⟩ := Compound.class_mem_candidates.mp mem
        exact ⟨c, hc, rfl, declared⟩
    | id => cases eq
  · rintro ⟨c, hc, rfl, declared⟩
    exact ⟨.class c.tag name,
      List.mem_flatMap.mpr ⟨c, hc, Compound.class_mem_candidates.mpr ⟨rfl, declared⟩⟩, rfl⟩

/-- The classes that rules declare under a key. -/
theorem mem_classesUnder_candidates {rules : List Rule} {source key name : String} :
    name ∈ classesUnder key ((candidates rules source).filterMap Candidate.class?) ↔
      ∃ c ∈ (Rule.flattenStyles rules).flatMap Compound.scan, tagKey (some c.tag) = key ∧
        ∃ n ∈ c.classes, (CaseIndex.build source).classes.recover n = some name := by
  simp only [mem_classesUnder, mem_candidates_class]
  constructor
  · rintro ⟨_, ⟨c, mem, rfl, declared⟩, under⟩
    exact ⟨c, mem, under, declared⟩
  · rintro ⟨c, mem, under, declared⟩
    exact ⟨_, ⟨c, mem, rfl, declared⟩, under⟩

/-- The ids that rules offer are those of their compounds. -/
theorem mem_candidates_id {rules : List Rule} {source name : String} :
    name ∈ (candidates rules source).filterMap Candidate.id? ↔
      ∃ c ∈ (Rule.flattenStyles rules).flatMap Compound.scan,
        ∃ n ∈ c.id, (CaseIndex.build source).ids.recover n = some name := by
  rw [candidates, List.mem_filterMap]
  constructor
  · rintro ⟨candidate, mem, eq⟩
    obtain ⟨c, hc, mem⟩ := List.mem_flatMap.mp mem
    cases candidate with
    | «class» => cases eq
    | id name' =>
        cases eq
        exact ⟨c, hc, Compound.id_mem_candidates.mp mem⟩
  · rintro ⟨c, hc, declared⟩
    exact ⟨.id name, List.mem_flatMap.mpr ⟨c, hc, Compound.id_mem_candidates.mpr declared⟩, rfl⟩

/-- What rules bring into an empty index: of every compound the classes, under the key of its tag,
and the id, in the spelling of their author. -/
theorem exists_names_addRules (rules : List Rule) (source : String) :
    ∃ names, SelectorIndex.empty.addRules rules source = .live names ∧
      (∀ key name, name ∈ names.bucket key ↔
        ∃ c ∈ (Rule.flattenStyles rules).flatMap Compound.scan, tagKey (some c.tag) = key ∧
          ∃ n ∈ c.classes, (CaseIndex.build source).classes.recover n = some name) ∧
      ∀ name, name ∈ names.ids ↔
        ∃ c ∈ (Rule.flattenStyles rules).flatMap Compound.scan,
          ∃ n ∈ c.id, (CaseIndex.build source).ids.recover n = some name := by
  have reads := Names.reads_empty.add (candidates rules source)
  refine ⟨_, rfl, fun key name => ?_, fun name => ?_⟩
  · rw [(reads.bucket key).mem_iff, List.nil_append, mem_classesUnder_candidates]
  · rw [reads.ids.mem_iff, List.nil_append, mem_candidates_id]

end SelectorCatalog
