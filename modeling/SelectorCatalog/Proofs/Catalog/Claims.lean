import Mathlib.Data.List.Sort
import SelectorCatalog.Proofs.Catalog.Search

/-!
# The order of registration

A slot is claimed by an ask, and gets the next number. `claimsAlong` lists what is claimed along a
list of events, in the order of the claims; `roll` reads the same list off the slots of a state
(`roll_eq_claimsAlong`), since no slot is ever given up or given to another path.

Of these claims the listing of stylesheets keeps those that are registered and built, in their order
(`Sound.stylesheetPaths_eq`). So it neither matters when a construction ends nor what becomes of
other slots, and a path that was removed is listed where it was claimed anew
(`stylesheetPaths_in_order_of_claims`).
-/

namespace SelectorCatalog.Catalog

open Job (Stage Act)

/-- A slot and the path that it was claimed for. -/
structure Claimed where
  slot : SlotId
  path : Path
deriving DecidableEq, Repr

/-- What an ask claims, if the path is free. -/
def Ask.claimed? (a : Ask) : Option Claimed :=
  match a.claim with
  | .fresh slot => some ⟨slot, a.path⟩
  | _ => none

/-- What is claimed along a list of events, in the order of the claims. -/
def claimsAlong (c : Catalog) (events : List Event) : List Claimed :=
  (c.asksAlong events).filterMap Ask.claimed?

/-- Whether a slot is registered and holds a stylesheet that is built. -/
def lists (c : Catalog) (slot : SlotId) : Bool :=
  c.isRegistered slot && (c.sheetIn? slot).isSome

/-- Those of the claims whose slots are registered and hold stylesheets that are built. -/
def listed (c : Catalog) (claims : List Claimed) : List Claimed :=
  claims.filter fun k => c.lists k.slot

/-- The listing of stylesheets follows the order of claims. -/
structure ListsInOrder (c : Catalog) (claims : List Claimed) : Prop where
  /-- The claims are those of all slots, each claimed once. -/
  numbered : claims.map (·.slot) = List.range c.slots.length
  paths_eq : c.stylesheetPaths = (c.listed claims).map (·.path)
  /-- No place is listed twice, whatever was claimed for it before. -/
  apart : (c.listed claims).Pairwise fun k l => k.path.same l.path = false

variable {may : JobId → Act → Prop} {b c d : Catalog} {as : List Ask}
    {events early late : List Event}
  {event : Event} {k l : Claimed} {slot : SlotId} {path : Path}

/-- Claims are listed one after another. -/
theorem listed_append (c : Catalog) (ks ls : List Claimed) :
    c.listed (ks ++ ls) = c.listed ks ++ c.listed ls :=
  List.filter_append ..

/-! ## The roll of slots -/

/-- All slots with the paths that they were claimed for. -/
def roll (c : Catalog) : List Claimed :=
  c.keys.mapIdx fun slot path => ⟨slot, path⟩

/-- The roll holds each slot with its path. -/
theorem mem_roll : k ∈ c.roll ↔ c.keys[k.slot]? = some k.path := by
  rw [roll, List.mem_mapIdx, List.getElem?_eq_some_iff]
  constructor
  · rintro ⟨i, lt, rfl⟩
    exact ⟨lt, rfl⟩
  · rintro ⟨lt, eq⟩
    exact ⟨k.slot, lt, by rw [eq]⟩

/-- The roll goes through the slots in their order. -/
theorem map_slot_roll (c : Catalog) : c.roll.map (·.slot) = List.range c.slots.length := by
  refine List.ext_getElem (by simp [roll, keys]) fun i _ _ => ?_
  simp [roll]

/-- The roll depends on the paths of the slots alone. -/
theorem roll_congr (same : d.keys = c.keys) : d.roll = c.roll := by
  rw [roll, roll, same]

/-- Nothing but a claim adds to the roll. -/
theorem Move.keys_eq (h : Move unclaiming c d) : d.keys = c.keys := by
  cases h with
  | ambient _ _ slots => exact congrArg (List.map Slot.key) slots
  | claim kind leave => exact absurd rfl (leave kind)
  | @conclude _ f slot _ _ =>
      rw [keys, concluded_slots]
      exact keys_fill c slot f.entry
  | enlist | stage | join | entries | standalone | evict | hear | leave | retire => rfl

/-- Without claims the roll stays as it is. -/
theorem Moves.roll_eq (h : Moves unclaiming c d) : d.roll = c.roll :=
  roll_congr (h.keep (p := fun d => d.keys = c.keys) (fun _ _ eq move => move.keys_eq.trans eq) rfl)

/-- An ask adds to the roll what it claims. -/
theorem Ask.roll_next {a : Ask} {s : Stage} (hs : a.state.stage? a.job = some s)
    (isOpen : s.isOpen = true) : a.next.roll = a.state.roll ++ a.claimed?.toList := by
  cases found : a.state.find? a.path with
  | none =>
      have claims : a.claimed? = some ⟨a.state.slots.length, a.path⟩ := by
        rw [claimed?, claim_fresh_iff.mpr ⟨found, rfl⟩]
      rw [claims, next, createAt_of_none found, roll, keys, opened, List.map_append]
      simp [roll, keys]
  | some x =>
      have claims : a.claimed? = none := by
        rw [claimed?]
        split
        · next i fresh => cases (claim_fresh_iff.mp fresh).1.symm.trans found
        · rfl
      have quiet : Moves unclaiming a.state a.next :=
        moves_createAt (unclaiming_proceed _) (fun free => by cases free.symm.trans found)
          hs isOpen a.byPath
      rw [claims, quiet.roll_eq, Option.toList_none, List.append_nil]

/-- Asks put what they claim at the end of the roll. -/
theorem Through.roll_eq (h : Through c as d) : d.roll = c.roll ++ as.filterMap Ask.claimed? := by
  induction h with
  | last moves => rw [moves.roll_eq, List.filterMap_nil, List.append_nil]
  | @ask c d a as s moves hs isOpen _ ih =>
      rw [ih, Ask.roll_next hs isOpen, moves.roll_eq, List.append_assoc]
      cases h : a.claimed? <;> simp [h]

/-- An event adds to the roll what its asks claim. -/
theorem roll_step? (step : c.step? event = some d) :
    d.roll = c.roll ++ (c.asks event).filterMap Ask.claimed? := by
  by_cases stop : ∃ i, event = .stopChecker i
  · obtain ⟨i, rfl⟩ := stop
    cases step
    have slots : (c.stopChecker i).slots = c.slots := by
      rw [stopChecker]
      split <;> rfl
    exact (roll_congr (congrArg (List.map Slot.key) slots)).trans (List.append_nil _).symm
  · exact (step?_through step fun i eq => stop ⟨i, eq⟩).roll_eq

/-- A run adds to the roll what is claimed along it. -/
theorem roll_of_run (run : Run c events d) : d.roll = c.roll ++ c.claimsAlong events := by
  induction run with
  | nil => exact (List.append_nil _).symm
  | cons step _ ih =>
      rw [ih, roll_step? step, claimsAlong, claimsAlong, asksAlong, step, List.filterMap_append,
        List.append_assoc]

/-- The roll of a run is what was claimed along it. -/
theorem roll_eq_claimsAlong {config : Config} {clock : Time}
    (run : Run (new config clock) events c) : c.roll = (new config clock).claimsAlong events :=
  roll_of_run run

/-- The claims of two runs follow each other. -/
theorem claimsAlong_append (run : Run c early d) :
    c.claimsAlong (early ++ late) = c.claimsAlong early ++ d.claimsAlong late := by
  rw [claimsAlong, asksAlong_append run, List.filterMap_append]
  rfl

/-! ## What is registered was claimed -/

/-- The registered slots stand in the order in which they were claimed. -/
theorem Sound.registered_eq (sound : Sound c) :
    c.registered = (List.range c.slots.length).filter c.isRegistered := by
  refine sound.registered.sorted.eq_of_mem_iff (List.pairwise_lt_range.filter _) fun i => ?_
  have lt := sound.registered.lt i
  simp only [keys, List.length_map] at lt
  simp only [List.mem_filter, List.mem_range, isRegistered, List.contains_iff_mem]
  exact ⟨fun mem => ⟨lt mem, mem⟩, fun h => h.2⟩

/-! ## The listing -/

/-- A slot is listed when it is registered and holds a stylesheet. -/
theorem lists_iff :
    c.lists slot = true ↔ slot ∈ c.registered ∧ (c.sheetIn? slot).isSome = true := by
  rw [lists, Bool.and_eq_true, isRegistered, List.contains_iff_mem]

/-- The path of the stylesheet in a slot is the one that the slot was claimed for. -/
theorem Sound.pathIn?_eq (sound : Sound c) (claimed : k ∈ c.roll) :
    ((c.sheetIn? k.slot).bind fun id => (c.entries[id]?).map (·.path)) =
      if (c.sheetIn? k.slot).isSome then some k.path else none := by
  cases held : c.sheetIn? k.slot with
  | none => rfl
  | some id =>
      obtain ⟨s, hs, -, filled⟩ := sheetIn?_eq_some.mp held
      obtain ⟨-, e, -, -, he, -, -, path⟩ := sound.filled hs filled
      have key : s.key = k.path := by
        have key := mem_roll.mp claimed
        rw [keys, List.getElem?_map, hs] at key
        exact Option.some.inj key
      simp [he, path, key]

/-- The paths that are listed are those of the claims that are registered and built. -/
theorem Sound.stylesheetPaths_eq (sound : Sound c) :
    c.stylesheetPaths = (c.listed c.roll).map (·.path) := by
  rw [stylesheetPaths, stylesheets_eq, List.filterMap_filterMap, sound.registered_eq,
    ← map_slot_roll, List.filter_map, List.filterMap_map, List.filterMap_filter, listed,
    ← List.filterMap_eq_map, List.filterMap_filter]
  refine List.filterMap_congr fun k claimed => ?_
  simp only [Function.comp_apply, sound.pathIn?_eq claimed, lists, Bool.and_eq_true]
  split <;> simp_all

/-- No two listed claims are for the same place. -/
theorem Sound.pairwise_listed (sound : Sound c) :
    (c.listed c.roll).Pairwise fun k l => k.path.same l.path = false := by
  have ordered : c.roll.Pairwise fun k l => k.slot < l.slot := by
    have range := List.pairwise_lt_range (n := c.slots.length)
    rwa [← map_slot_roll, List.pairwise_map] at range
  refine (ordered.filter _).imp_of_mem fun {k l} hk hl lt => Bool.eq_false_iff.mpr fun same => ?_
  obtain ⟨claimed, lists⟩ := List.mem_filter.mp hk
  obtain ⟨claimed', lists'⟩ := List.mem_filter.mp hl
  exact Nat.ne_of_lt lt (sound.registered.apart (lists_iff.mp lists).1 (lists_iff.mp lists').1
    (mem_roll.mp claimed) (mem_roll.mp claimed') same)

/-- What was claimed before some time and is listed is found at its path all that time. -/
theorem find?_of_listed (run : Run b late c) (listed : k ∈ c.listed b.roll) :
    b.find? k.path ≠ none := by
  obtain ⟨claimed, lists⟩ := List.mem_filter.mp listed
  have there := (List.getElem?_eq_some_iff.mp (mem_roll.mp claimed)).1
  rw [keys, List.length_map] at there
  have mem := mem_registered_of_run run (lists_iff.mp lists).1 there
  intro free
  have differs := find?_none free _ mem _ (mem_roll.mp claimed)
  simp [Path.same_iff.mpr] at differs

/-- Any run, and any state on its way. The stylesheets are listed in the order in which their slots
were claimed, whatever became of other slots and whenever the constructions ended: first those that
were claimed before that state, then those that were claimed since. A path that was free in that
state is listed among the latter. -/
theorem stylesheetPaths_in_order_of_claims {config : Config} {clock : Time}
    (first : Run (new config clock) early b) (rest : Run b late c) :
    c.ListsInOrder ((new config clock).claimsAlong (early ++ late)) ∧
      c.stylesheetPaths = (c.listed ((new config clock).claimsAlong early)).map (·.path) ++
        (c.listed (b.claimsAlong late)).map (·.path) ∧
      ∀ path ∈ c.stylesheetPaths, b.find? path = none →
        path ∉ (c.listed ((new config clock).claimsAlong early)).map (·.path) ∧
          path ∈ (c.listed (b.claimsAlong late)).map (·.path) := by
  have run := first.append rest
  have sound := (sound_of_run run).1
  have split : c.stylesheetPaths = (c.listed ((new config clock).claimsAlong early)).map (·.path) ++
      (c.listed (b.claimsAlong late)).map (·.path) := by
    rw [sound.stylesheetPaths_eq, roll_eq_claimsAlong run, claimsAlong_append first, listed_append,
      List.map_append]
  refine ⟨?_, split, fun path mem free => ?_⟩
  · rw [← roll_eq_claimsAlong run]
    exact ⟨map_slot_roll c, sound.stylesheetPaths_eq, sound.pairwise_listed⟩
  · have missing : path ∉ (c.listed ((new config clock).claimsAlong early)).map (·.path) := by
      rw [← roll_eq_claimsAlong first]
      rintro early
      obtain ⟨k, listed, rfl⟩ := List.mem_map.mp early
      exact find?_of_listed rest listed free
    rw [split] at mem
    exact ⟨missing, (List.mem_append.mp mem).resolve_left missing⟩

/-- Two stylesheets are asked for, and the second is there before the first. -/
def builtInReverse : List Event :=
  [.call (.create .css ⟨"/a.css"⟩ false), .call (.create .css ⟨"/b.css"⟩ false)] ++
    emptyFile 1 ++ emptyFile 0

/-- The first stylesheet is asked for again. -/
def createdAgain : List Event :=
  .call (.create .css ⟨"/a.css"⟩ false) :: emptyFile 2

/-- Stylesheets built in reverse are listed in the order of their claims, until one is removed and
created again. -/
theorem builtInReverse_in_order_of_claims :
    ∃ x b c, Run (new {} 0) builtInReverse x ∧ x.stylesheetPaths = [⟨"/a.css"⟩, ⟨"/b.css"⟩] ∧
      Run (new {} 0) (builtInReverse ++ [.remove ⟨"/a.css"⟩]) b ∧ Run b createdAgain c ∧
      c.stylesheetPaths = [⟨"/b.css"⟩, ⟨"/a.css"⟩] ∧
      ⟨"/a.css"⟩ ∈ (c.listed (b.claimsAlong createdAgain)).map (·.path) := by
  have built : ((new {} 0).replay? builtInReverse).map (·.stylesheetPaths) =
      some [⟨"/a.css"⟩, ⟨"/b.css"⟩] := by decide +kernel
  have again : (((new {} 0).replay? (builtInReverse ++ [.remove ⟨"/a.css"⟩])).bind fun b =>
      (b.replay? createdAgain).map fun c =>
        ((b.find? ⟨"/a.css"⟩).isNone, c.stylesheetPaths)) =
      some (true, [⟨"/b.css"⟩, ⟨"/a.css"⟩]) := by
    decide +kernel
  obtain ⟨x, hx, paths⟩ := Option.map_eq_some_iff.mp built
  obtain ⟨b, hb, again⟩ := Option.bind_eq_some_iff.mp again
  obtain ⟨c, hc, facts⟩ := Option.map_eq_some_iff.mp again
  obtain ⟨free, listed⟩ := Prod.mk.inj facts
  have first := run_iff_replay?.mpr hb
  have rest := run_iff_replay?.mpr hc
  obtain ⟨-, -, recreated⟩ := stylesheetPaths_in_order_of_claims first rest
  have later := (recreated ⟨"/a.css"⟩ (by simp [listed]) (Option.isNone_iff_eq_none.mp free)).2
  exact ⟨x, b, c, run_iff_replay?.mpr hx, paths, first, rest, listed, later⟩

end SelectorCatalog.Catalog
