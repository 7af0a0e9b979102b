/-!
# Tables of characters

Properties and mappings of characters beyond ASCII are data: a class of characters is a list of code
point intervals, a mapping a list of runs that shift every member by the same amount.
-/

namespace SelectorCatalog.Text

/-- A closed interval of code points. -/
abbrev CharRange := Nat × Nat

/-- Whether a code point lies in one of the intervals. -/
def inRanges (table : List CharRange) (n : Nat) : Bool :=
  table.any fun r => decide (r.1 ≤ n) && decide (n ≤ r.2)

/-- A run of code points `first, first + step, …, last`, all shifted by `delta`. -/
structure ShiftRun where
  first : Nat
  last : Nat
  step : Nat
  delta : Int
deriving DecidableEq, Repr

/-- Whether the run moves `n`. -/
def ShiftRun.covers (run : ShiftRun) (n : Nat) : Bool :=
  decide (run.first ≤ n) && decide (n ≤ run.last) && (n - run.first) % run.step == 0

/-- The image of a character under the first run that covers it; other characters stay. -/
def shift (table : List ShiftRun) (c : Char) : Char :=
  match table.find? (·.covers c.toNat) with
  | some run => Char.ofNat (Int.toNat (c.toNat + run.delta))
  | none => c

end SelectorCatalog.Text
