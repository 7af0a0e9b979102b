/-!
# Hexadecimal numbers
-/

namespace SelectorCatalog.Text

/-- The hexadecimal digits. -/
def isHex (c : Char) : Bool :=
  c.isDigit || ('a' ≤ c && c ≤ 'f') || ('A' ≤ c && c ≤ 'F')

/-- The value of a hexadecimal digit. -/
def hexValue (c : Char) : Nat :=
  if c.isDigit then c.toNat - '0'.toNat
  else if 'a' ≤ c then c.toNat - 'a'.toNat + 10
  else c.toNat - 'A'.toNat + 10

/-- The number that a row of digits writes in a base. -/
def number (base : Nat) (digits : List Char) : Nat :=
  digits.foldl (fun n d => base * n + hexValue d) 0

end SelectorCatalog.Text
