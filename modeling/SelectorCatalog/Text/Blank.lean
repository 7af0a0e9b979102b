/-!
# Blank characters

Blanks separate the compounds of a selector and are trimmed from link targets. A blank is any
character with the Unicode property `White_Space`, so no-break and ideographic spaces count as well.
-/

namespace SelectorCatalog.Text

/-- Characters with the Unicode property `White_Space`. -/
def isBlank (c : Char) : Bool :=
  let n := c.toNat
  (9 ≤ n && n ≤ 13) || n == 0x20 || n == 0x85 || n == 0xA0 || n == 0x1680 ||
    (0x2000 ≤ n && n ≤ 0x200A)
    || n == 0x2028 || n == 0x2029 || n == 0x202F || n == 0x205F || n == 0x3000

/-- A text without its leading blanks. -/
def trimStart (s : List Char) : List Char :=
  s.dropWhile isBlank

/-- A text without its trailing blanks. -/
def trimEnd (s : List Char) : List Char :=
  (s.reverse.dropWhile isBlank).reverse

/-- A text without its leading and trailing blanks. -/
def trim (s : List Char) : List Char :=
  trimEnd (trimStart s)

end SelectorCatalog.Text
