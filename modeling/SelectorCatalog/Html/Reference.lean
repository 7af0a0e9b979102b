import SelectorCatalog.Html.Reference.Listing
import SelectorCatalog.Text.Hex
import SelectorCatalog.Text.Split
import Std.Data.HashMap

/-!
# Character references

A document can write a character by its number (`&#233;`, `&#xE9;`) or by its name (`&eacute;`).
Some names are known without their semicolon; in the value of an attribute such a name counts only
where it cannot be the beginning of a longer word. An ampersand that starts no reference stands for
itself.
-/

namespace SelectorCatalog.Html.Reference

open Text (isHex number)

/-- The character that stands for what cannot be represented. -/
def replacement : Char := Char.ofNat 0xFFFD

/-- The characters that the numbers from 128 on stand for, as long as they are in use for controls;
zero where the number keeps its meaning. -/
def controls : List Nat :=
  [0x20AC, 0, 0x201A, 0x0192, 0x201E, 0x2026, 0x2020, 0x2021, 0x02C6, 0x2030, 0x0160, 0x2039,
    0x0152, 0, 0x017D, 0, 0, 0x2018, 0x2019, 0x201C, 0x201D, 0x2022, 0x2013, 0x2014, 0x02DC, 0x2122,
    0x0161, 0x203A, 0x0153, 0, 0x017E, 0x0178]

/-- The character that a number refers to. -/
def charOfNumber (n : Nat) : Char :=
  if n == 0 || 0x10FFFF < n || (0xD800 ≤ n && n ≤ 0xDFFF) then replacement
  else if 0x80 ≤ n && n ≤ 0x9F then
    match controls[n - 0x80]? with
    | some 0 | none => Char.ofNat n
    | some m => Char.ofNat m
  else Char.ofNat n

/-- The text of code points written in hexadecimal and joined by plus signs. -/
def textOfCodes (codes : List Char) : List Char :=
  (Text.split (· == '+') codes).map fun digits => Char.ofNat (number 16 digits)

/-- An entry of the listing as a name and its text. -/
def entry (s : List Char) : String × List Char :=
  (String.ofList (s.takeWhile (· != '=')), textOfCodes ((s.dropWhile (· != '=')).drop 1))

/-- The texts of all names. -/
def named : Std.HashMap String (List Char) :=
  Std.HashMap.ofList ((Text.words listing.toList).map entry)

/-- The texts of the names that need no semicolon. -/
def namedBare : Std.HashMap String (List Char) :=
  Std.HashMap.ofList ((Text.words bare.toList).filterMap fun name =>
    (named[String.ofList name]?).map fun text => (String.ofList name, text))

/-- The length of the longest name. -/
def longestName : Nat := 32

/-- The longest beginning, of at most `n` characters, that is a name known without its semicolon. -/
def longestBare (word : List Char) : Nat → Option (List Char × Nat)
  | 0 => none
  | n + 1 =>
    match namedBare[String.ofList (word.take (n + 1))]? with
    | some text => some (text, n + 1)
    | none => longestBare word n

/-- Drops a semicolon in front. -/
def skipSemicolon : List Char → List Char
  | ';' :: rest => rest
  | s => s

/-- Reads a number after `&#`. -/
def readNumber (base : Nat) (isDigit : Char → Bool) (s : List Char) :
    Option (List Char × List Char) :=
  let digits := s.takeWhile isDigit
  if digits.isEmpty then none
  else some ([charOfNumber (number base digits)], skipSemicolon (s.dropWhile isDigit))

/-- Whether the name before `rest` could be the beginning of a longer word. -/
def goesOn : List Char → Bool
  | c :: _ => c == '=' || c.isAlphanum
  | [] => false

/-- Reads a name after `&`. -/
def readName (inAttribute : Bool) (s : List Char) : Option (List Char × List Char) :=
  let word := (s.take longestName).takeWhile Char.isAlphanum
  let after := s.drop word.length
  let whole := if after.head? == some ';' then named[String.ofList word]? else none
  match whole with
  | some text => some (text, after.drop 1)
  | none =>
    match longestBare word word.length with
    | some (text, n) => if inAttribute && goesOn (s.drop n) then none else some (text, s.drop n)
    | none => none

/-- Reads a reference, its ampersand already read: the text that it stands for and what follows it.
-/
def read (inAttribute : Bool) : List Char → Option (List Char × List Char)
  | '#' :: 'x' :: rest => readNumber 16 isHex rest
  | '#' :: 'X' :: rest => readNumber 16 isHex rest
  | '#' :: rest => readNumber 10 Char.isDigit rest
  | s => readName inAttribute s

theorem length_skipSemicolon_le (s : List Char) : (skipSemicolon s).length ≤ s.length := by
  unfold skipSemicolon
  split <;> simp

theorem length_readNumber_le {base : Nat} {isDigit : Char → Bool} {s text rest : List Char}
    (h : readNumber base isDigit s = some (text, rest)) : rest.length ≤ s.length := by
  simp only [readNumber] at h
  split at h
  · cases h
  · cases h
    exact Nat.le_trans (length_skipSemicolon_le _) (List.dropWhile_suffix _).length_le

theorem length_readName_le {inAttribute : Bool} {s text rest : List Char}
    (h : readName inAttribute s = some (text, rest)) : rest.length ≤ s.length := by
  simp only [readName] at h
  split at h
  · cases h; simp
  · split at h
    · split at h
      · cases h
      · cases h; simp
    · cases h

/-- What follows a reference is no longer than the reference and what follows it. -/
theorem length_read_le {inAttribute : Bool} {s text rest : List Char}
    (h : read inAttribute s = some (text, rest)) : rest.length ≤ s.length := by
  unfold read at h
  split at h
  · have := length_readNumber_le h; simp; omega
  · have := length_readNumber_le h; simp; omega
  · have := length_readNumber_le h; simp; omega
  · exact length_readName_le h

/-- A text with its references replaced by what they stand for. -/
def decode (inAttribute : Bool) (s : List Char) : List Char :=
  match s with
  | [] => []
  | c :: rest =>
    if c == '&' then
      match h : read inAttribute rest with
      | some (text, after) =>
        have := length_read_le h
        text ++ decode inAttribute after
      | none => c :: decode inAttribute rest
    else c :: decode inAttribute rest
termination_by s.length
decreasing_by
  · exact Nat.lt_succ_of_le this
  · exact Nat.lt_succ_self _
  · exact Nat.lt_succ_self _

end SelectorCatalog.Html.Reference
