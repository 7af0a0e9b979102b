import SelectorCatalog.Config.Value
import SelectorCatalog.Text.Hex

/-!
# Numbers and dates in TOML

Whole numbers may be signed or stand in base 16, 8 or 2; digits may be grouped by single
underscores. Of numbers with a fraction and of dates only the form counts, since no setting takes
them.
-/

namespace SelectorCatalog.Config.Toml

open Text (isHex number)

/-- The part of a text that `p` holds of, where single underscores may stand between two such
characters. -/
def grouped (p : Char → Bool) : List Char → List Char × List Char
  | '_' :: d :: rest =>
    if p d then
      let (more, rest) := grouped p rest
      (d :: more, rest)
    else ([], '_' :: d :: rest)
  | d :: rest =>
    if p d then
      let (more, rest) := grouped p rest
      (d :: more, rest)
    else ([], d :: rest)
  | [] => ([], [])

/-- Reads grouped digits, at least one of them. -/
def digits? (p : Char → Bool) : List Char → Option (List Char × List Char)
  | d :: rest =>
    if p d then
      let (more, rest) := grouped p rest
      some (d :: more, rest)
    else none
  | [] => none

/-- Reads a sign, if there is one: whether it is a minus. -/
def sign : List Char → Bool × List Char
  | '-' :: rest => (true, rest)
  | '+' :: rest => (false, rest)
  | s => (false, s)

/-- Reads the digits of a decimal number, which has no leading zero. -/
def decimal? : List Char → Option (List Char × List Char)
  | '0' :: rest => some (['0'], rest)
  | s => digits? Char.isDigit s

/-- The value of a whole number that fits into 64 bits. -/
def whole? (n : Int) : Option Value :=
  if Int64.minValue.toInt ≤ n && n ≤ Int64.maxValue.toInt then some (.whole n) else none

/-- Reads a whole number in a base given by its mark. -/
def based? (base : Nat) (p : Char → Bool) (s : List Char) : Option (Value × List Char) := do
  let (digits, rest) ← digits? p s
  let value ← whole? (number base digits)
  return (value, rest)

/-- Skips an exponent; `none` when there is none. -/
def exponent? : List Char → Option (List Char)
  | 'e' :: rest => (digits? Char.isDigit (sign rest).2).map (·.2)
  | 'E' :: rest => (digits? Char.isDigit (sign rest).2).map (·.2)
  | _ => none

/-- Skips the fraction or exponent of a number; `none` when it has neither. -/
def fraction? : List Char → Option (List Char)
  | '.' :: rest => (digits? Char.isDigit rest).map fun (_, rest) => (exponent? rest).getD rest
  | s => exponent? s

/-- Reads a decimal number. -/
def signed? (s : List Char) : Option (Value × List Char) := do
  let (negative, rest) := sign s
  let (digits, rest) ← decimal? rest
  match fraction? rest with
  | some rest => return (.other, rest)
  | none =>
    let n : Int := number 10 digits
    let value ← whole? (if negative then -n else n)
    return (value, rest)

/-- Skips a word. -/
def skipWord? (word : String) (s : List Char) : Option (List Char) :=
  if word.toList.isPrefixOf s then some (s.drop word.length) else none

/-- Reads infinity or the value that is no number. -/
def special? (s : List Char) : Option (Value × List Char) :=
  let rest := (sign s).2
  ((skipWord? "inf" rest).or (skipWord? "nan" rest)).map fun rest => (.other, rest)

/-! ## Dates -/

/-- Reads a number of exactly `count` digits that lies within bounds. -/
def fixed? (count low high : Nat) (s : List Char) : Option (Nat × List Char) :=
  let digits := s.take count
  let n := number 10 digits
  if digits.length == count && digits.all Char.isDigit && low ≤ n && n ≤ high then
    some (n, s.drop count)
  else none

/-- Skips one given character. -/
def skipChar? (c : Char) : List Char → Option (List Char)
  | d :: rest => if d == c then some rest else none
  | [] => none

/-- The number of days of a month. -/
def daysIn (year month : Nat) : Nat :=
  if month == 2 then
    if year % 4 == 0 && (year % 100 != 0 || year % 400 == 0) then 29 else 28
  else if [4, 6, 9, 11].contains month then 30 else 31

/-- Skips a day of a year. -/
def skipDate? (s : List Char) : Option (List Char) := do
  let (year, s) ← fixed? 4 0 9999 s
  let s ← skipChar? '-' s
  let (month, s) ← fixed? 2 1 12 s
  let s ← skipChar? '-' s
  let (_, s) ← fixed? 2 1 (daysIn year month) s
  return s

/-- Skips the fraction of a second, if there is one. -/
def skipSecondFraction (s : List Char) : List Char :=
  match s with
  | '.' :: d :: rest => if d.isDigit then rest.dropWhile Char.isDigit else s
  | _ => s

/-- Skips a time of a day. -/
def skipTime? (s : List Char) : Option (List Char) := do
  let (_, s) ← fixed? 2 0 23 s
  let s ← skipChar? ':' s
  let (_, s) ← fixed? 2 0 59 s
  let s ← skipChar? ':' s
  let (_, s) ← fixed? 2 0 60 s
  return skipSecondFraction s

/-- Skips the distance of a time from universal time; `none` when there is none. -/
def skipOffset? : List Char → Option (List Char)
  | 'Z' :: rest => some rest
  | 'z' :: rest => some rest
  | c :: rest =>
    if c == '+' || c == '-' then do
      let (_, s) ← fixed? 2 0 23 rest
      let s ← skipChar? ':' s
      let (_, s) ← fixed? 2 0 59 s
      return s
    else none
  | [] => none

/-- Skips the time that may follow a day. -/
def skipTimeOfDate (s : List Char) : List Char :=
  match s with
  | c :: rest =>
    if c == 'T' || c == 't' || c == ' ' then
      match skipTime? rest with
      | some rest => (skipOffset? rest).getD rest
      | none => s
    else s
  | [] => s

/-- Reads a date, a time or both. -/
def date? (s : List Char) : Option (Value × List Char) :=
  ((skipDate? s).map skipTimeOfDate).or (skipTime? s) |>.map fun rest => (.other, rest)

/-- Reads a number or a date. -/
def numberOrDate? (s : List Char) : Option (Value × List Char) :=
  match s with
  | '0' :: 'x' :: rest => based? 16 isHex rest
  | '0' :: 'o' :: rest => based? 8 (fun c => '0' ≤ c && c ≤ '7') rest
  | '0' :: 'b' :: rest => based? 2 (fun c => c == '0' || c == '1') rest
  | _ => (date? s).or ((special? s).or (signed? s))

end SelectorCatalog.Config.Toml
