import SelectorCatalog.Css.Token
import SelectorCatalog.Text.Hex

/-!
# Cutting a stylesheet into tokens

Every text can be cut: what fits nowhere becomes a one-character token, and comments, strings and
brackets that are still open at the end of the text are closed there. A NUL character reads as
U+FFFD.
-/

namespace SelectorCatalog.Css.Lexer

open Text (isHex number)

/-- The character that stands for what cannot be represented. -/
def replacement : Char := Char.ofNat 0xFFFD

/-- A character with NUL replaced. -/
def sane (c : Char) : Char :=
  if c.toNat == 0 then replacement else c

/-- The characters that end a line. -/
def isNewline (c : Char) : Bool :=
  c == '\n' || c == '\r' || c == '\x0c'

/-- The characters of a blank token. -/
def isSpace (c : Char) : Bool :=
  c == ' ' || c == '\t' || isNewline c

/-- The characters that can start a name: letters, the underscore, NUL and everything beyond ASCII.
-/
def isNameStart (c : Char) : Bool :=
  c.isAlpha || c == '_' || c.toNat == 0 || 0x80 ≤ c.toNat

/-- The characters that can continue a name. -/
def isNameChar (c : Char) : Bool :=
  isNameStart c || c.isDigit || c == '-'

/-- The character with a code point; NUL, surrogates and what is out of range are replaced. -/
def charOfCode (n : Nat) : Char :=
  if n == 0 || (0xD800 ≤ n && n ≤ 0xDFFF) || 0x10FFFF < n then replacement else Char.ofNat n

/-- Skips one blank; a carriage return takes the line feed after it along. -/
def skipOneSpace : List Char → List Char
  | '\r' :: '\n' :: rest => rest
  | c :: rest => if isSpace c then rest else c :: rest
  | [] => []

/-- Reads what follows a backslash: up to six hexadecimal digits and one blank, or any one
character. -/
def escape (s : List Char) : Char × List Char :=
  match s with
  | [] => (replacement, [])
  | c :: rest =>
    if isHex c then
      let digits := (s.take 6).takeWhile isHex
      -- one blank behind the digits belongs to the escape
      (charOfCode (number 16 digits), skipOneSpace (s.drop digits.length))
    else (sane c, rest)

theorem length_skipOneSpace_le (s : List Char) : (skipOneSpace s).length ≤ s.length := by
  unfold skipOneSpace
  split
  · simp; omega
  · split <;> simp
  · simp

theorem length_escape_le (s : List Char) : (escape s).2.length ≤ s.length := by
  unfold escape
  split
  · simp
  · split
    · refine Nat.le_trans (length_skipOneSpace_le _) ?_
      simp only [List.length_drop]
      omega
    · simp

/-- Whether a backslash with this text behind it is an escape. -/
def isEscape (afterBackslash : List Char) : Bool :=
  match afterBackslash with
  | c :: _ => !isNewline c
  | [] => true

/-- Whether a text starts with an identifier. -/
def startsIdent (s : List Char) : Bool :=
  match s with
  | '-' :: c :: _ => isNameStart c || c == '-' || c == '\\'
  | '\\' :: rest => isEscape rest
  | c :: _ => isNameStart c
  | [] => false

/-- Reads the longest name that the text starts with, and the rest. -/
def name (s : List Char) : List Char × List Char :=
  match s with
  | [] => ([], [])
  | c :: rest =>
    if isNameChar c then
      let (more, rest) := name rest
      (sane c :: more, rest)
    else if c == '\\' && isEscape rest then
      have := length_escape_le rest
      let e := escape rest
      let (more, rest) := name e.2
      (e.1 :: more, rest)
    else ([], s)
termination_by s.length
decreasing_by
  · exact Nat.lt_succ_self _
  · exact Nat.lt_succ_of_le this

/-- Reads a string up to its closing quote; `none` in the first place when a line end breaks it off.
-/
def quoted (quote : Char) (s : List Char) : Option (List Char) × List Char :=
  match s with
  -- the end of the text closes the string
  | [] => (some [], [])
  | c :: rest =>
    if c == quote then (some [], rest)
    else if isNewline c then (none, s)
    else if c == '\\' then
      match rest with
      | [] => (some [], [])
      | d :: after =>
        -- an escaped line end is left out of the string
        if isNewline d then
          have := length_skipOneSpace_le (d :: after)
          quoted quote (skipOneSpace (d :: after))
        else
          have := length_escape_le (d :: after)
          let e := escape (d :: after)
          let (more, rest) := quoted quote e.2
          (more.map (e.1 :: ·), rest)
    else
      let (more, rest) := quoted quote rest
      (more.map (sane c :: ·), rest)
termination_by s.length
decreasing_by
  · exact Nat.lt_succ_of_le this
  · exact Nat.lt_succ_of_le this
  · exact Nat.lt_succ_self _

/-- The text of a comment, its opening already read, and what follows its end. -/
def comment : List Char → List Char × List Char
  | '*' :: '/' :: rest => ([], rest)
  | c :: rest =>
    let (more, rest) := comment rest
    (c :: more, rest)
  | [] => ([], [])

/-- The characters that cannot be printed. -/
def isUnprintable (c : Char) : Bool :=
  let n := c.toNat
  (1 ≤ n && n ≤ 8) || n == 0x0B || (0x0E ≤ n && n ≤ 0x1F) || n == 0x7F

/-- What follows a spoilt address: its closing parenthesis, unless escaped, ends it. -/
def afterBadUrl : List Char → List Char
  | ')' :: rest => rest
  | '\\' :: ')' :: rest => afterBadUrl rest
  | '\\' :: '\\' :: rest => afterBadUrl rest
  | _ :: rest => afterBadUrl rest
  | [] => []

/-- Reads an unquoted address to its end; `none` in the first place when it is spoilt. -/
def bareUrl (s : List Char) : Option (List Char) × List Char :=
  match s with
  | [] => (some [], [])
  | c :: rest =>
    if c == ')' then (some [], rest)
    else if isSpace c then
      match rest.dropWhile isSpace with
      | [] => (some [], [])
      | ')' :: rest => (some [], rest)
      | _ :: rest => (none, afterBadUrl rest)
    else if isUnprintable c || c == '"' || c == '\'' || c == '(' then (none, afterBadUrl rest)
    else if c == '\\' then
      if isEscape rest then
        have := length_escape_le rest
        let e := escape rest
        let (more, rest) := bareUrl e.2
        (more.map (e.1 :: ·), rest)
      else (none, afterBadUrl rest)
    else
      let (more, rest) := bareUrl rest
      (more.map (sane c :: ·), rest)
termination_by s.length
decreasing_by
  · exact Nat.lt_succ_of_le this
  · exact Nat.lt_succ_self _

/-- Reads what follows `url(`: an address, or a function when a quote comes first. -/
def urlToken (spelling : String) (s : List Char) : Token × List Char :=
  let body := s.dropWhile isSpace
  match body with
  -- the blanks stay in front of the quote, as the first argument of the function
  | '"' :: _ | '\'' :: _ => (.function spelling, s)
  | _ =>
    match bareUrl body with
    | (some value, rest) => (.url (String.ofList value), rest)
    | (none, rest) => (.badUrl "", rest)

/-- Reads a name and, when a parenthesis follows it, the opening of a function. -/
def identLike (s : List Char) : Token × List Char :=
  let (letters, rest) := name s
  let text := String.ofList letters
  match rest with
  | '(' :: rest =>
    if letters.map Char.toLower == "url".toList then urlToken text rest else (.function text, rest)
  | _ => (.ident text, rest)

/-- Whether a text starts with a number. -/
def startsNumber : List Char → Bool
  | '+' :: '.' :: c :: _ | '-' :: '.' :: c :: _ => c.isDigit
  | '+' :: c :: _ | '-' :: c :: _ | '.' :: c :: _ => c.isDigit
  | c :: _ => c.isDigit
  | [] => false

/-- Reads the fraction of a number, if there is one. -/
def fraction : List Char → Option (List Char) × List Char
  | '.' :: c :: rest =>
    if c.isDigit then
      (some ((c :: rest).takeWhile Char.isDigit), (c :: rest).dropWhile Char.isDigit)
    -- a point without a digit behind it is no fraction
    else (none, '.' :: c :: rest)
  | s => (none, s)

/-- Reads the exponent of a number, if there is one. -/
def exponent : List Char → Option (Option Char × List Char) × List Char
  | e :: sign :: c :: rest =>
    if e == 'e' || e == 'E' then
      if sign.isDigit then
        let s := sign :: c :: rest
        (some (none, s.takeWhile Char.isDigit), s.dropWhile Char.isDigit)
      else if (sign == '+' || sign == '-') && c.isDigit then
        let s := c :: rest
        (some (some sign, s.takeWhile Char.isDigit), s.dropWhile Char.isDigit)
      else (none, e :: sign :: c :: rest)
    else (none, e :: sign :: c :: rest)
  | [e, c] =>
    if (e == 'e' || e == 'E') && c.isDigit then (some (none, [c]), []) else (none, [e, c])
  | s => (none, s)

/-- Reads a number with its unit. -/
def numeric (s : List Char) : Token × List Char :=
  let (sign, s) := match s with
    | '+' :: rest => (some '+', rest)
    | '-' :: rest => (some '-', rest)
    | _ => (none, s)
  let whole := s.takeWhile Char.isDigit
  let (frac, s) := fraction (s.dropWhile Char.isDigit)
  let (expo, s) := exponent s
  let value : Numeral := ⟨sign, whole, frac, expo⟩
  match s with
  | '%' :: rest => (.percentage value, rest)
  | _ =>
    if startsIdent s then
      let (unit, rest) := name s
      (.dimension value (String.ofList unit), rest)
    else (.number value, s)

/-- Reads one token. -/
def token (c : Char) (rest : List Char) : Token × List Char :=
  let s := c :: rest
  if isSpace c then
    (.blank (String.ofList (s.takeWhile isSpace)), s.dropWhile isSpace)
  else if startsNumber s then numeric s
  else match c, rest with
    | '"', _ | '\'', _ =>
      match quoted c rest with
      | (some value, rest) => (.string (String.ofList value), rest)
      | (none, rest) => (.badString "", rest)
    | '#', _ =>
      if startsIdent rest then
        let (letters, rest) := name rest
        (.hash (String.ofList letters) true, rest)
      else if (rest.head?.map fun d => d.isDigit || d == '-').getD false then
        let (letters, rest) := name rest
        (.hash (String.ofList letters) false, rest)
      else (.delim c, rest)
    | '@', _ =>
      if startsIdent rest then
        let (letters, rest) := name rest
        (.atKeyword (String.ofList letters), rest)
      else (.delim c, rest)
    | '/', '*' :: rest =>
      let (text, rest) := comment rest
      (.comment (String.ofList text), rest)
    | '<', '!' :: '-' :: '-' :: rest => (.commentOpen, rest)
    | '-', '-' :: '>' :: rest => (.commentClose, rest)
    | '(', _ => (.opening .paren, rest)
    | ')', _ => (.closing .paren, rest)
    | '[', _ => (.opening .square, rest)
    | ']', _ => (.closing .square, rest)
    | '{', _ => (.opening .curly, rest)
    | '}', _ => (.closing .curly, rest)
    | ':', _ => (.colon, rest)
    | ';', _ => (.semicolon, rest)
    | ',', _ => (.comma, rest)
    | '$', '=' :: rest | '*', '=' :: rest | '^', '=' :: rest | '|', '=' :: rest
    | '~', '=' :: rest => (.compare c, rest)
    | _, _ => if startsIdent s then identLike s else (.delim c, rest)

/-- Cuts a text into tokens; every token takes at least one character, so `fuel` need not exceed the
length of the text. -/
def tokensFrom (fuel : Nat) (read : List Token) (s : List Char) : List Token :=
  match fuel, s with
  | fuel + 1, c :: rest =>
    let (t, rest) := token c rest
    tokensFrom fuel (t :: read) rest
  | _, _ => read.reverse

/-- The tokens of a stylesheet. -/
def tokens (source : String) : List Token :=
  let s := source.toList
  tokensFrom s.length [] s

end SelectorCatalog.Css.Lexer
