import SelectorCatalog.Text.Hex

/-!
# Texts in TOML

Texts stand between double quotes, where a backslash starts an escape, or between single quotes,
where every character stands for itself. Three quotes open a text of several lines; a line feed
right after them is left out.
-/

namespace SelectorCatalog.Config.Toml

open Text (isHex number)

/-- The characters that may stand in a text or a comment as they are. -/
def isTextChar (c : Char) : Bool :=
  c == '\t' || (0x20 ≤ c.toNat && c.toNat != 0x7F)

/-- The blanks inside a line. -/
def isSpace (c : Char) : Bool :=
  c == ' ' || c == '\t'

/-- Reads a character written as a number of `count` hexadecimal digits. -/
def codePoint? (count : Nat) (s : List Char) : Option (Char × List Char) :=
  let digits := s.take count
  let n := number 16 digits
  if digits.length == count && digits.all isHex && n ≤ 0x10FFFF && !(0xD800 ≤ n && n ≤ 0xDFFF) then
    some (Char.ofNat n, s.drop count)
  else none

/-- Reads an escape, its backslash already read. -/
def escape? : List Char → Option (Char × List Char)
  | 'b' :: rest => some ('\x08', rest)
  | 't' :: rest => some ('\t', rest)
  | 'n' :: rest => some ('\n', rest)
  | 'f' :: rest => some ('\x0c', rest)
  | 'r' :: rest => some ('\r', rest)
  | '"' :: rest => some ('"', rest)
  | '\\' :: rest => some ('\\', rest)
  | 'u' :: rest => codePoint? 4 rest
  | 'U' :: rest => codePoint? 8 rest
  | _ => none

theorem length_codePoint?_le {count : Nat} {s rest : List Char} {c : Char}
    (h : codePoint? count s = some (c, rest)) : rest.length ≤ s.length := by
  simp only [codePoint?] at h
  split at h
  · cases h; simp
  · cases h

theorem length_escape?_lt {s rest : List Char} {c : Char} (h : escape? s = some (c, rest)) :
    rest.length < s.length := by
  unfold escape? at h
  split at h
  case h_8 => exact Nat.lt_succ_of_le (length_codePoint?_le h)
  case h_9 => exact Nat.lt_succ_of_le (length_codePoint?_le h)
  all_goals cases h
  all_goals simp

/-- Reads a text of one line up to its closing quote. -/
def lineText? (quote : Char) (escapes : Bool) (s : List Char) : Option (List Char × List Char) :=
  match s with
  | [] => none
  | c :: rest =>
    if c == quote then some ([], rest)
    else if escapes && c == '\\' then
      match h : escape? rest with
      | some (d, after) =>
        have := length_escape?_lt h
        (lineText? quote escapes after).map fun (text, rest) => (d :: text, rest)
      | none => none
    else if isTextChar c then
      (lineText? quote escapes rest).map fun (text, rest) => (c :: text, rest)
    else none
termination_by s.length
decreasing_by all_goals simp_all <;> omega

/-- Skips blanks and line ends. -/
def skipLines : List Char → List Char
  | '\r' :: '\n' :: rest => skipLines rest
  | c :: rest => if isSpace c || c == '\n' then skipLines rest else c :: rest
  | [] => []

/-- Skips one line end. -/
def skipLineEnd : List Char → List Char
  | '\r' :: '\n' :: rest => rest
  | '\n' :: rest => rest
  | s => s

/-- What follows a backslash at the end of a line: the text goes on at the next character that is
not blank. -/
def joinedLine? (s : List Char) : Option (List Char) :=
  match s.dropWhile isSpace with
  | '\r' :: '\n' :: rest => some (skipLines rest)
  | '\n' :: rest => some (skipLines rest)
  | _ => none

theorem length_skipLines_le (s : List Char) : (skipLines s).length ≤ s.length := by
  fun_induction skipLines s <;> simp_all <;> omega

theorem length_joinedLine?_lt {s rest : List Char} (h : joinedLine? s = some rest) :
    rest.length < s.length := by
  have hd := (List.dropWhile_suffix (l := s) isSpace).length_le
  unfold joinedLine? at h
  split at h
  · next r he =>
    cases h
    have := length_skipLines_le r
    rw [he] at hd
    simp only [List.length_cons] at hd
    omega
  · next r he =>
    cases h
    have := length_skipLines_le r
    rw [he] at hd
    simp only [List.length_cons] at hd
    omega
  · cases h

/-- Reads a text of several lines up to its three closing quotes; one or two quotes more belong to
the text. -/
def linesText? (quote : Char) (escapes : Bool) (s : List Char) : Option (List Char × List Char) :=
  match s with
  | [] => none
  | '\r' :: '\n' :: rest =>
    (linesText? quote escapes rest).map fun (text, rest) => ('\n' :: text, rest)
  | c :: rest =>
    if c == quote then
      let run := 1 + (rest.takeWhile (· == quote)).length
      if run < 3 then (linesText? quote escapes rest).map fun (text, rest) => (quote :: text, rest)
      else
        let extra := min 2 (run - 3)
        some (List.replicate extra quote, rest.drop (2 + extra))
    else if escapes && c == '\\' then
      match hj : joinedLine? rest with
      | some after =>
        have := length_joinedLine?_lt hj
        linesText? quote escapes after
      | none =>
        match h : escape? rest with
        | some (d, after) =>
          have := length_escape?_lt h
          (linesText? quote escapes after).map fun (text, rest) => (d :: text, rest)
        | none => none
    else if isTextChar c || c == '\n' then
      (linesText? quote escapes rest).map fun (text, rest) => (c :: text, rest)
    else none
termination_by s.length
decreasing_by all_goals simp_all <;> omega

/-- Reads a text of either kind. -/
def text? : List Char → Option (List Char × List Char)
  | '"' :: '"' :: '"' :: rest => linesText? '"' true (skipLineEnd rest)
  | '\'' :: '\'' :: '\'' :: rest => linesText? '\'' false (skipLineEnd rest)
  | '"' :: rest => lineText? '"' true rest
  | '\'' :: rest => lineText? '\'' false rest
  | _ => none

end SelectorCatalog.Config.Toml
