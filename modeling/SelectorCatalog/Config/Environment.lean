import SelectorCatalog.Config.Toml.Text
import SelectorCatalog.Config.Value
import SelectorCatalog.Text.Lower
import SelectorCatalog.Text.Split

/-!
# Settings from the environment

A variable whose name starts with `namePrefix`, in any letter case, gives a setting. Its text reads
as a truth value, a number, a list in brackets, a table in braces or a text; what does not read as
any of these as a whole is a text as it stands. Two underscores in a name lead into a table.
-/

namespace SelectorCatalog.Config.Environment

/-- Blanks around the parts of a value. -/
def isSpace (c : Char) : Bool :=
  c == ' ' || c == '\t' || c == '\n' || c == '\r' || c == '\x0c'

/-- The characters that end a plain part of a value. -/
def isSeparator (c : Char) : Bool :=
  [',', '[', ']', '\x7b', '\x7d'].contains c

/-- The number that a plain text writes: digits after an optional sign, in the range of 64 bits. -/
def whole? (s : List Char) : Option Int :=
  let (negative, digits) := match s with
    | '-' :: rest => (true, rest)
    | '+' :: rest => (false, rest)
    | _ => (false, s)
  let n : Int := Text.number 10 digits
  if digits.isEmpty || !digits.all Char.isDigit then none
  else if negative then if Int64.minValue.toInt ≤ -n then some (-n) else none
  else if n < UInt64.size then some n else none

/-- Whether a text is an exponent. -/
def isExponent : List Char → Bool
  | [] => true
  | c :: rest =>
    let digits := match rest with
      | '-' :: digits => digits
      | '+' :: digits => digits
      | _ => rest
    (c == 'e' || c == 'E') && !digits.isEmpty && digits.all Char.isDigit

/-- Whether a plain text is a number with a point. -/
def isDecimal (s : List Char) : Bool :=
  let s := match s with
    | '-' :: rest => rest
    | '+' :: rest => rest
    | _ => s
  let before := s.takeWhile Char.isDigit
  match s.drop before.length with
  | '.' :: rest =>
    let after := rest.takeWhile Char.isDigit
    !(before.isEmpty && after.isEmpty) && isExponent (rest.drop after.length)
  | _ => false

/-- The value of a plain text. -/
def plain (s : List Char) : Value :=
  let s := Text.trim s
  -- numbers with a point are read, but no setting takes one
  if isDecimal s then .other
  else match whole? s with
    | some n => .whole n
    | none => .text (String.ofList s)

/-- The characters of a table's keys. -/
def isKeyChar (c : Char) : Bool :=
  c.isAlphanum || c == '_' || c == '-'

/-- Skips the key of an entry and the equals sign after it. -/
def skipKey? (s : List Char) : Option (List Char) := do
  let s := s.dropWhile isSpace
  let rest ← match s with
    | '"' :: rest => (Toml.lineText? '"' true rest).map (·.2)
    | _ => if (s.takeWhile isKeyChar).isEmpty then none else some (s.dropWhile isKeyChar)
  match rest.dropWhile isSpace with
  | '=' :: rest => some rest
  | _ => none

mutual

/-- Reads a value and the blanks around it; `n` bounds the work. -/
def value? : Nat → List Char → Option (Value × List Char)
  | 0, _ => none
  | n + 1, s =>
    let s := s.dropWhile isSpace
    let read : Option (Value × List Char) :=
      -- a text that goes on behind a truth value is none; the caller sees the rest
      if "true".toList.isPrefixOf s then some (.other, s.drop 4)
      else if "false".toList.isPrefixOf s then some (.other, s.drop 5)
      else match s with
        | '[' :: rest => (values? n rest).map fun (values, rest) => (.list values, rest)
        | '\x7b' :: rest => (entries? n rest).map fun rest => (.other, rest)
        | '"' :: rest =>
          (Toml.lineText? '"' true rest).map fun (text, rest) => (.text (String.ofList text), rest)
        | '\'' :: c :: '\'' :: rest => some (.text (String.singleton c), rest)
        | '\'' :: _ => none
        | _ =>
          some (plain (s.takeWhile fun c => !isSeparator c), s.dropWhile fun c => !isSeparator c)
    read.map fun (value, rest) => (value, rest.dropWhile isSpace)

/-- Reads the values of a list up to its closing bracket. -/
def values? : Nat → List Char → Option (List Value × List Char)
  | 0, _ => none
  | n + 1, s =>
    match s with
    | ']' :: rest => some ([], rest)
    | _ => do
      let (value, rest) ← value? n s
      match rest with
      | ',' :: rest =>
        let (values, rest) ← values? n rest
        return (value :: values, rest)
      | ']' :: rest => return ([value], rest)
      | _ => none

/-- Skips the entries of a table up to its closing brace. -/
def entries? : Nat → List Char → Option (List Char)
  | 0, _ => none
  | n + 1, s =>
    match s with
    | '\x7d' :: rest => some rest
    | _ => do
      let (_, rest) ← value? n (← skipKey? s)
      match rest with
      | ',' :: rest => entries? n rest
      | '\x7d' :: rest => return rest
      | _ => none

end

/-- The value that the text of a variable gives. -/
def valueOf (text : String) : Value :=
  match value? (2 * text.length + 2) text.toList with
  -- a value that does not take up the whole text is none
  | some (value, []) => value
  | _ => .text text

/-- What the names of settings start with, in lower case. -/
def namePrefix : List Char := "stylehint_".toList

/-- The name that is not a setting: it tells where the configuration file is. -/
def fileName : List Char := "config_file".toList

/-- A name with every two underscores turned into a dot. -/
def dotted : List Char → List Char
  | '_' :: '_' :: rest => '.' :: dotted rest
  | c :: rest => c :: dotted rest
  | [] => []

/-- The setting that a variable gives, if it gives one. -/
def setting? (name text : String) : Option (String × Value) :=
  let chars := name.toList
  let key := chars.drop namePrefix.length
  if (chars.take namePrefix.length).map Char.toLower != namePrefix ||
      key.map Char.toLower == fileName then none
  else
    let path := Text.split (· == '.') (dotted (Text.lower (String.ofList key)).toList)
    if path.any List.isEmpty then none
    else match path with
      | [key] => some (String.ofList key, valueOf text)
      -- what lies inside a table reaches no setting
      | key :: _ => some (String.ofList key, .other)
      | [] => none

/-- The settings that variables give. -/
def settings (environment : List (String × String)) : Layer :=
  environment.filterMap fun (name, text) => setting? name text

end SelectorCatalog.Config.Environment
