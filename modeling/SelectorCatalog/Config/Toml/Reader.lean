import SelectorCatalog.Config.Toml.Number
import SelectorCatalog.Config.Toml.Text

/-!
# Values and tables in TOML

A table grows key by key. It remembers how each table in it came about, since a table may be opened
once only and one that is written in a single value cannot grow.
-/

namespace SelectorCatalog.Config.Toml

/-- How a table came about. -/
inductive Origin where
  /-- It holds a table that was opened. -/
  | implied
  /-- It is named by the first parts of a dotted key. -/
  | dotted
  /-- It was opened itself. -/
  | opened
deriving DecidableEq, Repr

/-- What a key stands for: a value, a table, or a row of tables of which the last one grows. -/
inductive Item where
  | value (v : Value)
  | table (origin : Origin) (entries : List (String × Item))
  | row (tables : List (List (String × Item)))

/-- The entries of a table. -/
abbrev Table := List (String × Item)

/-- Replaces the item of a key, or adds it. -/
def put (key : String) (item : Item) : Table → Table
  | [] => [(key, item)]
  | (k, i) :: rest => if k == key then (k, item) :: rest else (k, i) :: put key item rest

/-- Gives a dotted key its value; `none` when it has one already or leads into a table that cannot
grow. -/
def assign? (value : Value) : List String → Table → Option Table
  | [], _ => none
  | [key], t =>
    match t.lookup key with
    | some _ => none
    | none => some (put key (.value value) t)
  | key :: next :: rest, t =>
    match t.lookup key with
    | none => (assign? value (next :: rest) []).map fun inner => put key (.table .dotted inner) t
    | some (.table origin inner) =>
      if origin == .opened || (rest.isEmpty && origin != .dotted) then none
      else (assign? value (next :: rest) inner).map fun inner => put key (.table origin inner) t
    | some (.row tables) =>
      if rest.isEmpty then none
      else
        match tables.getLast? with
        | some last =>
          (assign? value (next :: rest) last).map fun inner =>
            put key (.row (tables.dropLast ++ [inner])) t
        | none => none
    | some (.value _) => none

/-- Changes the table at a path, creating the tables on the way; `none` when a value is in the way.
-/
def changeAt? (change : Table → Option Table) : List String → Table → Option Table
  | [], t => change t
  | key :: rest, t =>
    match t.lookup key with
    | none => (changeAt? change rest []).map fun inner => put key (.table .implied inner) t
    | some (.table origin inner) =>
      (changeAt? change rest inner).map fun inner => put key (.table origin inner) t
    | some (.row tables) =>
      match tables.getLast? with
      | some last =>
        (changeAt? change rest last).map fun inner => put key (.row (tables.dropLast ++ [inner])) t
      | none => none
    | some (.value _) => none

/-- Opens a table inside `t`. -/
def openIn? (key : String) (t : Table) : Option Table :=
  match t.lookup key with
  | none => some (put key (.table .opened []) t)
  | some (.table .implied inner) => some (put key (.table .opened inner) t)
  | some _ => none

/-- Adds a table to a row of tables inside `t`. -/
def addIn? (key : String) (t : Table) : Option Table :=
  match t.lookup key with
  | none => some (put key (.row [[]]) t)
  | some (.row tables) => some (put key (.row (tables ++ [[]])) t)
  | some _ => none

/-- Opens the table at a path, or adds one to the row of tables there. -/
def openAt? (isRow : Bool) (path : List String) (t : Table) : Option Table :=
  match path.getLast? with
  | none => none
  | some key => changeAt? (if isRow then addIn? key else openIn? key) path.dropLast t

/-! ## Keys -/

/-- The characters of a key that stands without quotes. -/
def isBare (c : Char) : Bool :=
  c.isAlphanum || c == '_' || c == '-'

/-- Reads one part of a key. -/
def part? (s : List Char) : Option (String × List Char) :=
  match s with
  | '"' :: rest => (lineText? '"' true rest).map fun (text, rest) => (String.ofList text, rest)
  | '\'' :: rest => (lineText? '\'' false rest).map fun (text, rest) => (String.ofList text, rest)
  | _ =>
    let name := s.takeWhile isBare
    if name.isEmpty then none else some (String.ofList name, s.drop name.length)

/-- The number of parts or levels that nesting must stay below. -/
def depthLimit : Nat := 80

/-- Reads a key of at most `n` parts, joined by dots, and the blanks after it. -/
def parts? : Nat → List Char → Option (List String × List Char)
  | 0, _ => none
  | n + 1, s => do
    let (part, rest) ← part? s
    match rest.dropWhile isSpace with
    | '.' :: rest =>
      let (parts, rest) ← parts? n (rest.dropWhile isSpace)
      return (part :: parts, rest)
    | rest => return ([part], rest)

/-- Reads a key and the blanks after it. -/
def key? (s : List Char) : Option (List String × List Char) :=
  parts? (depthLimit - 1) s

/-! ## Values -/

/-- Skips blanks, line ends and comments; `none` when a comment holds what it must not. -/
def skipBlank? (inComment : Bool) : List Char → Option (List Char)
  | '\r' :: '\n' :: rest => skipBlank? false rest
  | c :: rest =>
    if c == '\n' then skipBlank? false rest
    else if inComment then if isTextChar c then skipBlank? true rest else none
    else if isSpace c then skipBlank? false rest
    else if c == '#' then skipBlank? true rest
    else some (c :: rest)
  | [] => some []

mutual

/-- Reads a value; `depth` is the number of levels that may still be opened, `n` bounds the work. -/
def value? (depth : Nat) : Nat → List Char → Option (Value × List Char)
  | 0, _ => none
  | n + 1, s =>
    match s with
    | '[' :: rest => if depth == 0 then none else do
      let (values, rest) ← values? (depth - 1) n (← skipBlank? false rest)
      return (.list values, rest)
    | '\x7b' :: rest => if depth == 0 then none else do
      let rest := rest.dropWhile isSpace
      match rest with
      | '\x7d' :: rest => return (.other, rest)
      | _ =>
        let rest ← pairs? (depth - 1) n [] rest
        return (.other, rest)
    | '"' :: _ | '\'' :: _ => (text? s).map fun (text, rest) => (.text (String.ofList text), rest)
    | 't' :: _ => (skipWord? "true" s).map fun rest => (.other, rest)
    | 'f' :: _ => (skipWord? "false" s).map fun rest => (.other, rest)
    | _ => numberOrDate? s

/-- Reads the values of a list up to its closing bracket. -/
def values? (depth : Nat) : Nat → List Char → Option (List Value × List Char)
  | 0, _ => none
  | n + 1, s =>
    match s with
    | ']' :: rest => some ([], rest)
    | _ => do
      let (value, rest) ← value? depth n s
      match ← skipBlank? false rest with
      | ',' :: rest =>
        let (values, rest) ← values? depth n (← skipBlank? false rest)
        return (value :: values, rest)
      | ']' :: rest => return ([value], rest)
      | _ => none

/-- Reads the keys and values of a table in braces up to its closing brace. -/
def pairs? (depth : Nat) : Nat → Table → List Char → Option (List Char)
  | 0, _, _ => none
  | n + 1, t, s => do
    let (key, rest) ← key? s
    let rest ← skipChar? '=' rest
    let (value, rest) ← value? depth n (rest.dropWhile isSpace)
    let t ← assign? value key t
    match rest.dropWhile isSpace with
    | ',' :: rest => pairs? depth n t (rest.dropWhile isSpace)
    | '\x7d' :: rest => return rest
    | _ => none

end

end SelectorCatalog.Config.Toml
