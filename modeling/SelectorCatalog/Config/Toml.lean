import SelectorCatalog.Config.Toml.Reader

/-!
# TOML documents

A document is a sequence of lines, each of which gives a key its value or opens a table for the
lines after it. Only the settings at the top of a document matter here, but all of it has to be well
formed.
-/

namespace SelectorCatalog.Config.Toml

/-- Skips the rest of a line after what it says; `none` when it holds more than blanks and a
comment. -/
def skipLine? (inComment : Bool) : List Char → Option (List Char)
  | '\r' :: '\n' :: rest => some rest
  | c :: rest =>
    if c == '\n' then some rest
    else if inComment then if isTextChar c then skipLine? true rest else none
    else if isSpace c then skipLine? false rest
    else if c == '#' then skipLine? true rest
    else none
  | [] => some []

/-- A document so far: its tables, and the path of the table that lines add to. -/
structure Draft where
  table : Table
  path : List String

/-- Reads the header of a table after its opening bracket. -/
def header? (isRow : Bool) (draft : Draft) (s : List Char) : Option (Draft × List Char) := do
  let (path, rest) ← key? (s.dropWhile isSpace)
  let rest ← skipChar? ']' rest
  let rest ← if isRow then skipChar? ']' rest else some rest
  let table ← openAt? isRow path draft.table
  return (⟨table, path⟩, rest)

/-- Reads a key and its value. -/
def pair? (draft : Draft) (s : List Char) : Option (Draft × List Char) := do
  let (key, rest) ← key? s
  let rest ← skipChar? '=' rest
  let (value, rest) ← value? (depthLimit - 1) (2 * rest.length + 2) (rest.dropWhile isSpace)
  let table ← changeAt? (assign? value key) draft.path draft.table
  return ({ draft with table := table }, rest)

/-- Reads one line that is not blank. -/
def line? (draft : Draft) : List Char → Option (Draft × List Char)
  | '[' :: '[' :: rest => header? true draft rest
  | '[' :: rest => header? false draft rest
  | s => pair? draft s

/-- Reads at most `n` lines. -/
def lines? : Nat → Draft → List Char → Option Table
  | 0, _, _ => none
  | n + 1, draft, s => do
    match ← skipBlank? false s with
    | [] => return draft.table
    | s =>
      let (draft, rest) ← line? draft s
      lines? n draft (← skipLine? false rest)

/-- A document without the byte order mark that it may start with. -/
def withoutMark : List Char → List Char
  | c :: rest => if c.toNat == 0xFEFF then rest else c :: rest
  | [] => []

/-- The value of an item as far as settings are concerned. -/
def Item.setting : Item → Value
  | .value v => v
  | .table .. => .other
  | .row tables => .list (tables.map fun _ => .other)

/-- The settings at the top of a document; `none` when it is not well formed. -/
def settings? (text : String) : Option Layer :=
  let s := withoutMark text.toList
  (lines? (s.length + 1) ⟨[], []⟩ s).map fun table => table.map fun (key, item) =>
    (key, item.setting)

end SelectorCatalog.Config.Toml
