import SelectorCatalog.Text.Alphanumeric
import SelectorCatalog.Text.Lower

/-!
# Authored spellings

A parser may change the case of the names it reports. The spelling that the author used is recovered
from the raw text of the stylesheet: a prelude is a stretch of text without braces that a `{` ends,
and every run of name characters right after a `.` or `#` in a prelude is a spelling of a class or
an id.
-/

namespace SelectorCatalog

/-- Whether a character can belong to a name. -/
def isNameChar (c : Char) : Bool :=
  Text.isAlphanumeric c || c == '_' || c == '-'

namespace Spelling

/-- The preludes found so far, read from the end of the text: `current` is the stretch being read,
if a `{` ends it. -/
structure Preludes where
  current : Option (List Char)
  closed : List (List Char)

/-- Every prelude, the one being read included. -/
def Preludes.all (p : Preludes) : List (List Char) :=
  p.current.toList ++ p.closed

/-- Puts one more character of the text in front. -/
def Preludes.push (c : Char) (p : Preludes) : Preludes :=
  if c == '{' then ⟨some [], p.all⟩
  -- what follows a brace that closes is a stretch, too, until it turns out what ends it
  else if c == '}' then ⟨none, p.all⟩
  else ⟨p.current.map (c :: ·), p.closed⟩

/-- The preludes of a stylesheet, in order. -/
def preludes (source : List Char) : List (List Char) :=
  (source.foldr Preludes.push ⟨none, []⟩).all

/-- The names in a prelude that follow a given sigil, in order. -/
def namesAfter (sigil : Char) : List Char → List (List Char)
  | [] => []
  | c :: rest =>
    let name := rest.takeWhile isNameChar
    if c == sigil && !name.isEmpty then name :: namesAfter sigil rest else namesAfter sigil rest

/-- All names of a stylesheet's preludes that follow a given sigil, in order. -/
def authored (sigil : Char) (source : String) : List String :=
  ((preludes source.toList).flatMap (namesAfter sigil)).map String.ofList

end Spelling

/-- The spellings of one kind of name in order of use, each with its lower case. -/
structure Spellings where
  entries : List (String × String)

namespace Spellings

/-- Lists names with their lower case. -/
def ofList (names : List String) : Spellings :=
  ⟨names.map fun name => (name, Text.lower name)⟩

/-- The spelling to use for a name: the name itself if it was written like that, else the first one
that differs from it by case alone. -/
def recover (s : Spellings) (name : String) : Option String :=
  -- a name that was written as it is needs no other spelling
  if s.entries.any (·.1 == name) then some name
  else
    let lowered := Text.lower name
    (s.entries.find? (·.2 == lowered)).map (·.1)

end Spellings

/-- The spellings of all classes and ids of a stylesheet. -/
structure CaseIndex where
  classes : Spellings
  ids : Spellings

/-- Collects the spellings of a stylesheet from its raw text. -/
def CaseIndex.build (source : String) : CaseIndex :=
  { classes := .ofList (Spelling.authored '.' source)
    ids := .ofList (Spelling.authored '#' source) }

end SelectorCatalog
