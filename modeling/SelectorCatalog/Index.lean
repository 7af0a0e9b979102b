import SelectorCatalog.Rule
import SelectorCatalog.Selector.Compound
import SelectorCatalog.Selector.Spelling
import SelectorCatalog.Text.Fold

/-!
# The index of class and id names

An index keeps, for every tag, the classes that a stylesheet declares for it, and the ids that it
declares. The empty tag stands for classes usable on any element. Names keep the case of their
author and the order of their first insertion, and none is kept twice. A disposed index is empty for
good.
-/

namespace SelectorCatalog

/-- The key of the classes that no tag qualifies. -/
def anyTag : String := ""

/-- The key of a tag: no tag and `*` mean any element, and the case of A to Z does not matter. -/
def tagKey : Option String → String
  | none => anyTag
  -- the empty tag, which stays as it is, means any element as well
  | some tag => if tag == "*" then anyTag else Text.asciiLower tag

/-- A name that a stylesheet declares. -/
inductive Candidate where
  | class (tag : String) (name : String)
  | id (name : String)
deriving DecidableEq, Repr

/-- Appends an element unless it is there already. -/
def insertNew [BEq α] (x : α) (xs : List α) : List α :=
  if xs.contains x then xs else xs ++ [x]

/-- Classes by tag, and ids, each in order of first insertion. -/
structure Names where
  classes : List (String × List String)
  ids : List String
deriving DecidableEq, Repr, Inhabited

namespace Names

/-- No names at all. -/
def empty : Names := ⟨[], []⟩

/-- The classes kept under a key. -/
def bucket (names : Names) (key : String) : List String :=
  ((names.classes.find? (·.1 == key)).map (·.2)).getD []

/-- Inserts a class under a key; a new key comes last. -/
def insertUnder (key name : String) : List (String × List String) → List (String × List String)
  | [] => [(key, [name])]
  | (k, kept) :: rest =>
    if k == key then (k, insertNew name kept) :: rest else (k, kept) :: insertUnder key name rest

/-- Adds one declared name. -/
def add (names : Names) : Candidate → Names
  | .class tag name => { names with classes := insertUnder (tagKey (some tag)) name names.classes }
  | .id name => { names with ids := insertNew name names.ids }

/-- The number of classes, counted once for each tag, plus the number of ids. -/
def size (names : Names) : Nat :=
  (names.classes.flatMap (·.2)).length + names.ids.length

end Names

/-- The names that a compound declares, in the spelling of their author: its id, then its classes.
Names that were never written in a prelude are left out. -/
def Compound.candidates (cases : CaseIndex) (c : Compound) : List Candidate :=
  ((c.id.bind cases.ids.recover).map Candidate.id).toList
    ++ (c.classes.filterMap cases.classes.recover).map (Candidate.class c.tag)

/-- The names that a list of rules declares, where `source` is the text the rules were read from. -/
def candidates (rules : List Rule) (source : String) : List Candidate :=
  let cases := CaseIndex.build source
  ((Rule.flattenStyles rules).flatMap Compound.scan).flatMap (Compound.candidates cases)

/-- An index of names, until it is disposed of. -/
inductive SelectorIndex where
  | live (names : Names)
  | disposed
deriving DecidableEq, Repr, Inhabited

namespace SelectorIndex

/-- An index without names. -/
def empty : SelectorIndex := .live .empty

/-- Whether the index has been disposed of. -/
def isDisposed : SelectorIndex → Bool
  | live _ => false
  | disposed => true

/-- The names in the index. -/
def names : SelectorIndex → Names
  | live names => names
  | disposed => .empty

/-- Changes the names of a live index. -/
def modify (f : Names → Names) : SelectorIndex → SelectorIndex
  | live names => live (f names)
  | disposed => disposed

/-- Adds a class for a tag. -/
def addClass (index : SelectorIndex) (name : String) (tag : Option String) : SelectorIndex :=
  index.modify (·.add (.class (tag.getD anyTag) name))

/-- Adds an id. -/
def addId (index : SelectorIndex) (name : String) : SelectorIndex :=
  index.modify (·.add (.id name))

/-- Adds every name that the rules declare, in order. -/
def addRules (index : SelectorIndex) (rules : List Rule) (source : String) : SelectorIndex :=
  index.modify fun names => (candidates rules source).foldl Names.add names

/-- The classes of a tag that match a query and are not to be ignored. -/
def searchClass (index : SelectorIndex) (query tag : String) (ignore : List String) : List String :=
  (index.names.bucket (tagKey (some tag))).filter fun name =>
    !ignore.contains name && Text.occursIgnoringCase query name

/-- The ids that match a query. -/
def searchId (index : SelectorIndex) (query : String) : List String :=
  index.names.ids.filter (Text.occursIgnoringCase query)

/-- The number of names. -/
def size (index : SelectorIndex) : Nat :=
  index.names.size

/-- Whether the index holds no name. -/
def isEmpty (index : SelectorIndex) : Bool :=
  index.size == 0

/-- Removes every name. -/
def clear (index : SelectorIndex) : SelectorIndex :=
  index.modify fun _ => .empty

/-- Disposes of the index. -/
def dispose (_ : SelectorIndex) : SelectorIndex :=
  disposed

end SelectorIndex

end SelectorCatalog
