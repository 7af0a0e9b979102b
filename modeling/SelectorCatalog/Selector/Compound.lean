import SelectorCatalog.Text.Split

/-!
# Compound selectors

A selector list is read as a list of compounds: commas and blanks separate them, and each has a tag,
at most one id and any number of classes. Attribute brackets, pseudo parts and combinators are
stripped, not interpreted.
-/

namespace SelectorCatalog

/-- One compound selector. -/
structure Compound where
  /-- The tag as written; empty when there is none. -/
  tag : String
  id : Option String
  classes : List String
deriving DecidableEq, Repr, Inhabited

namespace Compound

/-- Whether a compound names nothing at all. -/
def isEmpty (c : Compound) : Bool :=
  c.tag.isEmpty && c.id.isNone && c.classes.isEmpty

/-- Cuts a text at the last occurrence of a character. -/
def cutLast? (c : Char) (s : List Char) : Option (List Char × List Char) :=
  match s.reverse.span (· != c) with
  | (_, []) => none
  | (after, _ :: before) => some (before.reverse, after.reverse)

/-- Removes what stands between the first `[` and the last `]`, if anything does. -/
def stripAttributes (s : List Char) : List Char :=
  let head := s.takeWhile (· != '[')
  -- the brackets reach from the first that opens to the last that closes
  match (s.dropWhile (· != '[')).tail with
  | [] => s
  | inner =>
    match cutLast? ']' inner with
    -- a pair of brackets with nothing in it stays
    | some (_ :: _, after) => head ++ after
    | _ => s

/-- Whether a character joins two compounds. -/
def isCombinator (c : Char) : Bool :=
  c == '>' || c == '+' || c == '~'

/-- A compound without attribute brackets, pseudo parts and combinators. -/
def strip (s : List Char) : List Char :=
  ((stripAttributes s).takeWhile (· != ':')).filter fun c => !isCombinator c

/-- Whether a part of a compound is written at all. -/
def isWritten (s : List Char) : Bool :=
  !s.isEmpty

/-- The compound with these parts: what stands before the first dot holds the tag and the id, the
rest are classes. -/
def ofParts (parts : List (List Char)) : Compound :=
  -- whatever comes after a second hash is lost
  let head := parts.headD []
  let headParts := Text.split (· == '#') head
  { tag := String.ofList (headParts.headD [])
    id := ((headParts.tail.head?).filter isWritten).map String.ofList
    classes := (parts.tail.filter isWritten).map String.ofList }

/-- The compound that a text without blanks and commas stands for. -/
def ofChars (s : List Char) : Compound :=
  ofParts (Text.split (· == '.') (strip s))

/-- The compounds of a selector list that name something, in order. -/
def scan (selectors : String) : List Compound :=
  (((Text.split (· == ',') selectors.toList).flatMap Text.words).map ofChars).filter fun c =>
    !c.isEmpty

end Compound

end SelectorCatalog
