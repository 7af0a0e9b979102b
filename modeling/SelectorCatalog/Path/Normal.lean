import SelectorCatalog.Path

/-!
# Normal form of paths

A path text is in normal form when its segments are names: no empty segment, no `.` and no `..`.
`normalize` brings every text into that form. A `..` takes back the segment before it; at the top
there is nothing to take back, and it is dropped. A leading slash is kept.
-/

namespace SelectorCatalog.Path

/-- Whether a segment stays as it is: neither empty nor `.` nor `..`. -/
def isPlain (segment : List Char) : Bool :=
  !(segment == [] || segment == ['.'] || segment == ['.', '.'])

/-- Follows one segment; `trail` holds the segments so far, innermost first. -/
def follow (trail : List (List Char)) (segment : List Char) : List (List Char) :=
  -- above the top there is nothing to take back
  if segment == ['.', '.'] then trail.tail
  else if isPlain segment then segment :: trail
  else trail

/-- The segments that are left after every `.` and `..` has been followed, outermost first. -/
def settle (segments : List (List Char)) : List (List Char) :=
  (segments.foldl follow []).reverse

/-- Segments written with a slash between them. -/
def joinSegments (segments : List (List Char)) : List Char :=
  List.intercalate ['/'] segments

/-- The normal form of a path text. -/
def normalizeChars (s : List Char) : List Char :=
  let body := joinSegments (settle (Text.split (· == '/') s))
  if s.head? == some '/' then '/' :: body else body

/-- The normal form of a path. -/
def normalize (p : Path) : Path :=
  ⟨String.ofList (normalizeChars p.text.toList)⟩

/-- A path text is normal when, its leading slash apart, it is empty or made of plain segments. -/
def IsNormal (s : List Char) : Prop :=
  let body := if s.head? == some '/' then s.tail else s
  body = [] ∨ ∀ segment ∈ Text.split (· == '/') body, isPlain segment

end SelectorCatalog.Path
