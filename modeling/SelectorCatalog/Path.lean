import SelectorCatalog.Text.Split

/-!
# Paths

A path is a text, kept as it was given, that reads as a list of parts: the root, a leading `.`, each
`..` and each name. Two texts name the same place when their parts agree, so repeated slashes, inner
`.` and a trailing slash do not matter, while `..` is never simplified here.
-/

namespace SelectorCatalog

/-- The text of a path. -/
structure Path where
  text : String
deriving DecidableEq, Repr, Inhabited

namespace Path

/-- One part of a path. -/
inductive Part where
  | root
  | here
  | up
  | name (text : String)
deriving DecidableEq, Repr

namespace Part

/-- The text of a part. -/
def render : Part → String
  | root => "/"
  | here => "."
  | up => ".."
  | name text => text

/-- The rank of a part among those that are not names: the root comes first, names come last. -/
def rank : Part → Nat
  | root => 0
  | here => 1
  | up => 2
  | name _ => 3

/-- The order of parts: by rank, names among each other by their characters. -/
def before (p q : Part) : Bool :=
  match p, q with
  | name s, name t => decide (s < t)
  | _, _ => decide (p.rank < q.rank)

end Part

/-- The part that a segment after the first one stands for. -/
def innerPart (segment : List Char) : Option Part :=
  match segment with
  | [] | ['.'] => none
  | ['.', '.'] => some .up
  | _ => some (.name (String.ofList segment))

/-- The parts that the first segment stands for; an empty one in front of a slash is the root. -/
def firstPart (segment : List Char) (alone : Bool) : List Part :=
  match segment with
  | [] => if alone then [] else [.root]
  | ['.'] => [.here]
  | _ => (innerPart segment).toList

/-- The parts of a path. -/
def parts (p : Path) : List Part :=
  match Text.split (· == '/') p.text.toList with
  | [] => []
  | first :: rest => firstPart first rest.isEmpty ++ rest.filterMap innerPart

/-- Whether two texts name the same place. -/
def same (p q : Path) : Bool :=
  p.parts == q.parts

theorem same_iff {p q : Path} : p.same q = true ↔ p.parts = q.parts :=
  beq_iff_eq

theorem same_comm (p q : Path) : p.same q = q.same p :=
  BEq.comm

/-- Whether the path starts at the root. -/
def isAbsolute (p : Path) : Bool :=
  p.text.toList.head? == some '/'

/-- The text of a list of parts. -/
def ofParts (ps : List Part) : Path :=
  match ps with
  | .root :: rest => ⟨"/" ++ String.intercalate "/" (rest.map Part.render)⟩
  | _ => ⟨String.intercalate "/" (ps.map Part.render)⟩

/-- The directory of a path: all parts but the last. The root and the empty path have none. -/
def parent? (p : Path) : Option Path :=
  match p.parts.getLast? with
  | none | some .root => none
  | some _ => some (ofParts p.parts.dropLast)

/-- The last part when it is a name. -/
def fileName? (p : Path) : Option String :=
  match p.parts.getLast? with
  | some (.name text) => some text
  | _ => none

/-- What follows the last dot of a name; a name whose only dot comes first has no extension. -/
def extensionOf? (name : List Char) : Option (List Char) :=
  match name.reverse.span (· != '.') with
  | (_, []) | (_, [_]) => none
  | (ext, _ :: _ :: _) => some ext.reverse

/-- The extension of the file name. -/
def extension? (p : Path) : Option String := do
  let name ← p.fileName?
  let ext ← extensionOf? name.toList
  return String.ofList ext

/-- Appends a text below a directory; an absolute text replaces it. -/
def join (dir : Path) (text : String) : Path :=
  if text.toList.head? == some '/' then ⟨text⟩
  else if dir.text.isEmpty || dir.text.toList.getLast? == some '/' then ⟨dir.text ++ text⟩
  else ⟨dir.text ++ "/" ++ text⟩

/-- What remains of the parts of a path below a directory. -/
def partsBelow? (dir p : Path) : Option (List Part) :=
  if dir.parts.isPrefixOf p.parts then some (p.parts.drop dir.parts.length) else none

/-- The order of paths: the first part that differs decides, and a directory precedes what is below
it. -/
def partsBefore : List Part → List Part → Bool
  | [], [] => false
  | [], _ :: _ => true
  | _ :: _, [] => false
  | p :: ps, q :: qs => if p == q then partsBefore ps qs else p.before q

end Path

end SelectorCatalog
