import SelectorCatalog.Css.Written

/-!
# Selectors

A selector is a chain of compounds with a joint between each two neighbours, a compound a list of
simple selectors in the order they were written. A pseudo-element, a slotted element and a part each
start a compound of their own; the joint in front of them is not written.
-/

namespace SelectorCatalog.Css

/-- The relations between two compounds that an author can write. -/
inductive Combinator where
  | descendant
  | child
  | nextSibling
  | laterSibling
deriving DecidableEq, Repr

/-- What joins two compounds. -/
inductive Joint where
  | combinator (c : Combinator)
  | pseudoElement
  | slot
  | part
deriving DecidableEq, Repr

/-- The namespace in front of a type or an attribute. -/
inductive Qualifier where
  | any
  | none
  | named (name : String)
deriving DecidableEq, Repr

/-- What an attribute is compared with. -/
structure AttributeTest where
  /-- The operator as written. -/
  operator : String
  value : String
  /-- The letter that fixes whether case matters. -/
  caseFlag : Option Char
deriving DecidableEq, Repr

/-- The ways of counting an element among its siblings. -/
inductive NthKind where
  | child
  | lastChild
  | onlyChild
  | ofType
  | lastOfType
  | onlyOfType
  | col
  | lastCol
deriving DecidableEq, Repr

mutual
/-- A simple selector. -/
inductive Simple where
  /-- The selector of the enclosing rule. -/
  | nesting
  | qualifier (q : Qualifier)
  | universal
  | type (name : String)
  | id (name : String)
  | class (name : String)
  | attr (q : Option Qualifier) (name : String) (test : Option AttributeTest)
  | scope
  /-- A pseudo-class, by the text behind its colon. -/
  | pseudoClass (text : String)
  | nth (kind : NthKind) (step offset : Int)
  | nthOf (kind : NthKind) (step offset : Int) (among : List Selector)
  | host (inner : Selector)
  /-- A pseudo-class that takes a list of selectors. -/
  | matching (name : String) (alternatives : List Selector)
  | has (relatives : List Selector)
  /-- A pseudo-element, by its text. -/
  | pseudoElement (text : String)
  | part (names : List String)
  | slotted (inner : Selector)
/-- A chain of compounds. -/
inductive Selector where
  | chain (first : List Simple) (rest : List (Joint × List Simple))
end

namespace Selector

/-- The compounds of a selector. -/
def compounds : Selector → List (List Simple)
  | chain first rest => first :: rest.map (·.2)

/-- The joints of a selector. -/
def joints : Selector → List Joint
  | chain _ rest => rest.map (·.1)

/-- Whether the first compound has a type, behind its namespace if it names one. -/
def hasType : Selector → Bool
  | chain first _ =>
    match first with
    | .qualifier _ :: s :: _ | s :: _ => match s with
      | .type _ | .universal => true
      | _ => false
    | [] => false

/-- Whether the selector is one compound. -/
def isCompound : Selector → Bool
  | chain _ rest => rest.isEmpty

end Selector

namespace NthKind

/-- The name of the function that counts this way. -/
def functionName : NthKind → String
  | child => "nth-child"
  | lastChild => "nth-last-child"
  | onlyChild => "only-child"
  | ofType => "nth-of-type"
  | lastOfType => "nth-last-of-type"
  | onlyOfType => "only-of-type"
  | col => "nth-col"
  | lastCol => "nth-last-col"

/-- The pseudo-class that picks the first element counted this way. Columns have none: only the
opening of the function is written for them. -/
def edgeName : NthKind → String
  | child => "first-child"
  | lastChild => "last-child"
  | onlyChild => "only-child"
  | ofType => "first-of-type"
  | lastOfType => "last-of-type"
  | onlyOfType => "only-of-type"
  | col => "nth-col("
  | lastCol => "nth-last-col("

end NthKind

namespace Written

/-- A number that always shows its sign. -/
def signed (n : Int) : String :=
  if 0 ≤ n then "+" ++ toString n else toString n

/-- The positions `step · n + offset`. -/
def affine (step offset : Int) : String :=
  if offset == 0 then
    if step == 0 then "0"
    else if step == 1 then "n" else if step == -1 then "-n" else toString step ++ "n"
  else if step == 2 && offset == 1 then "odd"
  else if step == 0 then toString offset
  else if step == 1 then "n" ++ signed offset
  else if step == -1 then "-n" ++ signed offset
  else toString step ++ "n" ++ signed offset

/-- The text of a joint. -/
def joint : Joint → String
  | .combinator .descendant => " "
  | .combinator .child => " > "
  | .combinator .nextSibling => " + "
  | .combinator .laterSibling => " ~ "
  | _ => ""

/-- The text of a namespace. -/
def qualifier : Qualifier → String
  | .any => "*|"
  | .none => "|"
  | .named name => ident name ++ "|"

/-- The text of an attribute selector. A name without namespace is written alone. -/
def attributeText (q : Option Qualifier) (name : String) (test : Option AttributeTest) : String :=
  "[" ++ (q.map qualifier).getD "" ++ ident name ++
    (match test with
      | none => ""
      | some t =>
        t.operator ++ string t.value ++ (match t.caseFlag with
          | some c => " " ++ c.toString
          | none => ""))
    ++ "]"

/-- A simple selector beside its text. -/
abbrev Piece := Simple × String

/-- Whether a simple selector is the enclosing rule's. -/
def isNesting : Simple → Bool
  | .nesting => true
  | _ => false

/-- Whether a simple selector is `*`. -/
def isUniversal : Simple → Bool
  | .universal => true
  | _ => false

/-- Whether a simple selector is a namespace. -/
def isQualifier : Simple → Bool
  | .qualifier _ => true
  | _ => false

/-- Whether a simple selector is the scoping root. -/
def isScope : Simple → Bool
  | .scope => true
  | _ => false

/-- Whether a joint stands in front of something that counts as part of the compound before it. -/
def continuesCompound : Option Joint → Bool
  | some .pseudoElement | some .slot => true
  | _ => false

/-- The text of a compound in front of a joint. A `*` without namespace is left out unless it stands
alone. -/
def compound (pieces : List Piece) (leading : Bool) (next : Option Joint) : String :=
  let skipped := if leading && ((pieces.head?.map fun p => isNesting p.1).getD false) then 1 else 0
  let tail := pieces.drop skipped
  let qualified := (tail.head?.map fun p => isQualifier p.1).getD false
  let core := if qualified then tail.drop 1 else tail
  let alone := match core with
    | [p] => isUniversal p.1 && !continuesCompound next
    | _ => false
  let kept := if alone || qualified then pieces else pieces.filter fun p => !isUniversal p.1
  String.join (kept.map (·.2))

/-- The text of a chain. In a relative selector a leading scoping root is left out, its combinator
is not. -/
def chain (relative leading : Bool) : List (List Piece) → List Joint → String
  | [], _ => ""
  | pieces :: more, joints =>
    let rooted := relative && ((pieces.head?.map fun p => isScope p.1).getD false)
    let lead := if rooted then (joints.head?.map joint).getD "" else ""
    let pieces := if rooted then pieces.tail else pieces
    let joints := if rooted then joints.tail else joints
    let relative := relative && !rooted
    if pieces.isEmpty then lead ++ chain relative leading more joints
    else
      lead ++ compound pieces leading joints.head? ++ (joints.head?.map joint).getD ""
        ++ chain relative false more joints.tail

mutual
/-- The text of a simple selector. -/
def simple : Simple → String
  | .nesting => "&"
  | .qualifier q => qualifier q
  | .universal => "*"
  | .type name => ident name
  | .id name => "#" ++ ident name
  | .class name => "." ++ ident name
  | .attr q name test => attributeText q name test
  | .scope => ":scope"
  | .pseudoClass text => ":" ++ text
  | .nth kind step offset =>
    if step == 0 && offset == 1 then ":" ++ kind.edgeName
    else ":" ++ kind.functionName ++ "(" ++ affine step offset ++ ")"
  | .nthOf kind step offset among =>
    ":" ++ kind.functionName ++ "(" ++ affine step offset ++ " of "
      ++ String.intercalate ", " (selectors true among) ++ ")"
  | .host inner => ":host(" ++ selector false inner ++ ")"
  | .matching name alternatives =>
    match name, alternatives, selectors false alternatives with
    | "is", [only], [text] =>
      if only.isCompound && !only.hasType then text else ":is(" ++ text ++ ")"
    | _, _, texts => ":" ++ name ++ "(" ++ String.intercalate ", " texts ++ ")"
  | .has relatives => ":has(" ++ String.intercalate ", " (selectors true relatives) ++ ")"
  | .pseudoElement text => text
  | .part names => "::part(" ++ String.intercalate " " (names.map ident) ++ ")"
  | .slotted inner => "::slotted(" ++ selector false inner ++ ")"
/-- The text of a selector. -/
def selector (relative : Bool) : Selector → String
  | .chain first rest =>
    chain relative true (simples first :: linked rest) (rest.map (·.1))
/-- Every simple selector of a compound beside its text. -/
def simples : List Simple → List Piece
  | [] => []
  | s :: rest => (s, simple s) :: simples rest
/-- The compounds behind the first one. -/
def linked : List (Joint × List Simple) → List (List Piece)
  | [] => []
  | (_, compound) :: rest => simples compound :: linked rest
/-- The texts of several selectors. -/
def selectors (relative : Bool) : List Selector → List String
  | [] => []
  | s :: rest => selector relative s :: selectors relative rest
end

/-- The text of a selector list. -/
def selectorList (list : List Selector) : String :=
  String.intercalate ", " (selectors false list)

end Written

end SelectorCatalog.Css
