import SelectorCatalog.Html.Reference
import SelectorCatalog.Html.Tree

/-!
# The state in which a tree is built

A builder holds the tree so far, the open elements with the innermost first, and what the rules of
HTML remember between tokens. Elements that a table cannot hold are put in front of the table while
`fostering` is set.
-/

namespace SelectorCatalog.Html

/-- The part of a document that the next token is expected in. -/
inductive Mode where
  | beforeRoot
  | beforeHead
  | head
  | afterHead
  | body
  | rawText
  | table
  | tableText
  | caption
  | columns
  | tableBody
  | row
  | cell
  | choices
  | choicesInTable
  | template
  | afterBody
  | frameset
  | afterFrameset
  | afterDocument
  | afterFramesetDocument
deriving DecidableEq, Repr

/-- An entry of the list of formatting elements; markers part the entries of cells, captions and the
like. -/
inductive Entry where
  | marker
  | element (e : Element)
deriving DecidableEq, Repr

/-- The element of an entry. -/
def Entry.element? : Entry → Option Element
  | .element e => some e
  | .marker => none

/-- The state in which a tree is built. -/
structure Builder where
  tree : Tree
  /-- The open elements, innermost first. -/
  stack : List Element
  /-- The formatting elements in effect, latest first. -/
  formatting : List Entry
  mode : Mode
  /-- The mode to go back to after raw text or the text of a table. -/
  returnMode : Mode
  /-- The modes of the open templates, innermost first. -/
  templateModes : List Mode
  headElement : Option Element
  formElement : Option NodeId
  /-- Whether a frameset may still replace the body. -/
  framesetOk : Bool
  fostering : Bool
  /-- The text read directly inside a table, last character first. -/
  tableText : List Char
  /-- Whether a line feed that comes next is dropped. -/
  skipLineFeed : Bool
  /-- How the text after the current tag is read. -/
  content : Content

/-- What a token leads to: the builder after it, or a builder that looks at the same token again. -/
inductive Outcome where
  | done (b : Builder)
  | again (b : Builder)

namespace Builder

/-- The builder of an empty document. -/
def empty : Builder where
  tree := .empty
  stack := []
  formatting := []
  mode := .beforeRoot
  returnMode := .body
  templateModes := []
  headElement := none
  formElement := none
  framesetOk := true
  fostering := false
  tableText := []
  skipLineFeed := false
  content := .markup

/-- Another mode for the next token. -/
def turn (b : Builder) (mode : Mode) : Builder :=
  { b with mode := mode }

/-- Another mode for this token. -/
def retry (b : Builder) (mode : Mode) : Outcome :=
  .again (b.turn mode)

/-- No frameset can replace the body any more. -/
def noFrameset (b : Builder) : Builder :=
  { b with framesetOk := false }

/-! ## The open elements -/

/-- Whether the innermost element fulfils `p`. -/
def currentIs (b : Builder) (p : Element → Bool) : Bool :=
  b.stack.head?.any p

/-- Whether the innermost element is the HTML element of that name. -/
def currentNamed (b : Builder) (name : String) : Bool :=
  b.currentIs (·.isHtml name)

/-- Whether an HTML element of that name is open. -/
def isOpen (b : Builder) (name : String) : Bool :=
  b.stack.any (·.isHtml name)

/-- Whether an HTML element of that name is in a scope. -/
def hasIn (b : Builder) (bound : Element → Bool) (name : String) : Bool :=
  inScope bound (·.isHtml name) b.stack

/-- Whether a node is among the open elements. -/
def isOpenNode (b : Builder) (n : NodeId) : Bool :=
  b.stack.any (·.node == n)

/-- Closes the innermost element. -/
def pop (b : Builder) : Builder :=
  { b with stack := b.stack.drop 1 }

/-- Closes the innermost element if it has that name. -/
def popNamed (b : Builder) (name : String) : Builder :=
  if b.currentNamed name then b.pop else b

/-- Closes elements up to and with the first that fulfils `target`. -/
def popThrough (b : Builder) (target : Element → Bool) : Builder :=
  { b with stack := closeThrough target b.stack }

/-- Closes elements up to and with the first of that name. -/
def popThroughNamed (b : Builder) (name : String) : Builder :=
  b.popThrough (·.isHtml name)

/-- Closes elements until the innermost fulfils `target`. -/
def popTo (b : Builder) (target : Element → Bool) : Builder :=
  { b with stack := b.stack.dropWhile fun e => !target e }

/-- Takes one element out of the open ones, wherever it stands. -/
def forget (b : Builder) (n : NodeId) : Builder :=
  { b with stack := b.stack.filter (·.node != n) }

/-- Closes the innermost elements as long as they need no closing tag; `kept` is left open. -/
def closeImplied (b : Builder) (names : List String) (kept : String) : Builder :=
  { b with stack := b.stack.dropWhile fun e => e.isAny names && e.name != kept }

/-- Closes the innermost elements that need no closing tag. -/
def closeUsual (b : Builder) : Builder :=
  b.closeImplied Element.impliedEnds ""

/-- Closes what needs no closing tag, and then the innermost element of that name. -/
def closeNamed (b : Builder) (name : String) : Builder :=
  (b.closeImplied Element.impliedEnds name).popThroughNamed name

/-- Closes the paragraph that is in scope, if there is one. -/
def closeParagraph (b : Builder) : Builder :=
  if b.hasIn Element.boundsButtonScope "p" then b.closeNamed "p" else b

/-- Forgets the formatting elements since the last marker, and the marker. -/
def clearFormatting (b : Builder) : Builder :=
  { b with formatting := (b.formatting.dropWhile (· != .marker)).drop 1 }

/-- Adds a marker to the formatting elements. -/
def mark (b : Builder) : Builder :=
  { b with formatting := .marker :: b.formatting }

/-! ## Inserting -/

/-- The spot for what a table cannot hold. -/
def fosterSpot : List Element → Spot
  | [] => .lastIn Tree.root
  | [e] => .lastIn e.node
  | e :: outer =>
    if e.isHtml "template" then .lastIn e.node
    else if e.isHtml "table" then .before e.node else fosterSpot outer

/-- Elements whose text and unknown content is put in front of the table. -/
def tableParts : List String := ["table", "tbody", "tfoot", "thead", "tr"]

/-- The spot where a node is inserted that belongs into `target`. -/
def spotIn (b : Builder) (target : Element) : Spot :=
  if b.fostering && target.isAny tableParts then fosterSpot b.stack else .lastIn target.node

/-- The spot where a node is inserted. -/
def spot (b : Builder) : Spot :=
  match b.stack with
  | e :: _ => b.spotIn e
  | [] => .lastIn Tree.root

/-- Puts a node at a spot. -/
def place (b : Builder) (n : NodeId) (spot : Spot) : Builder :=
  { b with tree := b.tree.place n spot }

/-- Creates an element. -/
def create (b : Builder) (space : Space) (tag : Tag) : Builder × Element :=
  let (tree, n) := b.tree.create (.element space tag)
  ({ b with tree := tree }, ⟨n, space, tag.name, tag.attributes⟩)

/-- Inserts an element without opening it. -/
def insertEmptyIn (b : Builder) (space : Space) (tag : Tag) : Builder × Element :=
  let spot := b.spot
  let (b, e) := b.create space tag
  (b.place e.node spot, e)

/-- Opens an element. -/
def push (b : Builder) (e : Element) : Builder :=
  { b with stack := e :: b.stack }

/-- Inserts an element and opens it. -/
def insertIn (b : Builder) (space : Space) (tag : Tag) : Builder × Element :=
  let (b, e) := b.insertEmptyIn space tag
  (b.push e, e)

/-- Inserts an HTML element and opens it. -/
def insert (b : Builder) (tag : Tag) : Builder :=
  (b.insertIn .html tag).1

/-- Inserts an HTML element that no tag stands for and opens it. -/
def insertImplied (b : Builder) (name : String) : Builder :=
  b.insert { name := name }

/-- Inserts an HTML element that holds nothing. -/
def insertEmpty (b : Builder) (tag : Tag) : Builder :=
  (b.insertEmptyIn .html tag).1

/-- Inserts a character. -/
def insertChar (b : Builder) (c : Char) : Builder :=
  let spot := b.spot
  { b with tree := b.tree.placeChar c spot }

/-- Inserts an HTML element whose content is raw text. -/
def insertRaw (b : Builder) (tag : Tag) (content : Content) : Builder :=
  { b.insert tag with returnMode := b.mode, mode := .rawText, content := content }

/-! ## The mode that the open elements ask for -/

/-- The mode inside a list of choices: it depends on whether a table is around it. -/
def choicesMode : List Element → Mode
  | [] => .choices
  | e :: outer =>
    if e.isHtml "template" then .choices
    else if e.isHtml "table" then .choicesInTable else choicesMode outer

/-- The mode that the open elements ask for. -/
def modeFor (templateModes : List Mode) (hasHead : Bool) : List Element → Mode
  | [] => .body
  | e :: outer =>
    if e.space != .html then modeFor templateModes hasHead outer
    else match e.name with
      | "select" => choicesMode outer
      | "td" | "th" => if outer.isEmpty then .body else .cell
      | "tr" => .row
      | "tbody" | "thead" | "tfoot" => .tableBody
      | "caption" => .caption
      | "colgroup" => .columns
      | "table" => .table
      | "template" => templateModes.head?.getD .template
      | "head" => if outer.isEmpty then .body else .head
      | "body" => .body
      | "frameset" => .frameset
      | "html" => if hasHead then .afterHead else .beforeHead
      | _ => modeFor templateModes hasHead outer

/-- The mode that the open elements ask for. -/
def fittingMode (b : Builder) : Mode :=
  modeFor b.templateModes b.headElement.isSome b.stack

/-- Turns to the mode that the open elements ask for. -/
def turnFitting (b : Builder) : Builder :=
  b.turn b.fittingMode

end Builder

end SelectorCatalog.Html
