import SelectorCatalog.Html.Element

/-!
# The tree of a document

Nodes are numbered in the order in which they are created, which is the order in which their tags
stand in the document. A node may move to another parent later.
-/

namespace SelectorCatalog.Html

/-- What a node is. -/
inductive Kind where
  | document
  | element (space : Space) (tag : Tag)
  | text (content : String)
deriving Repr

/-- A node with its place in the tree. -/
structure Node where
  kind : Kind
  parent : Option NodeId := none
  children : Array NodeId := #[]
deriving Repr

instance : Inhabited Node := ⟨⟨.document, none, #[]⟩⟩

/-- A tree; node 0 is the document itself. -/
structure Tree where
  nodes : Array Node
deriving Repr

/-- Where a new node goes. -/
inductive Spot where
  | lastIn (parent : NodeId)
  | before (sibling : NodeId)
deriving Repr

namespace Tree

/-- The tree of an empty document. -/
def empty : Tree := ⟨#[⟨.document, none, #[]⟩]⟩

/-- The number of the document. -/
def root : NodeId := 0

/-- Adds a node without a parent. -/
def create (t : Tree) (kind : Kind) : Tree × NodeId :=
  (⟨t.nodes.push ⟨kind, none, #[]⟩⟩, t.nodes.size)

/-- Changes a node. -/
def update (t : Tree) (n : NodeId) (f : Node → Node) : Tree :=
  ⟨t.nodes.modify n f⟩

/-- The parent of a node. -/
def parent? (t : Tree) (n : NodeId) : Option NodeId :=
  t.nodes[n]? >>= Node.parent

/-- The children of a node. -/
def children (t : Tree) (n : NodeId) : Array NodeId :=
  (t.nodes[n]?.map Node.children).getD #[]

/-- Takes a node out of its parent. -/
def detach (t : Tree) (n : NodeId) : Tree :=
  match t.parent? n with
  | none => t
  | some p =>
    (t.update p fun node => { node with children := node.children.filter (· != n) }).update n
      fun node => { node with parent := none }

/-- Makes a node that has no parent the last child of `p`. -/
def append (t : Tree) (p n : NodeId) : Tree :=
  (t.update p fun node => { node with children := node.children.push n }).update n
    fun node => { node with parent := some p }

/-- The children with `n` put in front of `sibling`. -/
def putBefore (sibling n : NodeId) (children : Array NodeId) : Array NodeId :=
  children.flatMap fun m => if m == sibling then #[n, m] else #[m]

/-- Puts a node that has no parent at a spot. -/
def place (t : Tree) (n : NodeId) : Spot → Tree
  | .lastIn p => t.append p n
  | .before sibling =>
    match t.parent? sibling with
    | none => t
    | some p =>
      (t.update p fun node => { node with children := putBefore sibling n node.children }).update n
        fun node => { node with parent := some p }

/-- The text node that a character put at a spot belongs to. -/
def textAt (t : Tree) : Spot → Option NodeId
  | .lastIn p => (t.children p).back?
  | .before sibling => do
    let siblings := t.children (← t.parent? sibling)
    let i ← siblings.idxOf? sibling
    if i == 0 then none else siblings[i - 1]?

/-- Whether a node is text. -/
def isText (t : Tree) (n : NodeId) : Bool :=
  match t.nodes[n]? with
  | some ⟨.text _, _, _⟩ => true
  | _ => false

/-- Adds a character to a text. -/
def pushChar (c : Char) : Node → Node
  | ⟨.text content, parent, children⟩ => ⟨.text (content.push c), parent, children⟩
  | node => node

/-- Puts a character at a spot; it joins a text that ends there. -/
def placeChar (t : Tree) (c : Char) (spot : Spot) : Tree :=
  match (t.textAt spot).filter t.isText with
  | some n => t.update n (pushChar c)
  | none =>
    let (t, n) := t.create (.text (String.singleton c))
    t.place n spot

/-- Moves all children of a node to the end of another's. -/
def moveChildren (t : Tree) (source target : NodeId) : Tree :=
  (t.children source).foldl (fun t n => (t.detach n).append target n) t

/-- The text below a node, in the order of the tree; `depth` bounds how far down it looks. -/
def textWithin (t : Tree) : Nat → NodeId → String
  | 0, _ => ""
  | depth + 1, n =>
    match t.nodes[n]? with
    | none => ""
    | some node =>
      match node.kind with
      | .text content => content
      | _ => node.children.foldl (fun text m => text ++ t.textWithin depth m) ""

/-- The text below a node, in the order of the tree. -/
def text (t : Tree) (n : NodeId) : String :=
  t.textWithin t.nodes.size n

/-- The tag of an element. -/
def tag? (t : Tree) (n : NodeId) : Option Tag :=
  match t.nodes[n]? with
  | some ⟨.element _ tag, _, _⟩ => some tag
  | _ => none

/-- The elements of a name, in any vocabulary and in the order of their tags, with their tags. -/
def elements (t : Tree) (name : String) : List (NodeId × Tag) :=
  (List.range t.nodes.size).filterMap fun n =>
    (t.tag? n).bind fun tag =>
      if tag.name == name && (t.parent? n).isSome then some (n, tag) else none

end Tree

end SelectorCatalog.Html
