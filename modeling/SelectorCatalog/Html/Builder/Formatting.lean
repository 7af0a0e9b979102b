import SelectorCatalog.Html.Builder

/-!
# Formatting elements

An element such as `b` stays in effect when a paragraph inside it ends before it does: it is opened
again in what follows, and its closing tag splits the elements that it overlaps with. At most three
equal formatting elements are in effect at a time.
-/

namespace SelectorCatalog.Html.Builder

/-- Whether two elements come from equal tags, the order of attributes aside. -/
def sameTag (e f : Element) : Bool :=
  e.name == f.name && e.attributes.length == f.attributes.length &&
    e.attributes.all (f.attributes.contains ·)

/-- The formatting elements since the last marker, latest first. -/
def sinceMarker (b : Builder) : List Element :=
  (b.formatting.takeWhile (· != .marker)).filterMap Entry.element?

/-- Whether an entry is that of a node. -/
def isEntryOf (n : NodeId) : Entry → Bool
  | .element e => e.node == n
  | .marker => false

/-- Takes a node out of the formatting elements. -/
def dropFormatting (b : Builder) (n : NodeId) : Builder :=
  { b with formatting := b.formatting.filter fun entry => !isEntryOf n entry }

/-- Whether a node is a formatting element. -/
def isFormatting (b : Builder) (n : NodeId) : Bool :=
  b.formatting.any (isEntryOf n)

/-- Puts an element in the place of a node among the formatting elements. -/
def replaceFormatting (b : Builder) (n : NodeId) (e : Element) : Builder :=
  { b with formatting := b.formatting.map fun entry =>
    if isEntryOf n entry then .element e else entry }

/-- Puts an element right after a node among the formatting elements. -/
def insertFormattingAfter (b : Builder) (n : NodeId) (e : Element) : Builder :=
  { b with formatting := b.formatting.flatMap fun entry =>
    if isEntryOf n entry then [.element e, entry] else [entry] }

/-- Opens a formatting element; of more than three equal ones, the first is out of effect. -/
def insertFormatting (b : Builder) (tag : Tag) : Builder :=
  let (b, e) := b.insertIn .html tag
  let equal := b.sinceMarker.filter (sameTag e)
  let b := match equal.getLast? with
    | some first => if 3 ≤ equal.length then b.dropFormatting first.node else b
    | none => b
  { b with formatting := .element e :: b.formatting }

/-- Opens formatting elements again, outermost first; the result has them latest first. -/
def reopen (b : Builder) : List Element → Builder × List Element
  | [] => (b, [])
  | e :: later =>
    let (b, f) := b.insertIn .html ⟨e.name, e.attributes, false⟩
    let (b, fs) := reopen b later
    (b, fs ++ [f])

/-- Opens the formatting elements that are in effect and not open. -/
def reconstruct (b : Builder) : Builder :=
  let closed (entry : Entry) : Bool := entry.element?.any fun e => !b.isOpenNode e.node
  -- those since the latest marker or open element
  let pending := b.formatting.takeWhile closed
  if pending.isEmpty then b
  else
    let (b, fresh) := b.reopen (pending.filterMap Entry.element?).reverse
    { b with formatting := fresh.map .element ++ b.formatting.drop pending.length }

/-- Closes the element that a closing tag names, unless a special element stands before it. -/
def closeOther (b : Builder) (name : String) : Builder :=
  if inScope Element.isSpecial (·.isHtml name) b.stack then
    (b.closeImplied Element.impliedEnds name).popThroughNamed name
  else b

/-! ## Overlapping elements -/

/-- The elements inside and outside the outermost special one, and that one. -/
def splitAtOutermostSpecial : List Element → Option (List Element × Element × List Element)
  | [] => none
  | e :: outer =>
    match splitAtOutermostSpecial outer with
    | some (inside, block, between) => some (e :: inside, block, between)
    | none => if e.isSpecial then some ([], e, outer) else none

/-- How far the elements between a formatting element and the block inside it are copied. -/
structure Chain where
  builder : Builder
  /-- The copies that stay open, innermost first. -/
  kept : List Element
  /-- The outermost node of the chain so far. -/
  top : NodeId
  /-- The first copy, after which the formatting element takes its new place. -/
  bookmark : Option NodeId

/-- Copies the elements between a block and the formatting element around it, from the innermost
outwards; only the first three that are still in effect stay. -/
def Chain.extend (chain : Chain) (count : Nat) : List Element → Chain
  | [] => chain
  | e :: outer =>
    let b := chain.builder
    -- further out the chain copies nothing, and what it passes is out of effect
    if 3 < count then
      Chain.extend { chain with builder := b.dropFormatting e.node } (count + 1) outer
    else if !b.isFormatting e.node then chain.extend (count + 1) outer
    else
      let (b, copy) := b.create .html ⟨e.name, e.attributes, false⟩
      let b := b.replaceFormatting e.node copy
      let b := { b with tree := (b.tree.detach chain.top).append copy.node chain.top }
      Chain.extend ⟨b, chain.kept ++ [copy], copy.node, chain.bookmark.or (some copy.node)⟩
        (count + 1) outer

/-- Splits a formatting element around a block inside it. -/
def splitAround (b : Builder) (f block : Element) (inside between outer : List Element) : Builder :=
  let chain := Chain.extend ⟨b, [], block.node, none⟩ 1 between
  let b := { chain.builder with stack := inside ++ block :: chain.kept ++ f :: outer }
  let spot := match outer with
    | e :: _ => b.spotIn e
    -- the chain moves to where the next element would be inserted outside
    | [] => .lastIn Tree.root
  let b := { b with tree := (b.tree.detach chain.top).place chain.top spot }
  let (b, copy) := b.create .html ⟨f.name, f.attributes, false⟩
  -- what was inside the block is formatted by a copy of the element
  let b := { b with tree := (b.tree.moveChildren block.node copy.node).append block.node copy.node }
  let b := match chain.bookmark with
    | none => b.replaceFormatting f.node copy
    | some n => (b.insertFormattingAfter n copy).dropFormatting f.node
  { b with stack := inside ++ copy :: block :: chain.kept ++ outer }

/-- One round of closing a formatting element by its name; after a split there may be more to close.
-/
def closeOnce (b : Builder) (name : String) : Outcome :=
  match b.sinceMarker.find? (·.name == name) with
  | none => .done (b.closeOther name)
  | some f =>
    -- in effect, but closed by something else
    if !b.isOpenNode f.node then .done (b.dropFormatting f.node)
    else if !inScope Element.boundsScope (·.node == f.node) b.stack then .done b
    else
      let inner := b.stack.takeWhile (·.node != f.node)
      let outer := b.stack.drop (inner.length + 1)
      match splitAtOutermostSpecial inner with
      -- no block is inside, so everything up to the element is closed
      | none => .done { b.dropFormatting f.node with stack := outer }
      | some (inside, block, between) => .again (b.splitAround f block inside between outer)

/-- The given number of rounds of closing a formatting element. -/
def closeRounds (name : String) : Nat → Builder → Builder
  | 0, b => b
  | n + 1, b =>
    match b.closeOnce name with
    | .done b => b
    | .again b => closeRounds name n b

/-- Closes a formatting element by its name. -/
def closeFormatting (b : Builder) (name : String) : Builder :=
  match b.stack with
  | e :: outer =>
    if e.isHtml name && !b.isFormatting e.node then { b with stack := outer }
    -- each round may find one more element of the name
    else closeRounds name 8 b
  | [] => b

/-- Closes a link that is still in effect, since links do not nest. -/
def closeAnchor (b : Builder) : Builder :=
  match b.sinceMarker.find? (·.name == "a") with
  | none => b
  | some e => ((b.closeFormatting "a").dropFormatting e.node).forget e.node

end SelectorCatalog.Html.Builder
