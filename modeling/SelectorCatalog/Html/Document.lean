import SelectorCatalog.Html.Builder.Step
import SelectorCatalog.Html.Lexer
import SelectorCatalog.Link

/-!
# Documents

What the catalogue needs to know of an HTML document: the targets of its links that name local
stylesheets, the paths that these resolve to, and the text of its style elements. Any text is a
document. Elements count in the order of their tags, those inside a template included.
-/

namespace SelectorCatalog.Html

namespace Builder

/-- Takes a row of tokens in. -/
def takeAll (b : Builder) (tokens : List Token) : Builder :=
  tokens.foldl take b

/-- Takes the end of the document in: text collected inside a table is still placed. -/
def finish (b : Builder) : Builder :=
  if b.mode == .tableText then b.flushTableText else b

/-- Reads the rest of a document. -/
def read (b : Builder) (s : List Char) : Builder :=
  match s with
  | [] => b.finish
  | c :: rest =>
    let piece := Lexer.piece b.inForeign c rest
    have := Lexer.length_piece_le b.inForeign c rest
    let b := b.takeAll piece.tokens
    let content := b.content
    have := Lexer.length_cut_le content piece.rest
    let raw := Lexer.cut content piece.rest
    read ({ b with content := .markup }.takeAll (raw.1.map .char)) raw.2
termination_by s.length
decreasing_by
  simp only [List.length_cons]
  exact Nat.lt_succ_of_le (Nat.le_trans (Lexer.length_cut_le _ _) (Lexer.length_piece_le _ _ _))

end Builder

/-- The tree of a document. -/
def Tree.ofText (text : String) : Tree :=
  (Builder.empty.read (Lexer.unixLines (Lexer.withoutMark text.toList))).tree

namespace Document

/-- The targets of the links in a document. -/
def targets (t : Tree) : List (List Char) :=
  (t.elements "link").filterMap fun (_, tag) => (tag.attribute? "href").map String.toList

/-- Of link targets, those that name local stylesheets, without the blanks around them. -/
def localStylesheets (targets : List (List Char)) : List (List Char) :=
  (targets.filter Link.isLocalStylesheet).map Text.trim

/-- The paths that local stylesheets among link targets resolve to, one for each. -/
def dependenciesOf (targets : List (List Char)) (document : Path) (root : Option Path) :
    List Path :=
  (localStylesheets targets).map fun href => Link.resolve href document root

/-- The links of a document to local stylesheets. -/
def stylesheets (text : String) : List (List Char) :=
  localStylesheets (targets (Tree.ofText text))

/-- The paths of the local stylesheets that a document links. -/
def dependencies (text : String) (document : Path) (root : Option Path) : List Path :=
  dependenciesOf (targets (Tree.ofText text)) document root

/-- The texts of the style elements of a document, blank ones left out. -/
def styles (text : String) : List String :=
  let t := Tree.ofText text
  ((t.elements "style").map fun (n, _) => t.text n).filter fun s => !s.toList.all Text.isBlank

end Document

end SelectorCatalog.Html
