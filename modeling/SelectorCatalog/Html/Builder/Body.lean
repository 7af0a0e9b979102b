import SelectorCatalog.Html.Builder.Formatting

/-!
# Head and body

How a token is placed in the head of a document, between head and body, and in the body. The body's
rules also serve where a table or a template has none of its own.
-/

namespace SelectorCatalog.Html.Builder

/-- Opens an element that belongs to the head wherever it stands; `none` for other names. -/
def openMetadata? (b : Builder) (tag : Tag) : Option Builder :=
  match tag.name with
  | "base" | "basefont" | "bgsound" | "link" | "meta" => some (b.insertEmpty tag)
  | "title" => some (b.insertRaw tag (.escapable tag.name))
  | "noframes" | "style" => some (b.insertRaw tag (.raw tag.name))
  | "script" => some (b.insertRaw tag .script)
  | "template" =>
    let b := (b.insert tag).mark.noFrameset
    some { b with mode := .template, templateModes := .template :: b.templateModes }
  | _ => none

/-- Closes the innermost template. -/
def closeTemplate (b : Builder) : Builder :=
  if b.isOpen "template" then
    let b := ((b.closeImplied Element.thoroughEnds "").popThroughNamed "template").clearFormatting
    { b with templateModes := b.templateModes.drop 1 }.turnFitting
  else b

/-! ## Up to the body -/

/-- Before the root element. -/
def beforeRoot (b : Builder) : Token → Outcome
  | .char c => if isSpace c then .done b else (b.insertImplied "html").retry .beforeHead
  | .comment => .done b
  | .opening tag =>
    -- any other token finds the elements it lacks opened for it, and is read again
    if tag.name == "html" then .done ((b.insert tag).turn .beforeHead)
    else (b.insertImplied "html").retry .beforeHead
  | .closing tag =>
    if ["head", "body", "html", "br"].contains tag.name then
      (b.insertImplied "html").retry .beforeHead
    else .done b

/-- Opens the head. -/
def openHead (b : Builder) (tag : Tag) : Builder :=
  let (b, e) := b.insertIn .html tag
  { b with headElement := some e, mode := .head }

/-- Before the head. -/
def beforeHead (b : Builder) : Token → Outcome
  | .char c => if isSpace c then .done b else .again (b.openHead { name := "head" })
  | .comment => .done b
  | .opening tag =>
    if tag.name == "html" then .done b
    else if tag.name == "head" then .done (b.openHead tag)
    else .again (b.openHead { name := "head" })
  | .closing tag =>
    if ["head", "body", "html", "br"].contains tag.name then .again (b.openHead { name := "head" })
    else .done b

/-- In the head. -/
def inHead (b : Builder) : Token → Outcome
  | .char c => if isSpace c then .done (b.insertChar c) else b.pop.retry .afterHead
  | .comment => .done b
  | .opening tag =>
    match tag.name with
    | "html" | "head" => .done b
    | "noscript" => .done (b.insertRaw tag (.raw tag.name))
    | _ =>
      match b.openMetadata? tag with
      | some b => .done b
      | none => b.pop.retry .afterHead
  | .closing tag =>
    match tag.name with
    | "head" => .done (b.pop.turn .afterHead)
    | "body" | "html" | "br" => b.pop.retry .afterHead
    | "template" => .done b.closeTemplate
    | _ => .done b

/-- Opens an element of the head after the head has ended: the head is open again just for it. -/
def openLateMetadata? (b : Builder) (tag : Tag) : Option Builder :=
  match b.headElement with
  -- that head is no longer open, but it is the place to insert
  | some head => ((b.push head).openMetadata? tag).map (·.forget head.node)
  | none => b.openMetadata? tag

/-- Between head and body. -/
def afterHead (b : Builder) : Token → Outcome
  | .char c => if isSpace c then .done (b.insertChar c) else (b.insertImplied "body").retry .body
  | .comment => .done b
  | .opening tag =>
    match tag.name with
    | "html" | "head" => .done b
    | "body" => .done ((b.insert tag).noFrameset.turn .body)
    | "frameset" => .done ((b.insert tag).turn .frameset)
    | _ =>
      match b.openLateMetadata? tag with
      | some b => .done b
      | none => (b.insertImplied "body").retry .body
  | .closing tag =>
    match tag.name with
    | "template" => .done b.closeTemplate
    | "body" | "html" | "br" => (b.insertImplied "body").retry .body
    | _ => .done b

/-! ## The body -/

/-- Names of the elements that end a paragraph and start a block. -/
def blocks : List String :=
  ["address", "article", "aside", "blockquote", "center", "details", "dialog", "dir", "div", "dl",
    "fieldset", "figcaption", "figure", "footer", "header", "hgroup", "main", "menu", "nav", "ol",
    "p", "search", "section", "summary", "ul"]

/-- Names of the elements that a closing tag closes with all that is open inside them. -/
def closedAsBlocks : List String :=
  ["address", "article", "aside", "blockquote", "button", "center", "details", "dialog", "dir",
    "div", "dl", "fieldset", "figcaption", "figure", "footer", "header", "hgroup", "listing",
    "main", "menu", "nav", "ol", "pre", "search", "section", "summary", "ul"]

/-- Names of the formatting elements with no rule of their own. -/
def formattingNames : List String :=
  ["b", "big", "code", "em", "font", "i", "s", "small", "strike", "strong", "tt", "u"]

/-- Names of table parts, which mean nothing in a body. -/
def strayNames : List String :=
  ["caption", "col", "colgroup", "frame", "head", "tbody", "td", "tfoot", "th", "thead", "tr"]

/-- Whether an input is hidden. -/
def isHidden (tag : Tag) : Bool :=
  (tag.attribute? "type").any fun type => type.toList.map Char.toLower == "hidden".toList

/-- Opens an item of a list, closing the one before it. -/
def openItem (b : Builder) (tag : Tag) (names : List String) : Builder :=
  let b := b.noFrameset
  let stops (e : Element) : Bool := e.isSpecial && !e.isAny ["address", "div", "p"]
  -- the innermost item, unless something that items do not reach through stands before it
  let open? := (b.stack.dropWhile fun e => !e.isAny names && !stops e).head?.filter (·.isAny names)
  let b := match open? with
    | some e => b.closeNamed e.name
    | none => b
  b.closeParagraph.insert tag

/-- The body without its content becomes a frameset, unless something visible was read before. -/
def openFrameset (b : Builder) (tag : Tag) : Builder :=
  if !b.framesetOk then b
  else
    match b.stack.reverse with
    | root :: body :: _ =>
      if body.isHtml "body" then
        let b := { b with tree := b.tree.detach body.node, stack := [root] }
        (b.insert tag).turn .frameset
      else b
    | _ => b

/-- Opens an SVG or MathML element. -/
def openForeign (b : Builder) (space : Space) (tag : Tag) : Builder :=
  if tag.selfClosing then (b.insertEmptyIn space tag).1 else (b.insertIn space tag).1

/-- A row of characters in the body. -/
def charInBody (b : Builder) (c : Char) : Builder :=
  -- a null character is dropped
  if c.toNat == 0 then b
  else
    let b := b.reconstruct
    -- something visible rules a frameset out
    let b := if isSpace c then b else b.noFrameset
    b.insertChar c

/-- An opening tag in the body whose name is none of the common ones. -/
def openRareInBody (b : Builder) (tag : Tag) : Builder :=
  match tag.name with
  | "body" =>
    -- a second body adds nothing but rules a frameset out
    if b.stack.length != 1 && !b.isOpen "template" &&
        (b.stack.reverse[1]?).any (·.isHtml "body") then b.noFrameset
    else b
  | "frameset" => b.openFrameset tag
  | "form" =>
    if b.formElement.isSome && !b.isOpen "template" then b
    -- inside a template forms are elements like any other
    else
      let (b, e) := b.closeParagraph.insertIn .html tag
      if b.isOpen "template" then b else { b with formElement := some e.node }
  | "plaintext" => { b.closeParagraph.insert tag with content := .plain }
  | "button" =>
    let b :=
      if b.hasIn Element.boundsScope "button" then b.closeUsual.popThroughNamed "button" else b
    (b.reconstruct.insert tag).noFrameset
  | "a" => b.closeAnchor.reconstruct.insertFormatting tag
  | "nobr" =>
    let b := b.reconstruct
    let b :=
      if b.hasIn Element.boundsScope "nobr" then (b.closeFormatting "nobr").reconstruct else b
    b.insertFormatting tag
  | "applet" | "marquee" | "object" => (b.reconstruct.insert tag).mark.noFrameset
  | "table" => (b.closeParagraph.insert tag).noFrameset.turn .table
  | "input" =>
    let b := b.reconstruct.insertEmpty tag
    if isHidden tag then b else b.noFrameset
  | "hr" => (b.closeParagraph.insertEmpty tag).noFrameset
  | "textarea" => { b.noFrameset.insertRaw tag (.escapable tag.name) with skipLineFeed := true }
  | "xmp" => b.closeParagraph.reconstruct.noFrameset.insertRaw tag (.raw tag.name)
  | "iframe" => b.noFrameset.insertRaw tag (.raw tag.name)
  | "noembed" | "noscript" => b.insertRaw tag (.raw tag.name)
  | "select" =>
    let mode :=
      if [Mode.table, .caption, .tableBody, .row, .cell].contains b.mode then .choicesInTable
      else .choices
    (b.reconstruct.insert tag).noFrameset.turn mode
  | "optgroup" | "option" => (b.popNamed "option").reconstruct.insert tag
  | "rb" | "rtc" => (if b.hasIn Element.boundsScope "ruby" then b.closeUsual else b).insert tag
  | "rp" | "rt" =>
    (if b.hasIn Element.boundsScope "ruby" then b.closeImplied Element.impliedEnds "rtc"
      else b).insert tag
  | "math" => b.reconstruct.openForeign .math tag
  | "svg" => b.reconstruct.openForeign .svg tag
  | _ => b.reconstruct.insert tag

/-- An opening tag in the body. -/
def openInBody (b : Builder) (tag : Tag) : Builder :=
  match b.openMetadata? tag with
  | some b => b
  | none =>
    if tag.name == "html" || strayNames.contains tag.name then b
    else if blocks.contains tag.name then b.closeParagraph.insert tag
    else if Element.headings.contains tag.name then
      let b := b.closeParagraph
      (if b.currentIs (·.isAny Element.headings) then b.pop else b).insert tag
    else if tag.name == "pre" || tag.name == "listing" then
      { (b.closeParagraph.insert tag).noFrameset with skipLineFeed := true }
    else if tag.name == "li" then b.openItem tag ["li"]
    else if tag.name == "dd" || tag.name == "dt" then b.openItem tag ["dd", "dt"]
    else if formattingNames.contains tag.name then b.reconstruct.insertFormatting tag
    else if ["area", "br", "embed", "img", "keygen", "wbr"].contains tag.name then
      (b.reconstruct.insertEmpty tag).noFrameset
    else if tag.name == "image" then
      (b.reconstruct.insertEmpty { tag with name := "img" }).noFrameset
    else if ["param", "source", "track"].contains tag.name then b.insertEmpty tag
    else b.openRareInBody tag

/-- The closing tag of a form. -/
def closeForm (b : Builder) : Builder :=
  if b.isOpen "template" then
    if b.hasIn Element.boundsScope "form" then b.closeUsual.popThroughNamed "form" else b
  else
    match b.formElement with
    | none => b
    | some n =>
      let b := { b with formElement := none }
      -- a form is closed out of its order if need be
      if inScope Element.boundsScope (·.node == n) b.stack then b.closeUsual.forget n else b

/-- A closing tag in the body, those of the body and of the root element aside. -/
def closeInBody (b : Builder) (name : String) : Builder :=
  if closedAsBlocks.contains name then
    if b.hasIn Element.boundsScope name then b.closeUsual.popThroughNamed name else b
  else if Element.headings.contains name then
    if inScope Element.boundsScope (·.isAny Element.headings) b.stack then
      b.closeUsual.popThrough (·.isAny Element.headings)
    else b
  else if formattingNames.contains name then b.closeFormatting name
  else
    match name with
    | "template" => b.closeTemplate
    | "form" => b.closeForm
    | "p" =>
      -- a closing tag without a paragraph makes an empty one
      (if b.hasIn Element.boundsButtonScope "p" then b else b.insertImplied "p").closeNamed "p"
    | "li" => if b.hasIn Element.boundsListScope "li" then b.closeNamed "li" else b
    | "dd" | "dt" => if b.hasIn Element.boundsScope name then b.closeNamed name else b
    | "a" | "nobr" => b.closeFormatting name
    | "applet" | "marquee" | "object" =>
      if b.hasIn Element.boundsScope name then (b.closeUsual.popThroughNamed name).clearFormatting
      else b
    | "br" => (b.reconstruct.insertEmpty { name := "br" }).noFrameset
    | _ => b.closeOther name

/-- In the body. -/
def inBody (b : Builder) : Token → Outcome
  | .char c => .done (b.charInBody c)
  | .comment => .done b
  | .opening tag => .done (b.openInBody tag)
  | .closing tag =>
    match tag.name with
    | "body" => .done (if b.hasIn Element.boundsScope "body" then b.turn .afterBody else b)
    | "html" => if b.hasIn Element.boundsScope "body" then b.retry .afterBody else .done b
    | name => .done (b.closeInBody name)

end SelectorCatalog.Html.Builder
