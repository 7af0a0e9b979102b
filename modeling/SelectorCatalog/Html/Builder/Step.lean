import SelectorCatalog.Html.Builder.Table

/-!
# One token

How a builder takes a token in: by the rules of its mode, or by those of SVG and MathML when such an
element is innermost and does not hold HTML at this place.
-/

namespace SelectorCatalog.Html.Builder

/-- In raw text, which ends with the closing tag of its element. -/
def inRawText (b : Builder) : Token → Outcome
  | .char c => .done (b.insertChar c)
  | .closing _ => .done (b.pop.turn b.returnMode)
  | _ => .done b

/-! ## Lists of choices -/

/-- Closes the list of choices for what it cannot hold. -/
def leaveChoices (b : Builder) : Outcome :=
  if b.hasIn Element.boundsSelectScope "select" then .again (b.popThroughNamed "select").turnFitting
  else .done b

/-- Closes the list of choices. -/
def closeChoices (b : Builder) : Builder :=
  if b.hasIn Element.boundsSelectScope "select" then (b.popThroughNamed "select").turnFitting else b

/-- The closing tag of a group of choices. -/
def closeChoiceGroup (b : Builder) : Builder :=
  let inGroup := (b.stack[1]?).any (·.isHtml "optgroup")
  (if inGroup then b.popNamed "option" else b).popNamed "optgroup"

/-- In a list of choices. -/
def inChoices (b : Builder) : Token → Outcome
  | .char c => .done (if c.toNat == 0 then b else b.insertChar c)
  | .comment => .done b
  | .opening tag =>
    match tag.name with
    | "option" => .done ((b.popNamed "option").insert tag)
    | "optgroup" => .done (((b.popNamed "option").popNamed "optgroup").insert tag)
    | "hr" => .done (((b.popNamed "option").popNamed "optgroup").insertEmpty tag)
    | "select" => .done b.closeChoices
    | "input" | "keygen" | "textarea" => b.leaveChoices
    | "script" | "template" => .done ((b.openMetadata? tag).getD b)
    | _ => .done b
  | .closing tag =>
    match tag.name with
    | "optgroup" => .done b.closeChoiceGroup
    | "option" => .done (b.popNamed "option")
    | "select" => .done b.closeChoices
    | "template" => .done b.closeTemplate
    | _ => .done b

/-- Names of the table parts that end a list of choices inside a table. -/
def tableNames : List String :=
  ["caption", "table", "tbody", "tfoot", "thead", "tr", "td", "th"]

/-- In a list of choices inside a table. -/
def inChoicesInTable (b : Builder) (token : Token) : Outcome :=
  match token with
  | .opening tag =>
    if tableNames.contains tag.name then .again (b.popThroughNamed "select").turnFitting
    else b.inChoices token
  | .closing tag =>
    if tableNames.contains tag.name then
      if b.hasIn Element.boundsTableScope tag.name then
        .again (b.popThroughNamed "select").turnFitting
      else .done b
    else b.inChoices token
  | _ => b.inChoices token

/-! ## Templates -/

/-- Turns a template to the mode that its content asks for. -/
def turnTemplate (b : Builder) (mode : Mode) : Outcome :=
  -- the innermost template is the one that is turned
  { b with templateModes := mode :: b.templateModes.drop 1 }.retry mode

/-- At the start of a template. -/
def inTemplate (b : Builder) (token : Token) : Outcome :=
  match token with
  | .char _ => b.inBody token
  | .comment => .done b
  | .opening tag =>
    match b.openMetadata? tag with
    | some b => .done b
    | none =>
      match tag.name with
      | "caption" | "colgroup" | "tbody" | "tfoot" | "thead" => b.turnTemplate .table
      | "col" => b.turnTemplate .columns
      | "tr" => b.turnTemplate .tableBody
      | "td" | "th" => b.turnTemplate .row
      | _ => b.turnTemplate .body
  | .closing tag => .done (if tag.name == "template" then b.closeTemplate else b)

/-! ## After the body, and framesets -/

/-- After the body. -/
def afterBody (b : Builder) (token : Token) : Outcome :=
  match token with
  | .char c => if isSpace c then b.inBody token else b.retry .body
  | .comment => .done b
  | .opening tag => if tag.name == "html" then .done b else b.retry .body
  | .closing tag => if tag.name == "html" then .done (b.turn .afterDocument) else b.retry .body

/-- After the root element. -/
def afterDocument (b : Builder) (token : Token) : Outcome :=
  match token with
  | .char c => if isSpace c then b.inBody token else b.retry .body
  | .comment => .done b
  | .opening tag => if tag.name == "html" then .done b else b.retry .body
  | .closing _ => b.retry .body

/-- In a frameset. -/
def inFrameset (b : Builder) : Token → Outcome
  | .char c => .done (if isSpace c then b.insertChar c else b)
  | .comment => .done b
  | .opening tag =>
    match tag.name with
    | "frameset" => .done (b.insert tag)
    | "frame" => .done (b.insertEmpty tag)
    | "noframes" => .done ((b.openMetadata? tag).getD b)
    | _ => .done b
  | .closing tag =>
    -- the outermost frameset stays when it is the root
    if tag.name == "frameset" && b.stack.length != 1 then
      let b := b.pop
      .done (if b.currentNamed "frameset" then b else b.turn .afterFrameset)
    else .done b

/-- After a frameset; nothing but text for readers without frames may follow. -/
def afterFrameset (b : Builder) : Token → Outcome
  | .char c => .done (if isSpace c then b.insertChar c else b)
  | .opening tag => .done (if tag.name == "noframes" then (b.openMetadata? tag).getD b else b)
  | .closing tag => .done (if tag.name == "html" then b.turn .afterFramesetDocument else b)
  | .comment => .done b

/-- After the root element of a document of frames. -/
def afterFramesetDocument (b : Builder) (token : Token) : Outcome :=
  match token with
  | .char c => if isSpace c then b.inBody token else .done b
  | .opening tag => .done (if tag.name == "noframes" then (b.openMetadata? tag).getD b else b)
  | _ => .done b

/-- By the rules of the mode. -/
def inMode (b : Builder) (token : Token) : Outcome :=
  match b.mode with
  | .beforeRoot => b.beforeRoot token
  | .beforeHead => b.beforeHead token
  | .head => b.inHead token
  | .afterHead => b.afterHead token
  | .body => b.inBody token
  | .rawText => b.inRawText token
  | .table => b.inTable token
  | .tableText => b.inTableText token
  | .caption => b.inCaption token
  | .columns => b.inColumns token
  | .tableBody => b.inTableBody token
  | .row => b.inRow token
  | .cell => b.inCell token
  | .choices => b.inChoices token
  | .choicesInTable => b.inChoicesInTable token
  | .template => b.inTemplate token
  | .afterBody => b.afterBody token
  | .frameset => b.inFrameset token
  | .afterFrameset => b.afterFrameset token
  | .afterDocument => b.afterDocument token
  | .afterFramesetDocument => b.afterFramesetDocument token

/-! ## SVG and MathML -/

/-- Names of the HTML elements that end the SVG or MathML around them. -/
def breakouts : List String :=
  ["b", "big", "blockquote", "body", "br", "center", "code", "dd", "div", "dl", "dt", "em", "embed",
    "h1", "h2", "h3", "h4", "h5", "h6", "head", "hr", "i", "img", "li", "listing", "menu", "meta",
    "nobr", "ol", "p", "pre", "ruby", "s", "small", "span", "strong", "strike", "sub", "sup",
    "table", "tt", "u", "ul", "var"]

/-- Whether an opening tag ends the SVG or MathML around it. -/
def breaksOut (tag : Tag) : Bool :=
  breakouts.contains tag.name || (tag.name == "font" &&
    (tag.has "color" || tag.has "face" || tag.has "size"))

/-- Whether HTML may stand directly inside an element. -/
def takesHtml (e : Element) : Bool :=
  e.space == .html || e.holdsText || e.holdsHtml

/-- Whether a token falls under the rules of SVG and MathML inside an element. -/
def isForeignIn (e : Element) : Token → Bool
  | .char _ => !takesHtml e
  | .opening tag =>
    -- such an element takes all of HTML but these two
    if e.holdsText then tag.name == "mglyph" || tag.name == "malignmark"
    else if e.space == .math && e.name == "annotation-xml" && tag.name == "svg" then false
    else !takesHtml e
  | _ => e.space != .html

/-- Whether a token falls under the rules of SVG and MathML. -/
def isForeign (b : Builder) (token : Token) : Bool :=
  b.currentIs (isForeignIn · token)

/-- Whether the innermost element is of SVG or MathML. -/
def inForeign (b : Builder) : Bool :=
  b.currentIs (·.space != .html)

/-- The name of an element in SVG, where letter case counts. -/
def svgName (name : String) : String :=
  if name == "foreignobject" then "foreignObject" else name

/-- Opens an element of the vocabulary of the innermost one. -/
def openLikeCurrent (b : Builder) (tag : Tag) : Builder :=
  match b.stack.head? with
  | some e =>
    b.openForeign e.space (if e.space == .svg then { tag with name := svgName tag.name } else tag)
  | none => b

/-- Closes SVG and MathML up to where HTML may stand, and reads the token by the rules of the mode.
-/
def breakOut (b : Builder) (token : Token) : Outcome :=
  (b.popTo takesHtml).inMode token

/-- What a closing tag means in SVG and MathML: the open elements down to the one that it closes, or
`none` when an element of HTML stands before that. -/
def closeForeign? (name : List Char) (first : Bool) : List Element → Option (List Element)
  | [] => none
  | e :: outer =>
    -- the innermost element was looked at already, and may be one of HTML
    if !first && e.space == .html then none
    else if e.name.toList.map Char.toLower == name then some outer
    else closeForeign? name false outer

/-- In SVG and MathML. -/
def inForeignContent (b : Builder) (token : Token) : Outcome :=
  match token with
  | .char c =>
    if c.toNat == 0 then .done (b.insertChar Reference.replacement)
    else .done ((if isSpace c then b else b.noFrameset).insertChar c)
  | .comment => .done b
  | .opening tag => if breaksOut tag then b.breakOut token else .done (b.openLikeCurrent tag)
  | .closing tag =>
    if tag.name == "br" || tag.name == "p" then b.breakOut token
    else
      match closeForeign? (tag.name.toList.map Char.toLower) true b.stack with
      | some stack => .done { b with stack := stack }
      | none => b.inMode token

/-! ## Tokens -/

/-- One look at a token. -/
def look (b : Builder) (token : Token) : Outcome :=
  if b.isForeign token then b.inForeignContent token else b.inMode token

/-- Takes a token in, looking at it at most the given number of times. -/
def takeWithin : Nat → Builder → Token → Builder
  | 0, b, _ => b
  | n + 1, b, token =>
    match b.look token with
    | .done b => b
    | .again b => takeWithin n b token

/-- More looks than any token needs: one for each mode and one for each open element. -/
def looks (b : Builder) : Nat :=
  b.stack.length + 32

/-- Takes a token in. -/
def take (b : Builder) (token : Token) : Builder :=
  if b.skipLineFeed then
    let b := { b with skipLineFeed := false }
    -- a line feed right after an opening tag of this sort is left out
    if token == .char '\n' then b else takeWithin b.looks b token
  else takeWithin b.looks b token

end SelectorCatalog.Html.Builder
