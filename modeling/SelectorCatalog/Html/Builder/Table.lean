import SelectorCatalog.Html.Builder.Body

/-!
# Tables

How a token is placed in a table and its parts. What a table cannot hold is read as in the body and
put in front of the table; text directly inside a table is collected first, since blanks alone stay
where they are.
-/

namespace SelectorCatalog.Html.Builder

/-- Reads a token as in the body and puts what it inserts in front of the table. -/
def foster (b : Builder) (token : Token) : Outcome :=
  match { b with fostering := true }.inBody token with
  | .done b => .done { b with fostering := false }
  | .again b => .again { b with fostering := false }

/-- Reads a character as in the body and puts it in front of the table. -/
def fosterChar (b : Builder) (c : Char) : Builder :=
  { { b with fostering := true }.charInBody c with fostering := false }

/-- Puts the text collected inside a table: blanks alone stay there. -/
def flushTableText (b : Builder) : Builder :=
  let text := b.tableText.reverse
  let b := { b with tableText := [], mode := b.returnMode }
  if text.all isSpace then text.foldl insertChar b else text.foldl fosterChar b

/-- Collecting text inside a table. -/
def inTableText (b : Builder) : Token → Outcome
  | .char c => .done (if c.toNat == 0 then b else { b with tableText := c :: b.tableText })
  | _ => .again b.flushTableText

/-- Whether an element is a row group, which holds rows. -/
def holdsRows (e : Element) : Bool :=
  e.isAny ["tbody", "tfoot", "thead", "template", "html"]

/-- Whether an element holds cells. -/
def holdsCells (e : Element) : Bool :=
  e.isAny ["tr", "template", "html"]

/-- Opens a part of a table in another mode. -/
def openPart (b : Builder) (holder : Element → Bool) (tag : Tag) (mode : Mode) : Builder :=
  ((b.popTo holder).insert tag).turn mode

/-- An opening tag in a table. -/
def openInTable (b : Builder) (tag : Tag) : Outcome :=
  let inTable := b.popTo Element.boundsTableScope
  match tag.name with
  | "caption" => .done ((inTable.mark.insert tag).turn .caption)
  | "colgroup" => .done ((inTable.insert tag).turn .columns)
  | "col" => (inTable.insertImplied "colgroup").retry .columns
  | "tbody" | "tfoot" | "thead" => .done ((inTable.insert tag).turn .tableBody)
  | "td" | "th" | "tr" => (inTable.insertImplied "tbody").retry .tableBody
  | "table" =>
    if b.hasIn Element.boundsTableScope "table" then .again (b.popThroughNamed "table").turnFitting
    else .done b
  | "style" | "script" | "template" => .done ((b.openMetadata? tag).getD b)
  | "input" => if isHidden tag then .done (b.insertEmpty tag) else b.foster (.opening tag)
  | "form" =>
    if b.isOpen "template" || b.formElement.isSome then .done b
    else
      let (b, e) := b.insertEmptyIn .html tag
      .done { b with formElement := some e.node }
  | _ => b.foster (.opening tag)

/-- In a table. -/
def inTable (b : Builder) (token : Token) : Outcome :=
  match token with
  | .char _ =>
    if b.currentIs (·.isAny tableParts) then
      .again { b with returnMode := b.mode, mode := .tableText }
    else b.foster token
  | .comment => .done b
  | .opening tag => b.openInTable tag
  | .closing tag =>
    match tag.name with
    | "table" =>
      .done (if b.hasIn Element.boundsTableScope "table" then
        (b.popThroughNamed "table").turnFitting else b)
    | "template" => .done b.closeTemplate
    | name =>
      if ["body", "caption", "col", "colgroup", "html", "tbody", "td", "tfoot", "th", "thead",
          "tr"].contains name then .done b
      else b.foster token

/-- Closes the caption that is in scope. -/
def closeCaption (b : Builder) : Builder :=
  ((b.closeUsual.popThroughNamed "caption").clearFormatting).turn .table

/-- In a caption. -/
def inCaption (b : Builder) (token : Token) : Outcome :=
  let hasCaption := b.hasIn Element.boundsTableScope "caption"
  match token with
  | .opening tag =>
    if ["caption", "col", "colgroup", "tbody", "td", "tfoot", "th", "thead", "tr"].contains
        tag.name then
      if hasCaption then .again b.closeCaption else .done b
    else b.inBody token
  | .closing tag =>
    if tag.name == "caption" then .done (if hasCaption then b.closeCaption else b)
    else if tag.name == "table" then if hasCaption then .again b.closeCaption else .done b
    else if ["body", "col", "colgroup", "html", "tbody", "td", "tfoot", "th", "thead",
        "tr"].contains tag.name then .done b
    else b.inBody token
  | _ => b.inBody token

/-- Leaves a group of columns for what it cannot hold. -/
def leaveColumns (b : Builder) : Outcome :=
  if b.currentNamed "colgroup" then b.pop.retry .table else .done b

/-- In a group of columns. -/
def inColumns (b : Builder) : Token → Outcome
  | .char c => if isSpace c then .done (b.insertChar c) else b.leaveColumns
  | .comment => .done b
  | .opening tag =>
    match tag.name with
    | "html" => .done b
    | "col" => .done (b.insertEmpty tag)
    | "template" => .done ((b.openMetadata? tag).getD b)
    | _ => b.leaveColumns
  | .closing tag =>
    match tag.name with
    | "colgroup" => .done (if b.currentNamed "colgroup" then b.pop.turn .table else b)
    | "col" => .done b
    | "template" => .done b.closeTemplate
    | _ => b.leaveColumns

/-- Leaves a row group, if there is one, for what it cannot hold. -/
def leaveTableBody (b : Builder) : Outcome :=
  if inScope Element.boundsTableScope (·.isAny ["table", "tbody", "tfoot"]) b.stack then
    (b.popTo holdsRows).pop.retry .table
  else .done b

/-- In a row group. -/
def inTableBody (b : Builder) (token : Token) : Outcome :=
  match token with
  | .opening tag =>
    match tag.name with
    | "tr" => .done (b.openPart holdsRows tag .row)
    | "th" | "td" => .again (b.openPart holdsRows { name := "tr" } .row)
    | "caption" | "col" | "colgroup" | "tbody" | "tfoot" | "thead" => b.leaveTableBody
    | _ => b.inTable token
  | .closing tag =>
    match tag.name with
    | "tbody" | "tfoot" | "thead" =>
      .done (if b.hasIn Element.boundsTableScope tag.name then
        (b.popTo holdsRows).pop.turn .table else b)
    | "table" => b.leaveTableBody
    | "body" | "caption" | "col" | "colgroup" | "html" | "td" | "th" | "tr" => .done b
    | _ => b.inTable token
  | _ => b.inTable token

/-- Closes the row that is in scope. -/
def closeRow (b : Builder) : Builder :=
  (b.popTo holdsCells).pop.turn .tableBody

/-- In a row. -/
def inRow (b : Builder) (token : Token) : Outcome :=
  let hasRow := b.hasIn Element.boundsTableScope "tr"
  match token with
  | .opening tag =>
    match tag.name with
    | "th" | "td" => .done (b.openPart holdsCells tag .cell).mark
    | "caption" | "col" | "colgroup" | "tbody" | "tfoot" | "thead" | "tr" =>
      if hasRow then .again b.closeRow else .done b
    | _ => b.inTable token
  | .closing tag =>
    match tag.name with
    | "tr" => .done (if hasRow then b.closeRow else b)
    | "table" => if hasRow then .again b.closeRow else .done b
    | "tbody" | "tfoot" | "thead" =>
      if b.hasIn Element.boundsTableScope tag.name && hasRow then .again b.closeRow else .done b
    | "body" | "caption" | "col" | "colgroup" | "html" | "td" | "th" => .done b
    | _ => b.inTable token
  | _ => b.inTable token

/-- Whether an element is a cell. -/
def isCell (e : Element) : Bool :=
  e.isAny ["td", "th"]

/-- Closes the cell that is in scope. -/
def closeCell (b : Builder) : Builder :=
  ((b.closeUsual.popThrough isCell).clearFormatting).turn .row

/-- In a cell. -/
def inCell (b : Builder) (token : Token) : Outcome :=
  match token with
  | .opening tag =>
    if ["caption", "col", "colgroup", "tbody", "td", "tfoot", "th", "thead", "tr"].contains
        tag.name then
      if inScope Element.boundsTableScope isCell b.stack then .again b.closeCell else .done b
    else b.inBody token
  | .closing tag =>
    match tag.name with
    | "td" | "th" =>
      .done (if b.hasIn Element.boundsTableScope tag.name then
        ((b.closeUsual.popThroughNamed tag.name).clearFormatting).turn .row else b)
    | "body" | "caption" | "col" | "colgroup" | "html" => .done b
    | "table" | "tbody" | "tfoot" | "thead" | "tr" =>
      if b.hasIn Element.boundsTableScope tag.name then .again b.closeCell else .done b
    | _ => b.inBody token
  | _ => b.inBody token

end SelectorCatalog.Html.Builder
