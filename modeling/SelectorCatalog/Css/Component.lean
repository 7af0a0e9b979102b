import SelectorCatalog.Css.Lexer

/-!
# Components

The tokens of a stylesheet with brackets matched: a component is a token or a bracketed body. A
closing bracket that does not match the innermost open one is a plain token, and what is open at the
end of the text is closed there.
-/

namespace SelectorCatalog.Css

/-- What opens a body: a bracket, or the name of a function. -/
inductive Opener where
  | bracket (b : Bracket)
  | function (name : String)
deriving DecidableEq, Repr

/-- The bracket that closes a body. -/
def Opener.closer : Opener → Bracket
  | bracket b => b
  | function _ => .paren

/-- A token, or a body between brackets. -/
inductive Component where
  | token (t : Token)
  | nested (opener : Opener) (body : List Component)
deriving Repr

namespace Component

/-- What a token opens, if anything. -/
def openerOf? : Token → Option Opener
  | .opening b => some (.bracket b)
  | .function name => some (.function name)
  | _ => none

/-- Bodies that are still open, innermost first, each with its components in reverse. -/
structure Builder where
  openers : List (Opener × List Component)
  current : List Component

/-- Adds a component to the innermost open body. -/
def Builder.add (b : Builder) (c : Component) : Builder :=
  { b with current := c :: b.current }

/-- Closes the innermost open body. -/
def Builder.close (b : Builder) : Builder :=
  match b.openers with
  | [] => b
  | (opener, outer) :: rest => ⟨rest, .nested opener b.current.reverse :: outer⟩

/-- Takes in one token. -/
def Builder.push (b : Builder) (t : Token) : Builder :=
  match openerOf? t with
  | some opener => ⟨(opener, b.current) :: b.openers, []⟩
  | none =>
    match t, b.openers with
    | .closing bracket, (opener, _) :: _ =>
      if opener.closer == bracket then b.close else b.add (.token t)
    | _, _ => b.add (.token t)

/-- The components of a list of tokens. -/
def ofTokens (ts : List Token) : List Component :=
  let b := ts.foldl Builder.push ⟨[], []⟩
  (b.openers.foldl (fun b _ => b.close) b).current.reverse

/-- The components of a stylesheet. -/
def ofSource (source : String) : List Component :=
  ofTokens (Lexer.tokens source)

mutual
/-- The number of components, bodies included. -/
def count : Component → Nat
  | token _ => 1
  | nested _ body => countAll body + 1
/-- The number of components in a list, bodies included. -/
def countAll : List Component → Nat
  | [] => 0
  | c :: cs => count c + countAll cs
end

mutual
/-- Whether a component holds an error token. -/
def hasError : Component → Bool
  | token t => t.isError
  | nested _ body => anyError body
/-- Whether one of the components holds an error token. -/
def anyError : List Component → Bool
  | [] => false
  | c :: cs => hasError c || anyError cs
end

/-- Whether a component is a blank or a comment. -/
def isSpace : Component → Bool
  | token t => t.isSpace
  | _ => false

/-- Whether a component is a comment. -/
def isComment : Component → Bool
  | token (.comment _) => true
  | _ => false

/-- Whether a component is a given token. -/
def isToken (t : Token) : Component → Bool
  | token u => u == t
  | _ => false

/-- The name of an identifier. -/
def ident? : Component → Option String
  | token (.ident name) => some name
  | _ => none

/-- Skips leading blanks and comments. -/
def skipSpace (cs : List Component) : List Component :=
  cs.dropWhile isSpace

/-- Whether nothing but blanks and comments is left. -/
def exhausted (cs : List Component) : Bool :=
  cs.all isSpace

/-- The parts of a list of components between its separators. -/
def splitAt (sep : Component → Bool) (cs : List Component) : List (List Component) :=
  cs.foldr (fun c parts =>
    if sep c then [] :: parts
    else match parts with
      | [] => [[c]]
      | part :: rest => (c :: part) :: rest) [[]]

/-- The parts of a list of components between its commas. -/
def commaSeparated (cs : List Component) : List (List Component) :=
  splitAt (isToken .comma) cs

end Component

end SelectorCatalog.Css
