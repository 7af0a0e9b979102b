/-!
# Tokens of a stylesheet

The lexical units of a stylesheet. Escapes are resolved: an identifier token holds the name that it
stands for.
-/

namespace SelectorCatalog.Css

/-- The three pairs of brackets. -/
inductive Bracket where
  | paren
  | square
  | curly
deriving DecidableEq, Repr

/-- A number as written: its sign, and the digits of its three parts. -/
structure Numeral where
  sign : Option Char
  whole : List Char
  fraction : Option (List Char)
  exponent : Option (Option Char × List Char)
deriving DecidableEq, Repr

/-- A lexical unit. -/
inductive Token where
  | ident (name : String)
  | atKeyword (name : String)
  /-- A `#` with a name; `isId` when the name is an identifier. -/
  | hash (name : String) (isId : Bool)
  | string (value : String)
  | url (value : String)
  | delim (c : Char)
  | number (value : Numeral)
  | percentage (value : Numeral)
  | dimension (value : Numeral) (unit : String)
  | blank (text : String)
  | comment (text : String)
  | colon
  | semicolon
  | comma
  /-- An attribute operator of two characters: `op` followed by `=`. -/
  | compare (op : Char)
  /-- The opening of a markup comment. -/
  | commentOpen
  /-- The closing of a markup comment. -/
  | commentClose
  /-- A name and the parenthesis that follows it. -/
  | function (name : String)
  | opening (bracket : Bracket)
  | closing (bracket : Bracket)
  | badUrl (text : String)
  | badString (text : String)
deriving DecidableEq, Repr

/-- Whether a token is an error wherever it is left over. -/
def Token.isError : Token → Bool
  | .badUrl _ | .badString _ | .closing _ => true
  | _ => false

/-- Whether a token is a blank or a comment. -/
def Token.isSpace : Token → Bool
  | .blank _ | .comment _ => true
  | _ => false

end SelectorCatalog.Css
