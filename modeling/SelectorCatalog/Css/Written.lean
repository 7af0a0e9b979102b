import SelectorCatalog.Css.Component

/-!
# Writing names, strings and tokens

The text of a name or a string escapes what could not be read back in place: characters that cannot
occur in a name take a backslash, control characters and a leading digit are written by their code
point.
-/

namespace SelectorCatalog.Css.Written

/-- An escape by code point, closed by a blank. -/
def codeEscape (c : Char) : List Char :=
  '\\' :: Nat.toDigits 16 c.toNat ++ [' ']

/-- Whether a character is written by its code point. -/
def isControl (c : Char) : Bool :=
  (1 ≤ c.toNat && c.toNat ≤ 0x1F) || c.toNat == 0x7F

/-- One character inside a name. -/
def nameChar (c : Char) : List Char :=
  if c.isAlphanum || c == '_' || c == '-' || 0x80 ≤ c.toNat then [c]
  else if c.toNat == 0 then [Lexer.replacement]
  else if isControl c then codeEscape c
  else ['\\', c]

/-- The text of a name that need not be an identifier. -/
def nameChars (s : List Char) : List Char :=
  s.flatMap nameChar

/-- A leading digit cannot start an identifier and is written by its code point. -/
def afterDash (s : List Char) : List Char :=
  match s with
  | c :: rest => if c.isDigit then codeEscape c ++ nameChars rest else nameChars s
  | [] => []

/-- The text of an identifier. -/
def identChars (s : List Char) : List Char :=
  match s with
  | '-' :: '-' :: rest => '-' :: '-' :: nameChars rest
  | ['-'] => ['\\', '-']
  | '-' :: rest => '-' :: afterDash rest
  | _ => afterDash s

/-- The text of an identifier. -/
def ident (name : String) : String :=
  String.ofList (identChars name.toList)

/-- One character inside a quoted string. -/
def stringChar (c : Char) : List Char :=
  if c == '"' || c == '\\' then ['\\', c]
  else if c.toNat == 0 then [Lexer.replacement]
  else if isControl c then codeEscape c
  else [c]

/-- The text of a string, in double quotes. -/
def string (value : String) : String :=
  "\"" ++ String.ofList (value.toList.flatMap stringChar) ++ "\""

/-- One character inside an unquoted address. -/
def urlChar (c : Char) : List Char :=
  if c.toNat ≤ 0x20 || c.toNat == 0x7F then codeEscape c
  else if c == '"' || c == '\'' || c == '(' || c == ')' || c == '\\' then ['\\', c]
  else [c]

/-- A list of digits without leading zeros. -/
def trimZeros (digits : List Char) : List Char :=
  digits.dropWhile (· == '0')

/-- The text of a number without exponent: no zero in front of the point, none at the end of the
fraction. -/
def numeral (value : Numeral) : String :=
  let whole := trimZeros value.whole
  let frac := (trimZeros ((value.fraction.getD []).reverse)).reverse
  let digits := match whole, frac with
    | [], [] => ['0']
    | _, [] => whole
    | _, _ => whole ++ '.' :: frac
  String.ofList (value.sign.toList ++ digits)

/-- The text of a bracket that opens. -/
def openingBracket : Bracket → String
  | .paren => "("
  | .square => "["
  | .curly => "\x7b"

/-- The text of a bracket that closes. -/
def closingBracket : Bracket → String
  | .paren => ")"
  | .square => "]"
  | .curly => "\x7d"

/-- The text of a token. -/
def token : Token → String
  | .ident name => ident name
  | .atKeyword name => "@" ++ ident name
  | .hash name isId => "#" ++ (if isId then ident name else String.ofList (nameChars name.toList))
  | .string value => string value
  | .url value => "url(" ++ String.ofList (value.toList.flatMap urlChar) ++ ")"
  | .delim c => c.toString
  | .number value => numeral value
  | .percentage value => numeral value ++ "%"
  | .dimension value unit => numeral value ++ ident unit
  | .blank text => text
  | .comment text => "/*" ++ text ++ "*/"
  | .colon => ":"
  | .semicolon => ";"
  | .comma => ","
  | .compare op => op.toString ++ "="
  | .commentOpen => "<!--"
  | .commentClose => "-->"
  | .function name => ident name ++ "("
  | .opening b => openingBracket b
  | .closing b => closingBracket b
  | .badUrl text => "url(" ++ text
  | .badString text => "\"" ++ text

mutual
/-- The text of a component. -/
def component : Component → String
  | .token t => token t
  | .nested (.bracket b) body => openingBracket b ++ components body ++ closingBracket b
  | .nested (.function name) body => ident name ++ "(" ++ components body ++ ")"
/-- The text of a list of components. -/
def components : List Component → String
  | [] => ""
  | c :: cs => component c ++ components cs
end

end SelectorCatalog.Css.Written
