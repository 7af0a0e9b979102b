import SelectorCatalog.Css.Component
import SelectorCatalog.Text.Lower

/-!
# Conditions of conditional rules

Media queries, feature queries and container queries decide whether their rule is kept at all. A
query whose condition cannot be read is kept as it stands when its tokens are sound; one that is
read and then followed by something else is refused.
-/

namespace SelectorCatalog.Css.Condition

/-- Whether a component is an identifier with one of these names, in any case. -/
def isWord (words : List String) (c : Component) : Bool :=
  ((c.ident?).map fun name => words.contains (Text.asciiLower name)).getD false

/-- Whether a name is a custom one, with two leading dashes. -/
def isDashed (name : String) : Bool :=
  "--".isPrefixOf name

/-- Whether a list of integers follows. -/
def areNumbers (cs : List Component) : Bool :=
  cs.all fun c => match c with
    | .token (.number _) => true
    | c => c.isSpace

mutual
/-- Whether a component may occur in a list of arbitrary tokens. The functions that stand for a
variable, a value of the environment or an address have to be well-formed. -/
def isPlain : Component → Bool
  | .token t => !t.isError
  | .nested (.bracket _) body => arePlain body
  | .nested (.function name) body =>
    if name == "url" then
      match body.filter fun c => !c.isSpace with
      | [.token (.string _)] => true
      | _ => false
    else arePlain body &&
      (if name == "var" then hasReference isDashed body
      else if name == "env" then hasReference (fun _ => true) body
      else true)
/-- Whether components may occur in a list of arbitrary tokens. -/
def arePlain : List Component → Bool
  | [] => true
  | c :: cs => isPlain c && arePlain cs
/-- Whether a function starts with an accepted name, followed by numbers or a fallback behind a
comma. -/
def hasReference (accepts : String → Bool) : List Component → Bool
  | [] => false
  | c :: cs =>
    if c.isSpace then hasReference accepts cs
    else match c with
      | .token (.ident name) =>
        accepts name && areNumbers (cs.takeWhile fun d => !d.isToken .comma)
      | _ => false
end

/-- Reads a comparison sign, or the colon between a feature and its value. -/
def comparison (cs : List Component) : Option (List Component) :=
  match Component.skipSpace cs with
  | .token .colon :: rest => some rest
  | .token (.delim '=') :: rest => some rest
  | .token (.delim '<') :: rest | .token (.delim '>') :: rest =>
    match Component.skipSpace rest with
    | .token (.delim '=') :: after => some after
    | _ => some rest
  | _ => none

/-- Reads the value of a feature: a number, a ratio, a dimension, a word or a function. -/
def featureValue (cs : List Component) : Option (List Component) :=
  match Component.skipSpace cs with
  | .token (.number _) :: rest =>
    match Component.skipSpace rest with
    | .token (.delim '/') :: after =>
      match Component.skipSpace after with
      | .token (.number _) :: after => some after
      | _ => some rest
    | _ => some rest
  | .token (.dimension ..) :: rest => some rest
  | .token (.ident _) :: rest => some rest
  | .nested (.function _) _ :: rest => some rest
  | _ => none

/-- Whether the inside of a pair of parentheses is a feature: alone, with a value, or between two
values. -/
def isFeature (body : List Component) : Bool :=
  let cs := Component.skipSpace body
  let nameFirst := match cs with
    | .token (.ident _) :: rest =>
      match comparison rest with
      | none => Component.exhausted rest
      | some after => ((featureValue after).map Component.exhausted).getD false
    | _ => false
  let valueFirst := match featureValue cs with
    | none => false
    | some rest =>
      match (comparison rest).map Component.skipSpace with
      | some (.token (.ident _) :: rest) =>
        match comparison rest with
        | none => Component.exhausted rest
        | some after => ((featureValue after).map Component.exhausted).getD false
      | _ => false
  nameFirst || valueFirst

mutual
/-- Reads a condition and returns what follows it. `styled` admits style queries, `alternatives` the
word `or`. -/
def condition (fuel : Nat) (styled alternatives : Bool) (cs : List Component) :
    Option (List Component) :=
  match fuel with
  | 0 => none
  | fuel + 1 =>
    match Component.skipSpace cs with
    | [] => none
    | c :: rest =>
      if isWord ["not"] c then operand fuel styled rest
      else match operand fuel styled (c :: rest) with
        | none => none
        | some rest =>
          match Component.skipSpace rest with
          | d :: after =>
            if isWord ["and"] d then operands fuel styled "and" after
            else if isWord ["or"] d then
              if alternatives then operands fuel styled "or" after else none
            else some rest
          | [] => some rest

/-- Reads operands as long as the same word joins them. -/
def operands (fuel : Nat) (styled : Bool) (word : String) (cs : List Component) :
    Option (List Component) :=
  match fuel with
  | 0 => none
  | fuel + 1 =>
    match operand fuel styled cs with
    | none => none
    | some rest =>
      match Component.skipSpace rest with
      | d :: after => if isWord [word] d then operands fuel styled word after else some rest
      | [] => some rest

/-- Reads a condition or a feature in parentheses. -/
def operand (fuel : Nat) (styled : Bool) (cs : List Component) : Option (List Component) :=
  match fuel with
  | 0 => none
  | fuel + 1 =>
    match Component.skipSpace cs with
    | .nested (.bracket .paren) body :: rest =>
      match condition fuel styled true body with
      | some left => if Component.exhausted left then some rest else none
      | none => if isFeature body then some rest else none
    | .nested (.function name) body :: rest =>
      if styled && (Text.asciiLower name == "style" || Text.asciiLower name == "scroll-state")
        && !Component.anyError body then some rest
      else none
    | _ => none
end

/-- Whether a condition takes up all components, or is kept as it stands. -/
def isCondition (styled alternatives : Bool) (cs : List Component) : Bool :=
  match condition (4 * Component.countAll cs + 8) styled alternatives cs with
  | some rest => Component.exhausted rest
  | none => arePlain cs

/-- Whether components form one media query: a medium, a condition, or both joined by `and`. -/
def isMediaQuery (cs : List Component) : Bool :=
  let afterMedium := fun rest =>
    match Component.skipSpace rest with
    | [] => true
    | c :: rest => isWord ["and"] c && isCondition false false rest
  match Component.skipSpace cs with
  | .token (.ident name) :: rest =>
    if isWord ["not", "only"] (.token (.ident name)) then
      match Component.skipSpace rest with
      | .token (.ident _) :: rest => afterMedium rest
      | _ => isCondition false true cs
    else afterMedium rest
  | _ => isCondition false true cs

/-- Whether components form a list of media queries. -/
def isMediaList (cs : List Component) : Bool :=
  (Component.commaSeparated cs).all isMediaQuery

/-- Reads one operand of a feature query: a body in parentheses, or a function. -/
def supportsOperand (cs : List Component) : Option (List Component) :=
  match Component.skipSpace cs with
  | .nested (.bracket .paren) body :: rest | .nested (.function _) body :: rest =>
    if Component.anyError body then none else some rest
  | _ => none

/-- Reads further operands joined by one word; one that cannot be read ends the list. -/
def supportsOperands (word : String) : Nat → List Component → List Component
  | 0, cs => cs
  | fuel + 1, cs =>
    match Component.skipSpace cs with
    | c :: rest =>
      if isWord [word] c then
        match supportsOperand rest with
        | some rest => supportsOperands word fuel rest
        | none => cs
      else cs
    | [] => cs

/-- Whether components form the condition of a feature query. -/
def isSupports (cs : List Component) : Bool :=
  match Component.skipSpace cs with
  | [] => false
  | c :: rest =>
    if isWord ["not"] c then ((supportsOperand rest).map Component.exhausted).getD false
    else match supportsOperand (c :: rest) with
      | none => false
      | some rest =>
        match Component.skipSpace rest with
        | [] => true
        | d :: _ =>
          let word := if isWord ["or"] d then "or" else "and"
          Component.exhausted (supportsOperands word rest.length rest)

/-- Whether the arguments of an import's `supports()` are a condition or a declaration. -/
def isSupportsArgument (body : List Component) : Bool :=
  isSupports body ||
    match Component.skipSpace body with
    | .token (.ident _) :: rest =>
      match Component.skipSpace rest with
      | .token .colon :: rest => !Component.anyError rest
      | _ => false
    | _ => false

/-- Whether components form the name and the condition of a container query. -/
def isContainer (cs : List Component) : Bool :=
  match Component.skipSpace cs with
  | .token (.ident name) :: rest =>
    if isWord ["none", "and", "not", "or", "initial", "inherit", "unset", "default", "revert",
      "revert-layer"]
      (.token (.ident name)) then isCondition true true cs
    else isCondition true true rest
  | _ => isCondition true true cs

end SelectorCatalog.Css.Condition
