import SelectorCatalog.Css.AtRule
import SelectorCatalog.Css.Selector.Parser
import SelectorCatalog.Rule

/-!
# Stylesheets

A stylesheet is read rule by rule. A rule that cannot be read is left out, and reading goes on
behind its body or its semicolon; so every text reads as some list of rules.
-/

namespace SelectorCatalog.Css.Stylesheet

/-- Whether components look like the declaration of a custom property, which is no prelude of a
rule. -/
def looksDeclared (cs : List Component) : Bool :=
  match Component.skipSpace cs with
  | .token (.ident name) :: rest =>
    Condition.isDashed name &&
      (match Component.skipSpace rest with
        | .token .colon :: _ => true
        | _ => false)
  | _ => false

/-- The components in front of the next body in braces, that body, and what follows it. -/
def untilBlock : List Component → List Component × Option (List Component) × List Component
  | [] => ([], none, [])
  | .nested (.bracket .curly) body :: rest => ([], some body, rest)
  | c :: rest =>
    let (before, body, rest) := untilBlock rest
    (c :: before, body, rest)

/-- As `untilBlock`, but a semicolon ends the components as well. -/
def untilBlockOrSemicolon :
    List Component → List Component × Option (List Component) × List Component
  | [] => ([], none, [])
  | .nested (.bracket .curly) body :: rest => ([], some body, rest)
  | c :: rest =>
    if c.isToken .semicolon then ([], none, rest)
    else
      let (before, body, rest) := untilBlockOrSemicolon rest
      (c :: before, body, rest)

/-- The style rule with this prelude, if it is a selector list. -/
def styleRule? (prelude : List Component) (body : Option (List Component)) : Option Rule :=
  if body.isNone || looksDeclared prelude then none
  else (Selector.read? prelude).map fun list => .style (Written.selectorList list)

/-- Whether a component may stand between the rules at the top level. -/
def isTopFiller : Component → Bool
  | .token .commentOpen | .token .commentClose => true
  | c => c.isSpace

/-- Whether a component may stand between nested rules. -/
def isNestedFiller : Component → Bool
  | .token .semicolon | .token (.closing .curly) => true
  -- a brace or semicolon too many does no harm between nested rules
  | c => c.isSpace

/-- The rule that an at-rule with a body becomes, given the rules nested in it. -/
def withBody (rule : AtRule) (body : List Component) (nested : List Rule) : Option Rule :=
  match rule with
  | .media => some (.media nested)
  | .block => some .other
  -- a body belongs to at most one name
  | .layer names => if names ≤ 1 then some .other else none
  | .property => if AtRule.isPropertyBody body then some .other else none
  | .unknown => if Condition.arePlain body then some .other else none
  | _ => none

/-- The rule that an at-rule without a body becomes. -/
def withoutBody (rule : AtRule) : Option Rule :=
  if rule.standsAlone then some .other else none

/-- The rules nested in the body of a media rule. -/
def nestedRules (fuel : Nat) (cs : List Component) : List Rule :=
  match fuel with
  | 0 => []
  | fuel + 1 =>
    match cs.dropWhile isNestedFiller with
    | [] => []
    | .token (.atKeyword name) :: rest =>
      let (prelude, body, rest) := untilBlockOrSemicolon rest
      let rule := (AtRule.readNested (Text.asciiLower name) prelude).bind fun rule =>
        match body with
        | some body => withBody rule body (nestedRules fuel body)
        | none => withoutBody rule
      rule.toList ++ nestedRules fuel rest
    | cs =>
      let (prelude, body, rest) := untilBlock cs
      (styleRule? prelude body).toList ++ nestedRules fuel rest

/-- The rules of a stylesheet from some part on. -/
def topRules (fuel : Nat) (phase : Phase) (first : Bool) (cs : List Component) : List Rule :=
  match fuel with
  | 0 => []
  | fuel + 1 =>
    match cs.dropWhile isTopFiller with
    | [] => []
    | .token (.atKeyword name) :: rest =>
      let key := Text.asciiLower name
      let (prelude, body, rest) := untilBlockOrSemicolon rest
      -- the character set at the very start is no rule
      if first && key == "charset" then topRules fuel phase false rest
      else match AtRule.readTop phase key prelude, body with
        -- a rule that cannot be read does not end the part of the imports
        | none, _ => topRules fuel phase false rest
        | some rule, some body =>
          (withBody rule body (nestedRules fuel body)).toList ++ topRules fuel .body false rest
        | some rule, none =>
          (withoutBody rule).toList ++ topRules fuel (AtRule.phaseAfter phase rule) false rest
    | cs =>
      let (prelude, body, rest) := untilBlock cs
      (styleRule? prelude body).toList ++ topRules fuel .body false rest

/-- The rules of a stylesheet. -/
def rules (source : String) : List Rule :=
  let cs := Component.ofSource source
  topRules (Component.countAll cs + 1) .start true cs

end SelectorCatalog.Css.Stylesheet
