/-!
# Rules

What the catalogue needs to know of a stylesheet: style rules with the text of their selectors,
media rules with the rules nested in them, and everything else.
-/

namespace SelectorCatalog

/-- A rule of a stylesheet. -/
inductive Rule where
  | style (selectors : String)
  | media (rules : List Rule)
  | other
deriving Repr, Inhabited, BEq

namespace Rule

/-- The selector text of a style rule. -/
def styleText? : Rule → Option String
  | style selectors => some selectors
  | _ => none

/-- The selector texts that a top-level rule contributes: its own, or those directly inside a media
rule. -/
def styleTexts : Rule → List String
  | style selectors => [selectors]
  | media rules => rules.filterMap styleText?
  | other => []

/-- The selector texts of a stylesheet in document order, looking one level into media rules. -/
def flattenStyles (rules : List Rule) : List String :=
  rules.flatMap styleTexts

end Rule

end SelectorCatalog
