import SelectorCatalog.Css.Condition
import SelectorCatalog.Text.Split

/-!
# At-rules

An at-rule is kept when its prelude is sound and it comes in the form that its name asks for: with a
body, or ended by a semicolon. What may come when depends on the part of the stylesheet: imports
precede namespaces, and both precede every rule.
-/

namespace SelectorCatalog.Css

/-- The part of a stylesheet that has been reached. -/
inductive Phase where
  | start
  | layers
  | imports
  | namespaces
  | body
deriving DecidableEq, Repr

/-- The place of a part in the order of a stylesheet. -/
def Phase.rank : Phase → Nat
  | start => 0
  | layers => 1
  | imports => 2
  | namespaces => 3
  | body => 4

/-- What an at-rule with a sound prelude can become. -/
inductive AtRule where
  /-- A rule that needs a body of nested rules, of which only media rules show theirs. -/
  | media
  /-- A rule that needs a body, whatever it holds. -/
  | block
  | importRule
  | namespaceRule
  | charset
  | customMedia
  /-- A list of layer names; it declares them, or gives one of them a body. -/
  | layer (names : Nat)
  | property
  | unknown
deriving DecidableEq, Repr

namespace AtRule

/-- The components that are neither blank nor comment. -/
def solid (cs : List Component) : List Component :=
  cs.filter fun c => !c.isSpace

/-- The names that no author may choose. -/
def reservedNames : List String :=
  ["initial", "inherit", "unset", "default", "revert", "revert-layer"]

/-- Whether a prelude is one name of the author's choice. -/
def isCustomName (prelude : List Component) : Bool :=
  match solid prelude with
  | [c] => c.ident?.isSome && !Condition.isWord reservedNames c
  | _ => false

/-- Whether a prelude is one name with two leading dashes. -/
def isDashedName (prelude : List Component) : Bool :=
  match solid prelude with
  | [.token (.ident name)] => Condition.isDashed name
  | _ => false

/-- Whether a prelude names keyframes. -/
def isKeyframesName (prelude : List Component) : Bool :=
  match solid prelude with
  | [.token (.string _)] => true
  | [c] => c.ident?.isSome && !Condition.isWord ("none" :: reservedNames) c
  | _ => false

/-- Whether a prelude is a list of font families. -/
def isFamilyList (prelude : List Component) : Bool :=
  (Component.commaSeparated prelude).all fun part =>
    match solid part with
    | [] => false
    | [.token (.string _)] => true
    | cs => cs.all fun c => c.ident?.isSome

/-- Reads an address or a string. -/
def address (prelude : List Component) : Option (List Component) :=
  match Component.skipSpace prelude with
  | .token (.url _) :: rest | .token (.string _) :: rest => some rest
  | .nested (.function name) body :: rest =>
    match solid body with
    | [.token (.string _)] => if Text.asciiLower name == "url" then some rest else none
    | _ => none
  | _ => none

/-- Whether components are a layer name: identifiers with dots between them. -/
def isLayerName : List Component → Bool
  | [.token (.ident _)] => true
  | .token (.ident _) :: .token (.delim '.') :: rest => isLayerName rest
  | _ => false

/-- Components without the blanks and comments around them. -/
def trimSpace (cs : List Component) : List Component :=
  (Component.skipSpace (Component.skipSpace cs).reverse).reverse

/-- The number of names in a list of layers; a list that breaks off counts as empty. -/
def layerNames? (prelude : List Component) : Option Nat :=
  let parts := (Component.commaSeparated (prelude.filter fun c => !c.isComment)).map trimSpace
  if parts.any List.isEmpty then
    -- only behind the last comma may a name be missing
    if (parts.takeWhile fun p => !p.isEmpty).all isLayerName
      && (parts.dropWhile fun p => !p.isEmpty).length == 1 then some 0 else none
  else if parts.all isLayerName then some parts.length
  else none

/-- Skips the layer of an import. -/
def skipImportLayer (cs : List Component) : Option (List Component) :=
  match Component.skipSpace cs with
  | .nested (.function name) body :: rest =>
    if Text.asciiLower name == "layer" then
      if isLayerName (trimSpace (body.filter fun c => !c.isComment)) then some rest else none
    else some cs
  | c :: rest => if Condition.isWord ["layer"] c then some rest else some cs
  | [] => some cs

/-- Skips the feature query of an import. -/
def skipImportSupports (cs : List Component) : Option (List Component) :=
  match Component.skipSpace cs with
  | .nested (.function name) body :: rest =>
    if Text.asciiLower name == "supports" then
      if Condition.isSupportsArgument body then some rest else none
    else some cs
  | _ => some cs

/-- Whether a prelude is that of an import. -/
def isImport (prelude : List Component) : Bool :=
  ((do
    let rest ← address prelude
    let rest ← skipImportLayer rest
    let rest ← skipImportSupports rest
    return Condition.isMediaList rest) : Option Bool).getD false

/-- Whether a prelude is that of a namespace: a name, if any, and an address. -/
def isNamespace (prelude : List Component) : Bool :=
  let rest := match Component.skipSpace prelude with
    | .token (.ident _) :: rest => rest
    | cs => cs
  ((address rest).map Component.exhausted).getD false

/-- Whether a prelude is that of a custom media query. -/
def isCustomMedia (prelude : List Component) : Bool :=
  match Component.skipSpace prelude with
  | .token (.ident name) :: rest => Condition.isDashed name && Condition.isMediaList rest
  | _ => false

/-- Whether components are pseudo-classes of a page. -/
def arePagePseudos : List Component → Bool
  | [] => true
  | .token .colon :: c :: rest =>
    Condition.isWord ["left", "right", "first", "last", "blank"] c && arePagePseudos rest
  | _ => false

/-- Whether a prelude selects pages. -/
def isPageList (prelude : List Component) : Bool :=
  Component.exhausted prelude ||
    (Component.commaSeparated (prelude.filter fun c => !c.isComment)).all fun part =>
      match trimSpace part with
      | [] => false
      | .token (.ident _) :: rest => arePagePseudos rest
      | rest => arePagePseudos rest

/-- Whether a prelude is the one that older browsers are told apart by. -/
def isUrlPrefix (prelude : List Component) : Bool :=
  match solid prelude with
  | [.nested (.function name) body] =>
    Text.asciiLower name == "url-prefix" &&
      (match solid body with
        | [] => true
        | [.token (.string _)] => true
        | _ => false)
  | _ => false

/-- Whether a prelude bounds a scope: selectors in parentheses, `to`, and selectors in parentheses.
-/
def isScope (prelude : List Component) : Bool :=
  let isParen : Component → Bool := fun c => match c with
    | .nested (.bracket .paren) _ => true
    | _ => false
  match solid prelude with
  | [] => true
  | [a] => isParen a
  | [a, b] => Condition.isWord ["to"] a && isParen b
  | [a, b, c] => isParen a && Condition.isWord ["to"] b && isParen c
  | _ => false

/-- The names of keyframe rules. -/
def keyframesNames : List String :=
  ["keyframes", "-webkit-keyframes", "-moz-keyframes", "-o-keyframes", "-ms-keyframes"]

/-- An at-rule when its prelude is sound. -/
def when (sound : Bool) (rule : AtRule) : Option AtRule :=
  if sound then some rule else none

/-- Reads the prelude of an at-rule that may occur anywhere. -/
def readNested (name : String) (prelude : List Component) : Option AtRule :=
  let bare := Component.exhausted prelude
  match name with
  | "media" => when (Condition.isMediaList prelude) media
  | "supports" => when (Condition.isSupports prelude) block
  | "container" => when (Condition.isContainer prelude) block
  | "font-face" | "viewport" | "-ms-viewport" | "starting-style" | "view-transition" =>
    when bare block
  | "font-feature-values" => when (isFamilyList prelude) block
  | "font-palette-values" => when (isDashedName prelude) block
  | "counter-style" => when (isCustomName prelude) block
  | "page" => when (isPageList prelude) block
  | "-moz-document" => when (isUrlPrefix prelude) block
  | "scope" => when (isScope prelude) block
  | "layer" => (layerNames? prelude).map layer
  | _ =>
    if keyframesNames.contains name then when (isKeyframesName prelude) block
    else when (Condition.arePlain prelude) unknown

/-- Reads the prelude of an at-rule at the top level of a stylesheet. -/
def readTop (phase : Phase) (name : String) (prelude : List Component) : Option AtRule :=
  match name with
  | "import" => when (phase.rank ≤ Phase.imports.rank && isImport prelude) .importRule
  | "namespace" => when (phase.rank ≤ Phase.namespaces.rank && isNamespace prelude) .namespaceRule
  | "charset" =>
    match solid prelude with
    | [.token (.string _)] => some charset
    | _ => none
  | "custom-media" => when (isCustomMedia prelude) customMedia
  | "property" => when (isDashedName prelude) property
  | _ => readNested name prelude

/-- The part of the stylesheet after an at-rule that a semicolon ends. -/
def phaseAfter (phase : Phase) : AtRule → Phase
  | .importRule => .imports
  | .namespaceRule => .namespaces
  | customMedia => .body
  -- layers may be named ahead of the imports; later they are rules like any other
  | layer _ => if phase.rank ≤ Phase.layers.rank then .layers else .body
  | _ => phase

/-- Whether a rule can do without a body. -/
def standsAlone : AtRule → Bool
  | .importRule | .namespaceRule | charset | customMedia | unknown => true
  -- an empty list of names needs a body
  | layer names => names != 0
  | _ => false

/-! ## Property rules -/

/-- One descriptor of a property rule. -/
inductive Descriptor where
  | grammar (text : String)
  | inherits
  | initialValue (cs : List Component)

/-- Reads one descriptor. -/
def descriptor? (cs : List Component) : Option Descriptor :=
  match Component.skipSpace cs with
  | .token (.ident name) :: rest =>
    match Component.skipSpace rest with
    | .token .colon :: rest =>
      match Text.asciiLower name, solid rest with
      | "syntax", [.token (.string text)] => some (.grammar text)
      | "inherits", [c] => if Condition.isWord ["true", "false"] c then some .inherits else none
      | "initial-value", _ => some (.initialValue rest)
      | _, _ => none
    | _ => none
  | _ => none

/-- Whether a component is a value of a named type. -/
def isValueOf (type : String) (c : Component) : Bool :=
  match type, c with
  | "<custom-ident>", .token (.ident _) => true
  | "<number>", .token (.number _) => true
  | "<integer>", .token (.number value) => value.fraction.isNone && value.exponent.isNone
  | "<length>", .token (.dimension ..) | "<length-percentage>", .token (.dimension ..) => true
  | "<length>", .token (.number value) | "<length-percentage>", .token (.number value) =>
    -- zero is a length without its unit
    value.whole.all (· == '0') && value.fraction.isNone
  | "<percentage>", .token (.percentage _) | "<length-percentage>", .token (.percentage _) => true
  | "<angle>", .token (.dimension ..) | "<time>", .token (.dimension ..)
  | "<resolution>", .token (.dimension ..) => true
  | "<color>", .token (.hash ..) | "<color>", .token (.ident _) => true
  | "<url>", .token (.url _) | "<image>", .token (.url _) => true
  | "<string>", .token (.string _) => true
  | _, .nested (.function _) _ => type != "<custom-ident>" && type != "<string>"
  | _, .token (.ident name) => !type.startsWith "<" && name == type
  | _, _ => false

/-- Whether a value fits one alternative of a syntax, with its multiplier. -/
def fitsAlternative (alternative : List Char) (cs : List Component) : Bool :=
  match alternative.reverse with
  | '+' :: type =>
    !(solid cs).isEmpty && (solid cs).all (isValueOf (String.ofList type.reverse))
  | '#' :: type =>
    (Component.commaSeparated cs).all fun part =>
      match solid part with
      | [c] => isValueOf (String.ofList type.reverse) c
      | _ => false
  | _ =>
    match solid cs with
    | [c] => isValueOf (String.ofList alternative) c
    | _ => false

/-- Whether an initial value fits a syntax; only the universal syntax does without one. -/
def fitsSyntax (text : String) (value : Option (List Component)) : Bool :=
  let body := Text.trim text.toList
  match body, value with
  | ['*'], none => true
  | ['*'], some cs => Condition.arePlain cs
  | [], _ => false
  | _, none => false
  | _, some cs => ((Text.split (· == '|') body).map Text.trim).any fun a => fitsAlternative a cs

/-- Whether the body of a property rule is complete and sound. -/
def isPropertyBody (body : List Component) : Bool :=
  let parts :=
    (Component.splitAt (Component.isToken .semicolon) body).filter fun p => !Component.exhausted p
  match parts.mapM descriptor? with
  | none => false
  | some ds =>
    let texts := ds.filterMap fun d => match d with
      | .grammar text => some text
      | _ => none
    let values := ds.filterMap fun d => match d with
      | .initialValue cs => some cs
      | _ => none
    let inherits := ds.any fun d => match d with
      | .inherits => true
      | _ => false
    -- of repeated descriptors the last one counts
    match texts.getLast? with
    | some text => inherits && fitsSyntax text values.getLast?
    | none => false

end AtRule

end SelectorCatalog.Css
