import SelectorCatalog.Css.Selector
import SelectorCatalog.Css.Selector.Nth

/-!
# Reading selectors

A selector list is read from components without comments. What may follow depends on what came
before: nothing but some pseudo-classes may follow a pseudo-element, a pseudo-element may not occur
inside a list of alternatives, and a compound inside `:host()` or `::slotted()` stands alone.
Unknown pseudo-classes and pseudo-elements are kept as they are written. The lists of `:is()`,
`:where()` and `:has()` are forgiving: members that cannot be read are left out of them.
-/

namespace SelectorCatalog.Css.Selector

/-- What has been read of a selector, and what the place it stands in rules out. -/
structure Reading where
  afterPart : Bool := false
  afterSlotted : Bool := false
  afterPseudoElement : Bool := false
  afterScrollbar : Bool := false
  afterViewTransition : Bool := false
  combinatorsBarred : Bool := false
  pseudoElementsBarred : Bool := false

namespace Reading

/-- Whether a part, a slotted element or a pseudo-element has been read. -/
def afterPseudo (r : Reading) : Bool :=
  r.afterPart || r.afterSlotted || r.afterPseudoElement

/-- The same place without pseudo-elements. -/
def withoutPseudoElements (r : Reading) : Reading :=
  { r with pseudoElementsBarred := true }

/-- The same place for one compound. -/
def withinCompound (r : Reading) : Reading :=
  { r with pseudoElementsBarred := true, combinatorsBarred := true }

end Reading

/-- A simple selector or a joint, in the order of reading. -/
inductive Item where
  | simple (s : Simple)
  | joint (j : Joint)

/-- The chain that a list of items forms. -/
def ofItems (items : List Item) : Selector :=
  let (first, rest) := items.foldr (fun item (acc : List Simple × List (Joint × List Simple)) =>
    match item with
    | .simple s => (s :: acc.1, acc.2)
    | .joint j => ([], (j, acc.1) :: acc.2)) ([], [])
  .chain first rest

/-- A name with its namespace, as far as it could be read. -/
inductive QualifiedName where
  | absent
  /-- The text ends behind the bar of a namespace. -/
  | cut
  | found (q : Option Qualifier) (name : Option String) (rest : List Component)

/-- Reads the name behind the bar of a namespace. -/
def nameAfterBar (inAttribute : Bool) (q : Qualifier) (cs : List Component) :
    Option QualifiedName :=
  match cs with
  | .token (.ident name) :: rest => some (.found (some q) (some name) rest)
  | .token (.delim '*') :: rest => if inAttribute then none else some (.found (some q) none rest)
  | [] => some .cut
  | _ => none

/-- Reads a type or an attribute name; `none` when it cannot be one. -/
def qualifiedName (inAttribute : Bool) (cs : List Component) : Option QualifiedName :=
  match cs with
  | .token (.ident name) :: .token (.delim '|') :: rest =>
    nameAfterBar inAttribute (.named name) rest
  | .token (.ident name) :: rest => some (.found none (some name) rest)
  | .token (.delim '*') :: .token (.delim '|') :: rest => nameAfterBar inAttribute .any rest
  | .token (.delim '*') :: rest => if inAttribute then none else some (.found none none rest)
  | .token (.delim '|') :: rest => nameAfterBar inAttribute .none rest
  | _ => some .absent

/-- Reads the type at the start of a compound, if there is one. -/
def typeSelector (r : Reading) (cs : List Component) : Option (List Item × List Component) :=
  match qualifiedName false cs with
  | none => none
  | some .absent => some ([], cs)
  | some .cut => some ([], [])
  | some (.found q name rest) =>
    -- a type stands in front of the pseudo-elements, never behind one
    if r.afterPseudo then none
    else
      let core := match name with
        | some name => Simple.type name
        | none => .universal
      some ((q.toList.map fun q => Item.simple (.qualifier q)) ++ [.simple core], rest)

/-- The operator that a component writes between an attribute and its value. -/
def attributeOperator? : Component → Option String
  | .token (.delim '=') => some "="
  | .token (.compare op) => some (op.toString ++ "=")
  | _ => none

/-- The value that a component gives an attribute. -/
def attributeValue? : Component → Option String
  | .token (.ident value) => some value
  | .token (.string value) => some value
  | _ => none

/-- Reads the letter behind a value that fixes whether case matters. -/
def caseFlag (cs : List Component) : Option (Option Char) :=
  match Component.skipSpace cs with
  | [] => some none
  | .token (.ident name) :: rest =>
    -- nothing may come behind the letter
    if !Component.exhausted rest then none
    else match Text.asciiLower name with
      | "i" => some (some 'i')
      | "s" => some (some 's')
      | _ => none
  | _ => none

/-- Reads the inside of an attribute selector. -/
def attributeSelector (body : List Component) : Option Simple :=
  match qualifiedName true (Component.skipSpace body) with
  | some (.found q (some name) rest) =>
    -- an attribute without a namespace is spelt the same with the bar and without
    let q := if q == some .none then none else q
    match Component.skipSpace rest with
    | [] => some (.attr q name none)
    | c :: rest => do
      let operator ← attributeOperator? c
      match Component.skipSpace rest with
      | [] => none
      | v :: rest =>
        let value ← attributeValue? v
        let flag ← caseFlag rest
        return .attr q name (some ⟨operator, value, flag⟩)
  | _ => none

/-- Pseudo-elements that older stylesheets write with one colon, and that are written so here. -/
def oneColonElements : List String :=
  ["before", "after", "first-line", "first-letter"]

/-- The parts of a scroll bar. -/
def scrollbarElements : List String :=
  ["-webkit-scrollbar", "-webkit-scrollbar-button", "-webkit-scrollbar-track",
    "-webkit-scrollbar-track-piece", "-webkit-scrollbar-thumb", "-webkit-scrollbar-corner",
    "-webkit-resizer"]

/-- The other known pseudo-elements. -/
def knownElements : List String :=
  ["details-content", "target-text", "cue", "cue-region", "selection", "-moz-selection",
    "placeholder", "-webkit-input-placeholder", "-moz-placeholder", "-ms-input-placeholder",
    "marker", "backdrop", "-webkit-backdrop", "file-selector-button", "-webkit-file-upload-button",
    "-ms-browse", "view-transition", "search-text", "spelling-error", "grammar-error",
    "picker-icon", "checkmark"]

/-- Pseudo-elements that may follow a slotted element. -/
def slottedFollowers : List String :=
  ["before", "after", "marker", "placeholder", "-webkit-input-placeholder", "-moz-placeholder",
    "-ms-input-placeholder", "file-selector-button", "-webkit-file-upload-button", "-ms-browse"]

/-- The functions that name the snapshots of a view transition. -/
def viewTransitionElements : List String :=
  ["view-transition-group", "view-transition-image-pair", "view-transition-old",
    "view-transition-new"]

/-- The states of a scroll bar, which only its parts can have. -/
def scrollbarStates : List String :=
  ["horizontal", "vertical", "decrement", "increment", "start", "end", "double-button",
    "single-button", "no-button", "corner-present", "window-inactive"]

/-- The states that a user brings about; they may follow a pseudo-element. -/
def userStates : List String :=
  ["active", "hover", "focus", "focus-within", "focus-visible"]

/-- The other states that the parts of a scroll bar can have. -/
def scrollbarUserStates : List String :=
  ["enabled", "disabled", "hover", "active"]

/-- The known pseudo-classes without arguments; they are written in lower case. -/
def knownStates : List String :=
  scrollbarStates ++ userStates ++
  ["current", "past", "future", "playing", "paused", "seeking", "buffering", "stalled", "muted",
    "volume-locked", "fullscreen", "-webkit-full-screen", "-moz-full-screen", "-ms-fullscreen",
    "open", "closed", "modal", "picture-in-picture", "popover-open", "defined", "any-link",
    "-webkit-any-link", "-moz-any-link", "link", "local-link", "target", "target-within", "visited",
    "enabled", "disabled", "read-only", "-moz-read-only", "read-write", "-moz-read-write",
    "placeholder-shown", "-moz-placeholder-shown", "-ms-placeholder-shown", "default", "checked",
    "indeterminate", "blank", "valid", "invalid", "in-range", "out-of-range", "required",
    "optional", "user-valid", "user-invalid", "autofill", "-webkit-autofill", "-o-autofill",
    "active-view-transition"]

/-- The pseudo-classes that depend on the tree alone. -/
def treeState? : String → Option Simple
  | "first-child" => some (.nth .child 0 1)
  | "last-child" => some (.nth .lastChild 0 1)
  | "only-child" => some (.nth .onlyChild 0 1)
  | "first-of-type" => some (.nth .ofType 0 1)
  | "last-of-type" => some (.nth .lastOfType 0 1)
  | "only-of-type" => some (.nth .onlyOfType 0 1)
  | "root" => some (.pseudoClass "root")
  | "empty" => some (.pseudoClass "empty")
  | "scope" => some .scope
  | "host" => some (.pseudoClass "host")
  | _ => none

/-- The counting functions. -/
def nthKind? : String → Option NthKind
  | "nth-child" => some .child
  | "nth-of-type" => some .ofType
  | "nth-last-child" => some .lastChild
  | "nth-last-of-type" => some .lastOfType
  | "nth-col" => some .col
  | "nth-last-col" => some .lastCol
  | _ => none

/-- Reads a pseudo-class without arguments. -/
def simpleState (r : Reading) (name : String) : Option Simple :=
  let key := Text.asciiLower name
  let structural := if r.afterPseudo then none else treeState? key
  if r.afterSlotted then none
  else match structural with
    | some s => some s
    | none =>
      if r.afterViewTransition && key == "only-child" then treeState? key
      else
        let allowed :=
          if r.afterScrollbar then scrollbarStates.contains key || scrollbarUserStates.contains key
          else if r.afterPseudoElement then userStates.contains key
          else !scrollbarStates.contains key
        if allowed then some (.pseudoClass (if knownStates.contains key then key else name))
        else none

/-- Reads a pseudo-element without arguments. -/
def simpleElement (r : Reading) (name : String) : Option (List Item × Reading) :=
  let key := Text.asciiLower name
  let isOneColon := oneColonElements.contains key
  let isScrollbar := scrollbarElements.contains key
  if r.afterSlotted && !slottedFollowers.contains key then none
  else if isOneColon || isScrollbar || knownElements.contains key then
    let text := (if isOneColon then ":" else "::") ++ key
    some ([.joint .pseudoElement, .simple (.pseudoElement text)],
      { r with
        afterPseudoElement := true
        afterScrollbar := r.afterScrollbar || isScrollbar
        afterViewTransition := r.afterViewTransition || key == "view-transition" })
  else some ([.simple (.pseudoElement ("::" ++ name))], r)

/-- Reads a list of identifiers with blanks between them. -/
def identifiers? (body : List Component) : Option (List String) :=
  match body.filter fun c => !c.isSpace with
  | [] => none
  | cs => cs.mapM Component.ident?

/-- Reads the languages of `:lang()`. -/
def languages? (body : List Component) : Option (List String) :=
  (Component.commaSeparated body).mapM fun part =>
    match part.filter fun c => !c.isSpace with
    | [c] => attributeValue? c
    | _ => none

/-- Reads the name of a snapshot: a name or `*`, and classes. -/
def snapshot? (body : List Component) : Option String :=
  let text := Written.components (body.filter fun c => !c.isSpace)
  match body.filter fun c => !c.isSpace with
  | .token (.ident _) :: _ | .token (.delim '*') :: _ | .token (.delim '.') :: _ => some text
  | _ => none

/-- Reads a pseudo-class with arguments that are not selectors. -/
def plainFunction (name : String) (body : List Component) : Option Simple :=
  match Text.asciiLower name with
  | "lang" => (languages? (body.filter fun c => !c.isComment)).map fun names =>
      .pseudoClass ("lang(" ++ String.intercalate ", " (names.map Written.ident) ++ ")")
  | "dir" =>
    match (body.filter fun c => !c.isSpace).map Component.ident? with
    | [some direction] =>
      let key := Text.asciiLower direction
      if key == "ltr" || key == "rtl" then some (.pseudoClass ("dir(" ++ key ++ ")")) else none
    | _ => none
  | _ =>
    if Component.anyError body then none
    else some (.pseudoClass (name ++ "(" ++ Written.components body ++ ")"))

/-- A combinator with what follows it. -/
inductive Continuation where
  | finished
  | stuck
  | next (c : Combinator) (rest : List Component)

/-- The combinator that a component writes. -/
def combinator? : Component → Option Combinator
  | .token (.delim '>') => some .child
  | .token (.delim '+') => some .nextSibling
  | .token (.delim '~') => some .laterSibling
  | _ => none

/-- Reads what joins a compound to the next one. Blanks alone do. -/
def continuation (spaced : Bool) : List Component → Continuation
  | [] => .finished
  | c :: rest =>
    if c.isSpace then continuation true rest
    else match combinator? c with
      | some combinator => .next combinator rest
      | none => if spaced then .next .descendant (c :: rest) else .stuck

/-- The outcome of looking for a simple selector. -/
inductive Step where
  | stop
  | fail
  | take (items : List Item) (r : Reading) (rest : List Component)

/-- The step for a simple selector that was read or not. -/
def Step.ofSimple? (s : Option Simple) (r : Reading) (rest : List Component) : Step :=
  match s with
  | some s => .take [.simple s] r rest
  | none => .fail

mutual
/-- Reads a list of selectors. -/
def list (fuel : Nat) (r : Reading) (forgiving relative : Bool) (body : List Component) :
    Option (List Selector) :=
  match fuel with
  | 0 => none
  | fuel + 1 =>
    let members := (Component.commaSeparated (body.filter fun c => !c.isComment)).map fun part =>
      (if relative then relativeItems fuel r part else items fuel r part).map ofItems
    if forgiving then some (members.filterMap id) else members.mapM id

/-- Reads a selector that may start with a combinator. -/
def relativeItems (fuel : Nat) (r : Reading) (cs : List Component) : Option (List Item) :=
  match fuel with
  | 0 => none
  | fuel + 1 =>
    match Component.skipSpace cs with
    | [] => none
    | c :: rest =>
      match combinator? c with
      | some combinator =>
        (items fuel r rest).map fun more =>
          .simple .scope :: .joint (.combinator combinator) :: more
      | none => items fuel r (c :: rest)

/-- Reads a whole selector. -/
def items (fuel : Nat) (r : Reading) (cs : List Component) : Option (List Item) :=
  match fuel with
  | 0 => none
  | fuel + 1 =>
    match compound fuel r (Component.skipSpace cs) with
    | none | some ([], _, _) => none
    | some (read, r, rest) =>
      if r.afterPseudo then
        if Component.exhausted rest then some read else none
      else match continuation false rest with
        | .finished => some read
        | .stuck => none
        | .next combinator rest =>
          if r.combinatorsBarred then none
          else (items fuel r rest).map fun more => read ++ .joint (.combinator combinator) :: more

/-- Reads a compound. -/
def compound (fuel : Nat) (r : Reading) (cs : List Component) :
    Option (List Item × Reading × List Component) :=
  match fuel with
  | 0 => none
  | fuel + 1 =>
    let (leading, cs) := match cs with
      | .token (.delim '&') :: rest => ([Item.simple .nesting], rest)
      | _ => ([], cs)
    match typeSelector r cs with
    | none => none
    | some (core, cs) =>
      (simples fuel r cs).map fun (more, r, rest) => (leading ++ core ++ more, r, rest)

/-- Reads simple selectors as long as there are any. -/
def simples (fuel : Nat) (r : Reading) (cs : List Component) :
    Option (List Item × Reading × List Component) :=
  match fuel with
  | 0 => none
  | fuel + 1 =>
    match simple fuel r cs with
    | .stop => some ([], r, cs)
    | .fail => none
    | .take read r rest => (simples fuel r rest).map fun (more, r, rest) => (read ++ more, r, rest)

/-- Reads one simple selector. -/
def simple (fuel : Nat) (r : Reading) (cs : List Component) : Step :=
  match fuel with
  | 0 => .fail
  | fuel + 1 =>
    match cs with
    | .token (.hash name true) :: rest =>
      if r.afterPseudo then .fail else .take [.simple (.id name)] r rest
    | .token (.delim '.') :: rest =>
      match r.afterPseudo, rest with
      | false, .token (.ident name) :: rest => .take [.simple (.class name)] r rest
      | _, _ => .fail
    | .nested (.bracket .square) body :: rest =>
      if r.afterPseudo then .fail
      else .ofSimple? (attributeSelector (body.filter fun c => !c.isComment)) r rest
    | .token (.delim '&') :: rest => .take [.simple .nesting] r rest
    | .token .colon :: .token .colon :: .token (.ident name) :: rest => pseudoElement r name rest
    | .token .colon :: .token .colon :: .nested (.function name) body :: rest =>
      elementFunction fuel r name body rest
    | .token .colon :: .token (.ident name) :: rest =>
      if oneColonElements.contains (Text.asciiLower name) then pseudoElement r name rest
      else .ofSimple? (simpleState r name) r rest
    | .token .colon :: .nested (.function name) body :: rest =>
      if oneColonElements.contains (Text.asciiLower name) then elementFunction fuel r name body rest
      else .ofSimple? (stateFunction fuel r name body) r rest
    | .token .colon :: _ => .fail
    | _ => .stop

/-- Takes in a pseudo-element without arguments. -/
def pseudoElement (r : Reading) (name : String) (rest : List Component) : Step :=
  if r.afterPseudoElement || r.pseudoElementsBarred then .fail
  else match simpleElement r name with
    | some (read, r) => .take read r rest
    | none => .fail

/-- Reads a pseudo-element with arguments. -/
def elementFunction (fuel : Nat) (r : Reading) (name : String) (body rest : List Component) :
    Step :=
  match fuel with
  | 0 => .fail
  | fuel + 1 =>
    let key := Text.asciiLower name
    let inner := body.filter fun c => !c.isComment
    let known (text : String) : Step :=
      if r.afterSlotted then .fail
      else .take [.joint .pseudoElement, .simple (.pseudoElement text)]
        { r with afterPseudoElement := true } rest
    if r.afterPseudoElement || r.pseudoElementsBarred then .fail
    else if key == "part" then
      if r.afterPseudo then .fail
      else match identifiers? inner with
        | some names =>
          .take [.joint .part, .simple (.part names)] { r with afterPart := true } rest
        | none => .fail
    else if key == "slotted" then
      if r.afterPseudo then .fail
      else match items fuel r.withinCompound inner with
        | some read =>
          .take [.joint .slot, .simple (.slotted (ofItems read))] { r with afterSlotted := true }
            rest
        | none => .fail
    else if key == "cue" || key == "cue-region" then
      match items fuel {} inner with
      | some read => known ("::" ++ key ++ "(" ++ Written.selector false (ofItems read) ++ ")")
      | none => .fail
    else if viewTransitionElements.contains key then
      match snapshot? inner with
      | some text =>
        if r.afterSlotted then .fail
        else
          .take [.joint .pseudoElement,
              .simple (.pseudoElement ("::" ++ key ++ "(" ++ text ++ ")"))]
            { r with afterPseudoElement := true, afterViewTransition := true } rest
      | none => .fail
    else if Component.anyError body || r.afterSlotted then .fail
    else
      .take [.simple (.pseudoElement ("::" ++ name ++ "(" ++ Written.components body ++ ")"))] r
        rest

/-- Reads a pseudo-class with arguments. -/
def stateFunction (fuel : Nat) (r : Reading) (name : String) (body : List Component) :
    Option Simple :=
  match fuel with
  | 0 => none
  | fuel + 1 =>
    let key := Text.asciiLower name
    let inner := body.filter fun c => !c.isComment
    match nthKind? key with
    | some kind =>
      if r.afterPseudo then none
      else match Nth.read inner with
        | none => none
        | some (step, offset, rest) =>
          match Component.skipSpace rest with
          | [] => some (.nth kind step offset)
          | c :: rest =>
            if (kind == .child || kind == .lastChild) &&
                (c.ident?.map Text.asciiLower) == some "of" then
              (list fuel r.withoutPseudoElements true false rest).map (.nthOf kind step offset)
            else none
    | none =>
      if key == "is" || key == "where" || key == "-webkit-any" || key == "-moz-any" then
        (list fuel r.withoutPseudoElements true false body).map (.matching key)
      else if key == "not" then
        (list fuel r.withoutPseudoElements false false body).map (.matching key)
      else if key == "has" then (list fuel r true true body).map .has
      else if r.afterPseudo then none
      else if key == "host" then
        (items fuel r.withinCompound inner).map fun read => .host (ofItems read)
      else plainFunction name body
end

/-- Reads the selector list of a style rule. -/
def read? (prelude : List Component) : Option (List Selector) :=
  list (8 * Component.countAll prelude + 16) {} false false prelude

end SelectorCatalog.Css.Selector
