import SelectorCatalog.Css.Component
import SelectorCatalog.Text.Lower

/-!
# Positions among siblings

The notation `an+b` for the positions `a · n + b`, in which the sign and the blanks around it decide
how the text falls into tokens: `2n-1` is one dimension, `2n - 1` three tokens. Coefficients are
clamped to 32 bits.
-/

namespace SelectorCatalog.Css.Nth

/-- A whole number clamped to 32 bits. -/
def clamp (n : Int) : Int :=
  max (-2147483648) (min 2147483647 n)

/-- The number that digits stand for. -/
def natOfDigits (digits : List Char) : Nat :=
  digits.foldl (fun n c => 10 * n + (c.toNat - '0'.toNat)) 0

/-- The value of a whole number; one with a fraction or an exponent is not whole. -/
def whole? (value : Numeral) : Option Int :=
  if value.fraction.isSome || value.exponent.isSome then none
  else
    let n : Int := natOfDigits value.whole
    some (clamp (if value.sign == some '-' then -n else n))

/-- The offset in a text of the form `n-` and digits. -/
def dashDigits? (text : String) : Option Int :=
  match text.toList.map Char.toLower with
  | 'n' :: '-' :: c :: rest =>
    if (c :: rest).all Char.isDigit then some (clamp (-(natOfDigits (c :: rest) : Int))) else none
  | _ => none

/-- Reads an offset without a sign of its own. -/
def unsignedOffset (step sign : Int) (cs : List Component) : Option (Int × Int × List Component) :=
  match Component.skipSpace cs with
  | .token (.number value) :: rest =>
    if value.sign.isSome then none
    else (whole? value).map fun b => (step, sign * b, rest)
  | _ => none

/-- Reads the offset behind a step, if there is one. -/
def offset (step : Int) (cs : List Component) : Option (Int × Int × List Component) :=
  match Component.skipSpace cs with
  | .token (.delim '+') :: rest => unsignedOffset step 1 rest
  | .token (.delim '-') :: rest => unsignedOffset step (-1) rest
  | .token (.number value) :: rest =>
    match value.sign, whole? value with
    | some _, some b => some (step, b, rest)
    | _, _ => some (step, 0, cs)
  | _ => some (step, 0, cs)

/-- Reads what follows a step, where `unit` is the text right behind its digits. -/
def afterStep (step : Int) (unit : String) (cs : List Component) :
    Option (Int × Int × List Component) :=
  match Text.asciiLower unit with
  | "n" => offset step cs
  | "n-" => unsignedOffset step (-1) cs
  | _ => (dashDigits? unit).map fun b => (step, b, cs)

/-- Reads a step and an offset, and returns what follows. -/
def read (cs : List Component) : Option (Int × Int × List Component) :=
  match Component.skipSpace cs with
  | .token (.number value) :: rest => (whole? value).map fun b => (0, b, rest)
  | .token (.dimension value unit) :: rest => (whole? value).bind fun a => afterStep a unit rest
  | .token (.ident name) :: rest =>
    match Text.asciiLower name with
    | "even" => some (2, 0, rest)
    | "odd" => some (2, 1, rest)
    | _ =>
      match name.toList with
      | '-' :: letters => afterStep (-1) (String.ofList letters) rest
      | _ => afterStep 1 name rest
  | .token (.delim '+') :: .token (.ident name) :: rest => afterStep 1 name rest
  | _ => none

end SelectorCatalog.Css.Nth
