import SelectorCatalog.Config

/-!
# Values of settings

A setting has a value before it is known to fit: a text, a whole number, a list or something else.
Later layers replace the values of earlier ones, and a configuration is read from what remains.
-/

namespace SelectorCatalog.Config

/-- The value given to a setting. -/
inductive Value where
  | text (s : String)
  | whole (n : Int)
  | list (values : List Value)
  /-- A truth value, a number with a fraction, a date or a table, which no setting takes. -/
  | other
deriving Repr, Inhabited, BEq

/-- Settings with their values, earlier layers first. -/
abbrev Layer := List (String × Value)

/-- The value that counts for a setting: the one given last. -/
def Layer.get? (layer : Layer) (name : String) : Option Value :=
  layer.reverse.lookup name

/-- The largest number that a setting takes. -/
def largestWhole : Nat := UInt64.size - 1

/-- A value as a number that is not negative. -/
def Value.nat? : Value → Option Nat
  | whole n => if 0 ≤ n && n ≤ largestWhole then some n.toNat else none
  | _ => none

/-- A value as a text. -/
def Value.text? : Value → Option String
  | text s => some s
  | _ => none

/-- A value as a list of texts. -/
def Value.texts? : Value → Option (List String)
  | list values => values.mapM text?
  | _ => none

/-- A setting read with `read`, or its default where it has no value; `none` when the value does not
fit. -/
def setting? (layer : Layer) (name : String) (read : Value → Option α) (default : α) : Option α :=
  match layer.get? name with
  | some value => read value
  | none => some default

/-- The configuration that a layer gives; `none` when a value does not fit its setting. -/
def ofLayer? (layer : Layer) : Option Config := do
  let default : Config := {}
  return {
    checkIntervalMs := ← setting? layer "check_interval_ms" Value.nat? default.checkIntervalMs
    stylesheetExtensions := ← setting? layer "stylesheet_extensions" Value.texts?
      default.stylesheetExtensions
    maxFileBytes := ← setting? layer "max_file_bytes" Value.nat? default.maxFileBytes
    excludeDirs := ← setting? layer "exclude_dirs" Value.texts? default.excludeDirs
    projectRoot := ← setting? layer "project_root" (fun v => v.text?.map fun s => some ⟨s⟩) none }

end SelectorCatalog.Config
