import SelectorCatalog.Config.Environment
import SelectorCatalog.Config.Toml

/-!
# Loading a configuration

The settings of a configuration file count over the defaults, and those of the environment over
both. A configuration is loaded when every value fits its setting and is in range.
-/

namespace SelectorCatalog.Config

/-- Why a configuration cannot be loaded. -/
inductive LoadError where
  /-- The file is not well formed, or a value does not fit its setting. -/
  | unreadable
  | invalid (fault : Fault)
deriving DecidableEq, Repr

/-- The configuration that a file, if there is one, and the variables of the environment give. -/
def load (file : Option String) (environment : List (String × String)) : Except LoadError Config :=
  let fileLayer : Option Layer := match file with
    | some text => Toml.settings? text
    | none => some []
  match fileLayer >>= fun layer => ofLayer? (layer ++ Environment.settings environment) with
  | none => .error .unreadable
  | some config =>
    match config.fault? with
    | some fault => .error (.invalid fault)
    | none => .ok config

end SelectorCatalog.Config
