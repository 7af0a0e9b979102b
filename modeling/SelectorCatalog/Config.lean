import SelectorCatalog.Notice
import SelectorCatalog.Text.Quoted

/-!
# Configuration

What can be set: how often stylesheets are checked, which files are stylesheets, how large a file
may be, which directories a scan skips, and the root of the project. `Config.fault?` finds the first
setting that is out of its range.
-/

namespace SelectorCatalog

/-- The settings of a catalogue. -/
structure Config where
  /-- The time between two checks of all stylesheets, in milliseconds. -/
  checkIntervalMs : Nat := 20000
  /-- The extensions of stylesheets, without their dot. -/
  stylesheetExtensions : List String := ["css"]
  /-- The size of the largest file that is indexed, in bytes. -/
  maxFileBytes : Nat := 5242880
  /-- The names of directories that a scan skips. -/
  excludeDirs : List String := []
  /-- The root of the project until one is opened. -/
  projectRoot : Option Path := none
deriving DecidableEq, Repr

namespace Config

/-- Whether two texts are equal up to the case of ASCII letters. -/
def sameAscii (s t : String) : Bool :=
  s.toList.map Char.toLower == t.toList.map Char.toLower

/-- Whether a path has one of the extensions of stylesheets. -/
def isStylesheet (config : Config) (path : Path) : Bool :=
  path.extension?.any fun ext => config.stylesheetExtensions.any (sameAscii · ext)

/-- Whether a scan skips directories of that name. -/
def isExcluded (config : Config) (name : String) : Bool :=
  config.excludeDirs.contains name

/-- What can be wrong with a setting. -/
inductive Fault where
  | intervalTooShort
  | intervalTooLong
  | noExtension
  /-- An extension that is empty or starts with a dot. -/
  | badExtension (ext : String)
  | noBytes
  | tooManyBytes
deriving DecidableEq, Repr

/-- The name of the setting that is wrong. -/
def Fault.field : Fault → String
  | intervalTooShort | intervalTooLong => "check_interval_ms"
  | noExtension | badExtension _ => "stylesheet_extensions"
  | noBytes | tooManyBytes => "max_file_bytes"

/-- What is wrong with the setting. -/
def Fault.reason : Fault → String
  | intervalTooShort => "must be at least 500ms"
  | intervalTooLong => "must not exceed one hour (3600000ms)"
  | noExtension => "must list at least one extension"
  | badExtension ext => "invalid extension " ++ Text.quoted ext ++ " (omit the leading dot)"
  | noBytes => "must be greater than 0"
  | tooManyBytes => "must not exceed 50MB"

/-- The message of a fault. -/
def Fault.message (fault : Fault) : String :=
  "invalid config field " ++ fault.field ++ ": " ++ fault.reason

/-- The shortest time between two checks. -/
def shortestIntervalMs : Nat := 500

/-- The longest time between two checks. -/
def longestIntervalMs : Nat := 3600000

/-- The largest size that the limit on files may have. -/
def mostFileBytes : Nat := 52428800

/-- Whether an extension is empty or starts with a dot. -/
def isBadExtension (ext : String) : Bool :=
  ext.isEmpty || ext.toList.head? == some '.'

/-- The first setting that is out of its range. -/
def fault? (config : Config) : Option Fault :=
  if config.checkIntervalMs < shortestIntervalMs then some .intervalTooShort
  else if longestIntervalMs < config.checkIntervalMs then some .intervalTooLong
  else if config.stylesheetExtensions.isEmpty then some .noExtension
  -- the first bad extension is the one that is named
  else match config.stylesheetExtensions.find? isBadExtension with
    | some ext => some (.badExtension ext)
    | none =>
      if config.maxFileBytes == 0 then some .noBytes
      else if mostFileBytes < config.maxFileBytes then some .tooManyBytes
      else none

/-- What is reported about settings that are in range: a project root should be absolute. -/
def notices (config : Config) : List Notice :=
  match config.projectRoot with
  | some root => if root.isAbsolute then [] else [.relativeRoot root]
  | none => []

end Config

end SelectorCatalog
