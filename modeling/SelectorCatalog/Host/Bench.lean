import SelectorCatalog.Catalog.Job
import SelectorCatalog.Css.Stylesheet
import SelectorCatalog.Host.Store

/-!
# The bench

A host whose behaviour is set by hand: a store of files, a parser that may follow a script, failures
that are put in the way of single requests, and reads that wait until they are let go.
-/

namespace SelectorCatalog.Host

/-- One line of a parser's script: a text, and what the parser answers for it. -/
structure Cue where
  text : String
  reply : Except String (List Rule)

/-- The parser of a bench. -/
inductive Parser where
  /-- Reads every text as a stylesheet. -/
  | stylesheet
  /-- Answers as the first cue for a text says, and refuses a text without a cue. -/
  | script (cues : List Cue)

/-- What a parser answers for a text. -/
def Parser.rules (p : Parser) (text : String) : Except Error (List Rule) :=
  match p with
  | .stylesheet => .ok (Css.Stylesheet.rules text)
  | .script cues =>
    match cues.find? (·.text == text) with
    | some cue => cue.reply.mapError .parseFailed
    | none => .error (.parseFailed "no script")

/-- The requests that can be made to fail. -/
inductive Duty where
  | stat
  | read
  | resolve
  | list
deriving DecidableEq, Repr

/-- A failure of one request on one path. -/
structure Failure where
  duty : Duty
  path : Path
  error : Error

/-- A read that waits to be let go, and the job that asked for it. -/
structure HeldRead where
  path : Path
  job : JobId
deriving DecidableEq, Repr

/-- A host set by hand. -/
structure Bench where
  store : Store
  parser : Parser
  failures : List Failure := []
  /-- The paths whose reads wait. -/
  held : List Path := []
  /-- The reads that wait, oldest first. -/
  waiting : List HeldRead := []
  /-- The paths of all reads begun. -/
  reads : List Path := []

namespace Bench

/-- The failure set for a request. -/
def failure? (b : Bench) (duty : Duty) (path : Path) : Option Error :=
  (b.failures.find? fun f => f.duty == duty && f.path.same path).map (·.error)

/-- What a request answers, unless it is made to fail. -/
def guarded (b : Bench) (duty : Duty) (path : Path) (answer : Except Error α) : Except Error α :=
  match b.failure? duty path with
  | some error => .error error
  | none => answer

def stat (b : Bench) (path : Path) : Except Error FileStat :=
  b.guarded .stat path (b.store.stat path)

def read (b : Bench) (path : Path) : Except Error String :=
  b.guarded .read path (b.store.read path)

def resolve (b : Bench) (path : Path) : Except Error Path :=
  b.guarded .resolve path (b.store.resolve path)

def list (b : Bench) (dir : Path) : Except Error (List DirEntry) :=
  b.guarded .list dir (b.store.list dir)

/-- Sets the failure of a request, or takes it away. -/
def fail (b : Bench) (duty : Duty) (path : Path) (error : Option Error) : Bench :=
  let others := b.failures.filter fun f => !(f.duty == duty && f.path.same path)
  { b with failures := others ++ (error.map fun e => ⟨duty, path, e⟩).toList }

/-- Lets reads of a path wait from now on. -/
def hold (b : Bench) (path : Path) : Bench :=
  { b with held := path :: b.held }

/-- Lets later reads of a path pass; those that wait keep waiting. -/
def unhold (b : Bench) (path : Path) : Bench :=
  { b with held := b.held.filter fun p => !p.same path }

/-- Whether reads of a path wait. -/
def isHeld (b : Bench) (path : Path) : Bool :=
  b.held.any path.same

/-- Whether a job's read waits. -/
def keepsWaiting (b : Bench) (job : JobId) : Bool :=
  b.waiting.any (·.job == job)

/-- Counts a read. -/
def beginRead (b : Bench) (path : Path) : Bench :=
  { b with reads := b.reads ++ [path] }

/-- Lets a read wait. -/
def delay (b : Bench) (path : Path) (job : JobId) : Bench :=
  { b with waiting := b.waiting ++ [⟨path, job⟩] }

/-- Takes one of the waiting reads of a path out, the oldest being number 0. -/
def release? (b : Bench) (path : Path) (nth : Nat) : Option (Bench × HeldRead) :=
  ((b.waiting.filter (·.path.same path))[nth]?).map fun r =>
    ({ b with waiting := b.waiting.erase r }, r)

end Bench

end SelectorCatalog.Host
