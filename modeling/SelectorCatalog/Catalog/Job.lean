import SelectorCatalog.Entry.Fetch

/-!
# Jobs

A job is a piece of work that waits for the host, for another job's construction or for its own
parts. Each stage says what it waits for and holds what it needs to go on, so that a job can be
resumed from its stage alone.
-/

namespace SelectorCatalog

/-- The number of a slot. -/
abbrev SlotId := Nat

/-- The number of a job. -/
abbrev JobId := Nat

namespace Job

/-- What a job comes to. -/
inductive Outcome where
  /-- The entry asked for, if there is one. -/
  | entry (id : Option EntryId)
  | flag (b : Bool)
  | count (n : Nat)
  | fetched (result : Except Error Unit)
  /-- Whether a check fetched the file again. -/
  | checked (result : Except Error Bool)
  | unit

/-- What a fetch is for, and so what follows it. -/
inductive Purpose where
  /-- The construction of the entry of a slot. -/
  | construct (slot : SlotId)
  /-- The refresh of an entry that was asked for by this path. -/
  | refresh (path : Path)
  /-- The document at this path was saved. -/
  | saved (path : Path)
  /-- The file is newer than the index. -/
  | update
  /-- The entry was opened apart from the registry. -/
  | opened
  /-- The fetch itself was asked for. -/
  | direct

/-- What follows when all parts of a job are done. -/
inductive Plan where
  /-- The stylesheets that a document links are attached. -/
  | attach
  /-- Added stylesheets are followed by the removed ones. -/
  | remove (paths : List Path)
  /-- The stylesheets found below a root are registered. -/
  | project (root : Path) (found : Nat)
  /-- All stylesheets are checked. -/
  | checks (entries : List EntryId)

/-- How far a job is. -/
inductive Stage where
  /-- Nothing has happened yet. -/
  | starting
  /-- Waits for where a path leads, to create an entry there. -/
  | resolving (kind : EntryKind) (path : Path)
  | fetching (fetch : Fetch) (purpose : Purpose)
  /-- Waits for the construction of a slot's entry by another job. -/
  | awaiting (slot : SlotId) (path : Path) (byPath : Bool)
  /-- Waits for the age of an entry's file. -/
  | checking (entry : EntryId)
  /-- Waits for the listing of the first pending directory. -/
  | scanning (root : Path) (pending found : List Path)
  /-- Waits for its parts. -/
  | joining (parts : List JobId) (plan : Plan)
  | done (outcome : Outcome)

end Job

/-- A piece of work: its stage, the job that it is a part of, and whether it keeps the catalogue in
use. -/
structure Job where
  stage : Job.Stage
  parent : Option JobId := none
  ofCatalog : Bool := true

namespace Job

/-- What the job came to, once it is done. -/
def outcome? (t : Job) : Option Outcome :=
  match t.stage with
  | .done outcome => some outcome
  | _ => none

/-- Whether the job is done. -/
def isDone (t : Job) : Bool :=
  t.outcome?.isSome

end Job

end SelectorCatalog
