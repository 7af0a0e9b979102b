import SelectorCatalog.Session.Command

/-!
# The state of a session

A catalogue on a bench, with what its user has seen of it: the numbered entries and the calls that
were left pending.
-/

namespace SelectorCatalog

/-- An entry with a number, and how much of what it told was reported. -/
structure Session.Numbered where
  entry : EntryId
  seen : Nat
deriving DecidableEq, Repr

/-- A call that was left pending, and whether its end was reported. -/
structure Session.Pending where
  job : JobId
  reported : Bool := false
deriving DecidableEq, Repr

/-- A session. -/
structure Session where
  catalog : Catalog
  bench : Host.Bench
  /-- The numbered entries, by number. -/
  numbered : List Session.Numbered := []
  /-- The calls ever left pending, by number. -/
  pending : List Session.Pending := []
  /-- The checker started last. -/
  checker : Option Nat := none

namespace Session

/-- The time of day during a session: later than some files were written and earlier than others. -/
def timeOfDay : Time := 2000000000

/-- A session with an empty catalogue. -/
def new (config : Config) (bench : Host.Bench) : Session where
  catalog := .new config timeOfDay
  bench := bench

/-- The entry of a number. -/
def entryId? (s : Session) (number : Nat) : Option EntryId :=
  (s.numbered[number]?).map (·.entry)

/-- Gives an entry the next number, unless it has one; what it told before is not reported. -/
def number (s : Session) (entry : EntryId) : Session × Nat :=
  match s.numbered.findIdx? (·.entry == entry) with
  | some n => (s, n)
  | none =>
    let told := ((s.catalog.entries[entry]?).map (·.sent.length)).getD 0
    ({ s with numbered := s.numbered ++ [⟨entry, told⟩] }, s.numbered.length)

/-- The answer with an entry. -/
def entryReply (s : Session) : Option EntryId → Session × Reply
  | some entry =>
    let (s, n) := s.number entry
    (s, .entry (some n))
  | none => (s, .entry none)

/-- The answer with what a call came to. -/
def outcomeReply (s : Session) : Job.Outcome → Session × Reply
  | .entry id => s.entryReply id
  | .flag b => (s, .flag b)
  | .count n => (s, .count n)
  | .fetched (.ok _) => (s, .fetched)
  | .fetched (.error error) => (s, .failed error)
  | .checked (.ok b) => (s, .flag b)
  | .checked (.error error) => (s, .failed error)
  | .unit => (s, .nothing)

/-- Leaves a call pending. -/
def postpone (s : Session) (job : JobId) : Session × Reply :=
  ({ s with pending := s.pending ++ [{ job := job }] }, .pending s.pending.length)

/-- The answer to a call: what it came to, or its number if it goes on. -/
def callReply (s : Session) (job : JobId) : Session × Reply :=
  match s.catalog.outcome? job with
  | some outcome => s.outcomeReply outcome
  | none => s.postpone job

end Session

end SelectorCatalog
