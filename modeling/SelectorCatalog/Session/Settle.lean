import SelectorCatalog.Session.State

/-!
# Settling

The bench answers at once, except that the parser's work and the building of an index take a moment
each. So jobs take turns: in its turn a job first gets the answer that took a moment, and then goes
on for as long as it is answered at once. Rounds of turns follow each other until nothing moves any
more; in a round the jobs come first, in the order in which they were started, then the listeners,
then the checkers.
-/

namespace SelectorCatalog.Session

/-- The most answers in a turn and the most rounds in a row. -/
def patience : Nat := 1000000

/-- Gives a job an answer. -/
def answer (s : Session) (job : JobId) (a : Answer) : Session :=
  { s with catalog := s.catalog.resume job a }

/-- Answers a job's read. -/
def answerRead (s : Session) (job : JobId) (path : Path) : Session :=
  s.answer job (.text (s.bench.read path))

/-- Begins a read: it is answered, or it waits to be let go. -/
def beginRead (s : Session) (job : JobId) (path : Path) : Session :=
  let s := { s with bench := s.bench.beginRead path }
  if s.bench.isHeld path then { s with bench := s.bench.delay path job } else s.answerRead job path

/-- Gives a job the answer that takes a moment, if it waits for such a one. -/
def finishWork? (s : Session) (job : JobId) : Option Session :=
  match s.catalog.request? job with
  | some (.parse block text) => some (s.answer job (.parsed block (s.bench.parser.rules text)))
  | some .build => some (s.answer job .built)
  | _ => none

/-- Whether a job waits for the parser. -/
def awaitsParser (s : Session) (job : JobId) : Bool :=
  match s.catalog.request? job with
  | some (.parse ..) => true
  | _ => false

/-- Lets the parser finish all blocks that a job waits for. -/
def finishBlocks (s : Session) (job : JobId) : Nat → Session
  | 0 => s
  | fuel + 1 =>
    -- the blocks of a document are parsed within one turn
    if s.awaitsParser job then ((s.finishWork? job).getD s).finishBlocks job fuel else s

/-- Gives a job the answer that is there at once, or what another job constructed for it. -/
def serve? (s : Session) (job : JobId) : Option Session :=
  match s.catalog.request? job with
  | some (.resolve path) => some (s.answer job (.resolved (s.bench.resolve path)))
  | some (.stat path) => some (s.answer job (.stat (s.bench.stat path)))
  | some (.list dir) => some (s.answer job (.listing (s.bench.list dir)))
  | some (.read path) => if s.bench.keepsWaiting job then none else some (s.beginRead job path)
  | some (.parse ..) | some .build => none
  | none => (s.catalog.wake? job).map fun c => { s with catalog := c }

/-- Serves a job for as long as it is answered at once. -/
def serve (s : Session) (job : JobId) : Nat → Session
  | 0 => s
  | fuel + 1 =>
    match s.serve? job with
    | some s => s.serve job fuel
    | none => s

/-- A job's turn; `none` when there is nothing for it. -/
def turn? (s : Session) (job : JobId) : Option Session :=
  -- the job goes on in the turn in which its blocks are done
  if s.awaitsParser job then some ((s.finishBlocks job patience).serve job patience)
  else
    match s.finishWork? job with
    | some s => some (s.serve job patience)
    | none => (s.serve? job).map fun s => s.serve job patience

/-- A listener's turn. -/
def listen? (s : Session) (listener : Nat) : Option Session :=
  (s.catalog.listen? listener).map fun c => { s with catalog := c }

/-- A checker's turn. -/
def tick? (s : Session) (checker : Nat) : Option Session :=
  (s.catalog.tick? checker).map fun c => { s with catalog := c }

/-- Turns one after the other; also, whether anything moved. -/
def turns (s : Session) (moved : Bool) (turn? : Session → Nat → Option Session) :
    List Nat → Session × Bool
  | [] => (s, moved)
  | i :: rest =>
    match turn? s i with
    | some s => s.turns true turn? rest
    | none => s.turns moved turn? rest

/-- A round of turns; also, whether anything moved. -/
def round (s : Session) : Session × Bool :=
  -- a job started in this round has its first turn in the next one
  let (s, moved) := s.turns false turn? (List.range s.catalog.jobs.length)
  let (s, moved) := s.turns moved listen? (List.range s.catalog.listeners.length)
  s.turns moved tick? (List.range s.catalog.checkers.length)

/-- Rounds until nothing moves. -/
def rounds (s : Session) : Nat → Session
  | 0 => s
  | fuel + 1 =>
    match s.round with
    | (s, true) => s.rounds fuel
    | (s, false) => s

/-- Lets everything go on that can. -/
def settle (s : Session) : Session :=
  s.rounds patience

/-- Starts a call, gives it the first turn and lets everything go on. -/
def call (s : Session) (call : Catalog.Call) : Session × JobId :=
  let (c, job) := s.catalog.start call
  (({ s with catalog := c }.serve job patience).settle, job)

end SelectorCatalog.Session
