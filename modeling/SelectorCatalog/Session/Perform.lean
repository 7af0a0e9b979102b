import SelectorCatalog.Session.Settle

/-!
# Carrying out commands

A command starts what it asks for, everything goes on until nothing moves, and then the command is
answered.
-/

namespace SelectorCatalog.Session

/-! ## The bench -/

/-- Puts another bench in the place of the old one. -/
def setBench (s : Session) (b : Host.Bench) : Session :=
  { s with bench := b }

/-- Puts a changed store on the bench; the answer is whether it could be changed. -/
def setStore (s : Session) (changed : Host.Store × Bool) : Session × Reply :=
  (s.setBench { s.bench with store := changed.1 }, .flag changed.2)

/-- A value, or why there is none. -/
def replyOr (reply : α → Reply) : Except Error α → Reply
  | .ok a => reply a
  | .error error => .failed error

/-- Lets a waiting read go. -/
def release (s : Session) (path : Path) (nth : Nat) : Session × Reply :=
  match s.bench.release? path nth with
  | some (bench, read) =>
    let s := (s.setBench bench).answerRead read.job read.path
    ((s.serve read.job patience).settle, .flag true)
  | none => (s, .flag false)

/-- Carries out a command to the bench. -/
def performBench (s : Session) : BenchCommand → Session × Reply
  | .write path text modified => s.setStore (s.bench.store.write path text modified)
  | .writeBytes path bytes modified =>
    s.setStore (s.bench.store.onDisk fun d => d.write? path bytes modified)
  | .remove path => s.setStore (s.bench.store.remove path)
  | .makeDirectory path => s.setStore (s.bench.store.onDisk fun d => d.makeDirectory? path)
  | .makeLink path target => s.setStore (s.bench.store.onDisk fun d => d.makeLink? path target)
  | .hold path => (s.setBench (s.bench.hold path), .flag true)
  | .unhold path => (s.setBench (s.bench.unhold path), .flag true)
  | .release path nth => s.release path nth
  | .fail duty path error => (s.setBench (s.bench.fail duty path error), .flag true)
  | .read path => (s, replyOr .text (s.bench.store.directly.read path))
  | .stat path => (s, replyOr .stat (s.bench.store.directly.stat path))
  | .resolve path =>
    (s, replyOr (fun file => .path (some file)) (s.bench.store.directly.resolve path))
  | .list dir => (s, replyOr .members (s.bench.store.directly.list dir))

/-! ## Entries -/

/-- Makes a call and answers with what it came to. -/
def performCall (s : Session) (call : Catalog.Call) : Session × Reply :=
  let (s, job) := s.call call
  s.callReply job

/-- Changes the catalogue and lets everything go on. -/
def change (s : Session) (f : Catalog → Catalog) : Session :=
  { s with catalog := f s.catalog }.settle

/-- Carries out a command on an entry. -/
def performEntry (s : Session) (id : EntryId) (e : Entry) : EntryCommand → Session × Reply
  | .fetch => s.performCall (.fetch id)
  | .check => if e.kind == .css then s.performCall (.check id) else (s, .refused .notStylesheet)
  | .clear => (s.change fun c => c.changeEntry id Entry.clear, .nothing)
  | .dispose => (s.change fun c => c.disposeEntry id, .nothing)
  | .searchClass query tag ignore => (s, .names (e.index.searchClass query tag ignore))
  | .searchId query => (s, .names (e.index.searchId query))
  | .info => (s, .info (.of e))

/-- Carries out a command on the entry of a number. -/
def performNumbered (s : Session) (number : Nat) (command : EntryCommand) : Session × Reply :=
  match (s.entryId? number).bind fun id => (s.catalog.entries[id]?).map fun e => (id, e) with
  | some (id, e) => s.performEntry id e command
  | none => (s, .refused .noEntry)

/-- Carries out a command on entries that stand alone. -/
def performStandalone (s : Session) : StandaloneCommand → Session × Reply
  | .new kind path =>
    let (c, id) := s.catalog.addStandalone kind path
    { s with catalog := c }.entryReply (some id)
  | .openStylesheet path => s.performCall (.openStandalone path)
  | .setRoot root => ({ s with catalog := { s.catalog with standaloneRoot := root } }, .path root)

/-! ## The catalogue -/

/-- Carries out a command to the catalogue. -/
def performCatalog (s : Session) : CatalogCommand → Session × Reply
  | .create kind path byPath => s.performCall (.create kind path byPath)
  | .activate editor =>
    -- only an editor that shows a document asks for something
    match editor.bind Editor.call? with
    | some call => s.performCall call
    | none => (s, .entry none)
  | .lookup kind path => s.entryReply (s.catalog.entryOf? kind path)
  | .contains path => (s, .flag (s.catalog.contains path))
  | .isEmpty => (s, .flag s.catalog.isEmpty)
  | .root => (s, .path s.catalog.root)
  | .saved path => s.performCall (.saved path)
  | .remove path => (s.change fun c => (c.remove path).1, .flag (s.catalog.remove path).2)
  | .reset => (s.change Catalog.reset, .nothing)
  | .openProject root => s.performCall (.openProject root)
  | .checkAll => s.performCall .checkAll
  | .change change => s.performCall (.change change)
  | .searchClass document query tag ignore =>
    (s, .classes (s.catalog.searchClass document query tag ignore))
  | .searchId document query => (s, .names (s.catalog.searchId document query))
  | .startChecker =>
    -- only the latest checker is answered for
    ({ s with checker := some s.catalog.checkers.length }.change Catalog.startChecker, .nothing)
  | .drop => (s.change fun c => { c with held := false }, .nothing)

/-- Whether a checker has ended. -/
def isFinished (s : Session) (checker : Nat) : Bool :=
  s.catalog.checkers[checker]? == some .finished

/-- Carries out a command. -/
def perform (s : Session) : Command → Session × Reply
  | .bench command => s.performBench command
  | .standalone command => s.performStandalone command
  | .entry number command => s.performNumbered number command
  | .catalog command =>
    if s.catalog.held then s.performCatalog command else (s, .refused .noCatalog)
  | .pass ms => (s.change fun c => { c with uptime := c.uptime + ms }, .nothing)
  | .stopChecker =>
    match s.checker with
    | some checker => (s.change fun c => c.stopChecker checker, .nothing)
    | none => (s, .nothing)
  | .checkerFinished =>
    match s.checker with
    | some checker => (s, .flag (s.isFinished checker))
    | none => (s, .nothing)

/-! ## Reports -/

/-- Reports the pending calls that have come to an end, those from number `first` on. -/
def finishFrom (s : Session) (first : Nat) : List Pending → Session × List (Nat × Reply)
  | [] => (s, [])
  | p :: rest =>
    -- what came to an end is reported once
    match if p.reported then none else s.catalog.outcome? p.job with
    | some outcome =>
      let (s, reply) := s.outcomeReply outcome
      let (s, later) := s.finishFrom (first + 1) rest
      (s, (first, reply) :: later)
    | none => s.finishFrom (first + 1) rest

/-- Marks the pending calls that have come to an end as reported. -/
def markReported (s : Session) : Session :=
  { s with pending := s.pending.map fun p =>
      { p with reported := p.reported || (s.catalog.outcome? p.job).isSome } }

/-- What the entries with a number told since the last report. -/
def events (s : Session) : List (Nat × Path × EntryEvent) :=
  (s.numbered.zipIdx.map fun (known, n) =>
    match s.catalog.entries[known.entry]? with
    | some e => (e.unheard known.seen).map fun event => (n, e.path, event)
    | none => []).flatten

/-- Marks all that was told as reported. -/
def markHeard (s : Session) : Session :=
  { s with numbered := s.numbered.map fun known =>
      match s.catalog.entries[known.entry]? with
      | some e => { known with seen := e.sent.length }
      | none => known }

/-- Forgets what was read and reported before. -/
def forget (s : Session) : Session :=
  { s with
    bench := { s.bench with reads := [] }
    catalog := { s.catalog with notices := [] } }

/-- Carries out a command and reports all that happened. -/
def run (s : Session) (command : Command) : Session × Report :=
  let (s, reply) := s.forget.perform command
  let (s, finished) := s.finishFrom 0 s.pending
  let s := s.markReported
  (s.markHeard,
    { reply := reply
      stock := if s.catalog.held then some (s.catalog.size, s.catalog.stylesheetPaths) else none
      finished := finished
      reads := s.bench.reads
      events := s.events
      notices := s.catalog.notices })

end SelectorCatalog.Session
