import SelectorCatalog.Catalog.Search

/-!
# Steps

What happens between two moments of waiting. Each function takes a catalogue as far as it goes
without the host, another job's construction or a part of the same job; so the steps of several jobs
can follow each other in any order, and nothing comes in between the parts of one step.
-/

namespace SelectorCatalog.Catalog

open Job (Outcome Purpose Plan Stage)

/-! ## The end of a job -/

/-- What is reported of a failed fetch: its entry's disposal is no failure. -/
def fetchNotices (path : Path) : Except Error Unit → List Notice
  | .error .disposed => []
  | .error error => [.fetchFailed path error]
  | .ok _ => []

/-- Removes stylesheets that are gone. -/
def removeGone (c : Catalog) (paths : List Path) : Catalog :=
  paths.foldl (fun c path =>
    match c.remove path with
    | (c, true) => c.notify [.stylesheetGone path]
    | (c, false) => c) c

/-- The number of parts that came to an entry. -/
def countEntries (outcomes : List Outcome) : Nat :=
  outcomes.countP fun
    | .entry (some _) => true
    | _ => false

/-- The number of checks that fetched a file again. -/
def countFetched (outcomes : List Outcome) : Nat :=
  outcomes.countP fun
    | .checked (.ok true) => true
    | _ => false

/-- What is reported of checks that failed. -/
def checkNotices (c : Catalog) (entries : List EntryId) (outcomes : List Outcome) : List Notice :=
  (entries.zip outcomes).filterMap fun
    | (id, .checked (.error error)) => (c.entries[id]?).map fun e => .checkFailed e.path error
    | _ => none

/-- What follows when all parts of a job are done, and what the job comes to. -/
def follow (c : Catalog) (outcomes : List Outcome) : Plan → Catalog × Outcome
  | .attach => (c, .unit)
  | .remove paths => (c.removeGone paths, .unit)
  | .project root found =>
    let cached := countEntries outcomes
    (c.notify [.projectCached root found cached], .count cached)
  | .checks entries => (c.notify (c.checkNotices entries outcomes), .count (countFetched outcomes))

/-- Goes on with a job whose parts are all done. -/
def joinParts (c : Catalog) (id : JobId) : Catalog :=
  match c.stage? id with
  | some (.joining parts plan) =>
    match parts.mapM c.outcome? with
    | some outcomes =>
      let (c, outcome) := c.follow outcomes plan
      c.setStage id (.done outcome)
    | none => c
  | _ => c

/-- Ends a job, and goes on with the job that it is the last part of. -/
def complete (c : Catalog) (id : JobId) (outcome : Outcome) : Catalog :=
  let c := c.setStage id (.done outcome)
  match (c.jobs[id]?).bind (·.parent) with
  | some parent => c.joinParts parent
  | none => c

/-! ## Fetching -/

/-- Goes on after the construction of a slot's entry: an entry whose slot was removed meanwhile is
disposed of. -/
def afterConstruction (c : Catalog) (id : JobId) (slot : SlotId) (entry : EntryId) : Catalog :=
  -- the slot is filled even if it is registered no more, so whoever waits for it is woken
  let c := c.fill slot entry
  if c.isRegistered slot then c.complete id (.entry (some entry))
  else (c.disposeEntry entry).complete id (.entry none)

/-- The path of an entry's file. -/
def pathOf (c : Catalog) (entry : EntryId) : Path :=
  ((c.entries[entry]?).map (·.path)).getD ⟨""⟩

/-- Goes on after a fetch. -/
def afterFetch (c : Catalog) (id : JobId) (entry : EntryId) (result : Except Error Unit) :
    Purpose → Catalog
  | .construct slot =>
    (c.notify (fetchNotices (c.pathOf entry) result)).afterConstruction id slot entry
  | .refresh path => (c.notify (fetchNotices path result)).complete id (.entry (some entry))
  | .saved path => (c.notify (fetchNotices path result)).complete id (.flag true)
  | .update =>
    match result with
    -- here a disposal midway is reported like any other error; the purposes above leave it out
    | .ok _ => (c.notify [.stylesheetUpdated (c.pathOf entry)]).complete id (.checked (.ok true))
    | .error error => c.complete id (.checked (.error error))
  | .opened =>
    match result with
    | .ok _ => c.complete id (.entry (some entry))
    | .error error =>
      -- a stylesheet that cannot be fetched is handed out nonetheless, and empty
      (c.notify [.openFailed (c.pathOf entry) error]).complete id (.entry (some entry))
  | .direct => c.complete id (.fetched result)

/-- Starts a fetch. -/
def startFetch (c : Catalog) (id : JobId) (entry : EntryId) (purpose : Purpose) : Catalog :=
  match c.entries[entry]? with
  | none => c
  | some e =>
    match Fetch.start entry e c.clock with
    | .error error => c.afterFetch id entry (.error error) purpose
    | .ok (e, fetch) => (c.setEntry entry e).setStage id (.fetching fetch purpose)

/-- Goes on with a fetch. -/
def resumeFetch (c : Catalog) (id : JobId) (fetch : Fetch) (purpose : Purpose) (answer : Answer) :
    Catalog :=
  -- entries are never taken away, so this does not happen
  match c.entries[fetch.entry]? with
  | none => c
  | some e =>
    let (e, notices, progress) := fetch.resume e c.config.maxFileBytes (c.rootOf e.scope) answer
    let c := (c.setEntry fetch.entry e).notify notices
    match progress with
    | .waiting stage => c.setStage id (.fetching { fetch with stage := stage } purpose)
    | .finished result => c.afterFetch id fetch.entry result purpose

/-! ## Creating entries -/

/-- Goes on with the constructed entry of a slot that another job claimed: it is refreshed when it
was asked for by path, and there is none when the slot was removed meanwhile. -/
def share (c : Catalog) (id : JobId) (slot : SlotId) (entry : EntryId) (path : Path)
    (byPath : Bool) : Catalog :=
  if !c.isRegistered slot then c.complete id (.entry none)
  else if byPath then c.startFetch id entry (.refresh path)
  else c.complete id (.entry (some entry))

/-- Constructs the entry of a slot: a listener follows it from the start. -/
def construct (c : Catalog) (id : JobId) (slot : SlotId) (kind : EntryKind) (path : Path) :
    Catalog :=
  let (c, entry) := c.addEntry { kind := kind, path := path, scope := .registry }
  let c := { c with listeners := c.listeners ++ [Listener.new slot entry] }
  c.startFetch id entry (.construct slot)

/-- Creates an entry of a kind for a file, or finds the one that is there. -/
def createAt (c : Catalog) (id : JobId) (kind : EntryKind) (path : Path) (byPath : Bool) :
    Catalog :=
  match c.claim kind path with
  -- of several jobs that ask for one file the first constructs, and the others share what it makes
  | (c, .fresh slot) => c.construct id slot kind path
  | (c, .shared slot ⟨_, _, some entry⟩) => c.share id slot entry path byPath
  -- under construction: the job is woken when the slot is filled
  | (c, .shared slot ⟨_, _, none⟩) => c.setStage id (.awaiting slot path byPath)
  | (c, .refused registered) =>
    (c.notify [.otherKind kind (.kindMismatch path registered)]).complete id (.entry none)

/-- Asks for an entry: by path, which has to lead to a file, or by a file known already. -/
def startCreate (c : Catalog) (id : JobId) (kind : EntryKind) (path : Path) (byPath : Bool) :
    Catalog :=
  if byPath then c.setStage id (.resolving kind path) else c.createAt id kind path false

/-! ## Checks -/

/-- Starts the check of a stylesheet's entry. -/
def startCheck (c : Catalog) (id : JobId) (entry : EntryId) : Catalog :=
  -- an entry that is disposed of counts as unchanged
  if (c.entries[entry]?).all Entry.isDisposed then c.complete id (.checked (.ok false))
  else c.setStage id (.checking entry)

/-- Goes on with a check: a file that is gone takes its entry along, and one that changed is fetched
again. -/
def afterStat (c : Catalog) (id : JobId) (entry : EntryId) : Except Error FileStat → Catalog
  | .error error =>
    if error.isNotFound then
      ((c.notify [.stylesheetGone (c.pathOf entry)]).disposeEntry entry).complete id
        (.checked (.ok false))
    else c.complete id (.checked (.error error))
  | .ok stat =>
    if (c.entries[entry]?).any (·.isStale stat.modified) then c.startFetch id entry .update
    else c.complete id (.checked (.ok false))

/-! ## Jobs with parts -/

/-- A part of a job. -/
inductive Part where
  /-- A stylesheet's entry is created. -/
  | create (path : Path) (byPath : Bool)
  | check (entry : EntryId)

/-- Starts a part as a job of its own. -/
def startPart (c : Catalog) (id : JobId) : Part → Catalog
  | .create path byPath => c.startCreate id .css path byPath
  | .check entry => c.startCheck id entry

/-- Starts parts one after the other, the first with number `id`. -/
def startPartsFrom (c : Catalog) (id : JobId) : List Part → Catalog
  | [] => c
  | part :: parts => (c.startPart id part).startPartsFrom (id + 1) parts

/-- Starts all parts of a job. -/
def startParts (c : Catalog) (id : JobId) (parts : List Part) (plan : Plan) : Catalog :=
  let first := c.jobs.length
  let fresh : Job := { stage := .starting, parent := some id }
  let c := { c with jobs := c.jobs ++ List.replicate parts.length fresh }
  -- the job joins before its parts start, as a part may be over at once
  let c := c.setStage id (.joining (List.range' first parts.length) plan)
  (c.startPartsFrom first parts).joinParts id

/-- Attaches the stylesheets that a document links. -/
def startAttach (c : Catalog) (id : JobId) (dependencies : List Path) : Catalog :=
  c.startParts id ((distinct dependencies).map fun path => .create path true) .attach

/-- Starts the check of all stylesheets. -/
def startChecks (c : Catalog) (id : JobId) : Catalog :=
  c.startParts id (c.stylesheets.map .check) (.checks c.stylesheets)

/-- A change of a directory, as a file watcher reports it. -/
structure Change where
  isDirectory : Bool
  added : List DirEntry
  removed : List DirEntry

/-- The paths of the stylesheets among directory members. -/
def stylesheetsAmong (config : Config) (members : List DirEntry) : List Path :=
  (members.filter fun m => m.isFile && config.isStylesheet m.path).map (·.path)

/-- Follows a change of a directory: added stylesheets first, then removed ones. -/
def startChange (c : Catalog) (id : JobId) (change : Change) : Catalog :=
  if !change.isDirectory then c.complete id .unit
  else
    -- the removals wait for the additions, so what is both added and removed is gone in the end
    let added := stylesheetsAmong c.config change.added
    (c.notify (added.map .stylesheetAdded)).startParts id (added.map fun path => .create path false)
      (.remove (stylesheetsAmong c.config change.removed))

/-- Goes on with the scan of a project: the next directory is listed, or the stylesheets found are
registered. -/
def scan (c : Catalog) (id : JobId) (root : Path) (found : List Path) : List Path → Catalog
  | [] => c.startParts id (found.map fun path => .create path false) (.project root found.length)
  | pending => c.setStage id (.scanning root pending found)

/-- The directories below a listed one that a scan goes into. -/
def subdirectories (config : Config) (members : List DirEntry) : List Path :=
  (members.filter fun m => m.isDirectory && !config.isExcluded m.name).map (·.path)

/-- The stylesheets directly inside a listed directory. -/
def stylesheetsIn (config : Config) (members : List DirEntry) : List Path :=
  (members.filter fun m =>
    -- a member that is both is gone into rather than taken, unless its name is excluded
    !(m.isDirectory && !config.isExcluded m.name) && m.isFile && config.isStylesheet m.path).map
      (·.path)

/-- Goes on with a scan after a directory was listed; the directory found last is listed next. -/
def afterListing (c : Catalog) (id : JobId) (root dir : Path) (pending found : List Path) :
    Except Error (List DirEntry) → Catalog
  | .error error => (c.notify [.listFailed dir error]).scan id root found pending
  | .ok members =>
    c.scan id root (found ++ stylesheetsIn c.config members)
      -- the pending directories are a stack
      ((subdirectories c.config members).reverse ++ pending)

/-- Opens a project: everything registered is disposed of, and the new root is scanned. -/
def startProject (c : Catalog) (id : JobId) (root : Path) : Catalog :=
  { c.reset with root := some root }.scan id root [] [root]

/-! ## Going on -/

/-- Goes on with a job that the host has answered; an answer to another request changes nothing. -/
def resume (c : Catalog) (id : JobId) (answer : Answer) : Catalog :=
  match c.stage? id, answer with
  | some (.resolving kind path), .resolved result =>
    match result with
    | .ok file => c.createAt id kind file true
    | .error error => (c.notify [.notCreated path error]).complete id (.entry none)
  | some (.fetching fetch purpose), answer => c.resumeFetch id fetch purpose answer
  | some (.checking entry), .stat result => c.afterStat id entry result
  -- a scan without pending directories has become a job that joins its parts
  | some (.scanning root (dir :: pending) found), .listing result =>
    c.afterListing id root dir pending found result
  | _, _ => c

/-- Whether a job waits for an answer of that form. -/
def expects (c : Catalog) (id : JobId) (answer : Answer) : Bool :=
  match c.stage? id, answer with
  | some (.resolving ..), .resolved _ => true
  | some (.fetching fetch _), answer => fetch.expects answer
  | some (.checking _), .stat _ => true
  | some (.scanning _ (_ :: _) _), .listing _ => true
  | _, _ => false

/-- What a job waits for from the host. -/
def request? (c : Catalog) (id : JobId) : Option Request :=
  match c.stage? id with
  | some (.resolving _ path) => some (.resolve path)
  | some (.fetching fetch _) => fetch.request? (c.pathOf fetch.entry)
  | some (.checking entry) => some (.stat (c.pathOf entry))
  | some (.scanning _ (dir :: _) _) => some (.list dir)
  | _ => none

/-- Goes on with a job that waits for a construction which is finished by now. -/
def wake? (c : Catalog) (id : JobId) : Option Catalog :=
  match c.stage? id with
  | some (.awaiting slot path byPath) =>
    ((c.slots[slot]?).bind (·.entry)).map fun entry => c.share id slot entry path byPath
  | _ => none

/-! ## Listeners -/

/-- Whether a listener can receive its next event. -/
def isFree (c : Catalog) (l : Listener) : Bool :=
  !l.closed && l.busy.all fun id => (c.jobs[id]?).all Job.isDone

/-- Changes a listener. -/
def setListener (c : Catalog) (i : Nat) (l : Listener) : Catalog :=
  { c with listeners := c.listeners.set i l }

/-- What a listener does on an event: it attaches linked stylesheets, and removes the slot of a
disposed entry. A listener of a catalogue that is no longer in use ends. -/
def hear (c : Catalog) (i : Nat) (l : Listener) (seen : Nat) : EntryEvent → Catalog
  | .fetchComplete dependencies =>
    if c.isAlive then
      -- until the links are attached the listener receives nothing more
      let (c, id) := c.addJob { stage := .starting }
      (c.setListener i { l with seen := seen, busy := some id }).startAttach id dependencies
    else c.setListener i { l with seen := seen, closed := true }
  | .disposed =>
    -- the listener ends before it touches the registry, and takes its own slot alone
    let c := c.setListener i { l with seen := seen, closed := true }
    if c.isAlive then c.unregister l.slot else c

/-- Lets a listener receive its next event. -/
def listen? (c : Catalog) (i : Nat) : Option Catalog := do
  let l ← c.listeners[i]?
  let e ← c.entries[l.entry]?
  let (event, seen) ← e.receive? l.seen
  if c.isFree l then some (c.hear i l seen event) else none

/-! ## Periodic checks -/

/-- How late a check may be, in milliseconds, before the next one is put off. -/
def lateness : Nat := 5

/-- When the check after one that was due at `deadline` is due. -/
def nextDeadline (c : Catalog) (deadline : Nat) : Nat :=
  -- a timer that is late starts its period anew instead of catching up
  (if deadline + lateness < c.uptime then c.uptime else deadline) + c.config.checkIntervalMs

/-- Starts checking periodically. A period of no length ends the checker at once. -/
def startChecker (c : Catalog) : Catalog :=
  let checker :=
    if c.config.checkIntervalMs == 0 then .finished
    else .waiting (c.uptime + c.config.checkIntervalMs)
  { c with checkers := c.checkers ++ [checker] }

/-- Changes a checker. -/
def setChecker (c : Catalog) (i : Nat) (checker : Checker) : Catalog :=
  { c with checkers := c.checkers.set i checker }

/-- Gives up a job with all its parts: nothing follows from them any more. -/
def abandon (c : Catalog) (id : JobId) : Catalog :=
  { c with jobs := c.jobs.mapIdx fun i t =>
      -- an abandoned job counts as done without a result
      if i == id || t.parent == some id then { t with stage := .done .unit } else t }

/-- Stops a checker and gives up the check that it is busy with. -/
def stopChecker (c : Catalog) (i : Nat) : Catalog :=
  let stopped := c.setChecker i .finished
  match c.checkers[i]? with
  | some (.busy _ id) => stopped.abandon id
  | _ => stopped

/-- Lets a checker go on: it starts a check that is due, ends when the catalogue is no longer in
use, and waits again after a check. -/
def tick? (c : Catalog) (i : Nat) : Option Catalog :=
  match c.checkers[i]? with
  | some (.waiting deadline) =>
    if c.uptime < deadline then none
    -- a tick that is due finds out whether anybody still uses the catalogue
    else if c.isAlive then
      let next := c.nextDeadline deadline
      let (c, id) := c.addJob { stage := .starting }
      some ((c.setChecker i (.busy next id)).startChecks id)
    else some (c.setChecker i .finished)
  | some (.busy deadline id) =>
    if (c.jobs[id]?).all Job.isDone then some (c.setChecker i (.waiting deadline)) else none
  | _ => none

end SelectorCatalog.Catalog
