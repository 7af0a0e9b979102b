import SelectorCatalog.Proofs.Catalog.Sound

/-!
# Who asks for what

An `Ask` is the moment at which a job asks for the entry of a path: only then can it claim a slot.
`asks` lists the asks of one event in their order, together with the state that each of them meets,
and `asksAlong` those of a whole list of events.

`step?_through` shows that the list is complete: between the asks of an event, only such moves are
made as claim nothing. So slots are claimed by asks alone, each by one of them
(`Through.exists_fresh`).
-/

namespace SelectorCatalog.Catalog

open Job (Outcome Purpose Plan Stage Leads Act)

/-- A job that asks for the entry of a path, in the state that it meets. -/
structure Ask where
  state : Catalog
  job : JobId
  kind : EntryKind
  path : Path
  byPath : Bool

namespace Ask

/-- What becomes of the claim. -/
def claim (a : Ask) : Claim :=
  (a.state.claim a.kind a.path).2

/-- The state after the ask. -/
def next (a : Ask) : Catalog :=
  a.state.createAt a.job a.kind a.path a.byPath

/-- Whether the job claims a slot, or finds it claimed for what it asks for. -/
def Gets (a : Ask) (slot : SlotId) : Prop :=
  a.claim = .fresh slot ∨ ∃ s, a.claim = .shared slot s

end Ask

/-! ## The asks of an event -/

/-- What a part asks for when it is started. -/
def partAsks (c : Catalog) (id : JobId) : List Part → List Ask
  | [] => []
  | .create path false :: parts =>
    ⟨c, id, .css, path, false⟩ :: (c.startPart id (.create path false)).partAsks (id + 1) parts
  | part :: parts => (c.startPart id part).partAsks (id + 1) parts

/-- What the parts of a job ask for. -/
def startPartsAsks (c : Catalog) (id : JobId) (parts : List Part) (plan : Plan) : List Ask :=
  (c.enlisted id parts plan).partAsks c.jobs.length parts

/-- What a scan asks for once no directory is left. -/
def scanAsks (c : Catalog) (id : JobId) (root : Path) (found : List Path) : List Path → List Ask
  | [] =>
    c.startPartsAsks id (found.map fun path => .create path false) (.project root found.length)
  | _ => []

/-- What a scan asks for after a directory was listed. -/
def listingAsks (c : Catalog) (id : JobId) (root dir : Path) (pending found : List Path) :
    Except Error (List DirEntry) → List Ask
  | .error error => (c.notify [.listFailed dir error]).scanAsks id root found pending
  | .ok members =>
    c.scanAsks id root (found ++ stylesheetsIn c.config members)
      ((subdirectories c.config members).reverse ++ pending)

/-- What a change of a directory asks for. -/
def changeAsks (c : Catalog) (id : JobId) (change : Change) : List Ask :=
  if !change.isDirectory then []
  else
    let added := stylesheetsAmong c.config change.added
    (c.notify (added.map .stylesheetAdded)).startPartsAsks id
      (added.map fun path => .create path false)
      (.remove (stylesheetsAmong c.config change.removed))

/-- The asks of an event, in their order. -/
def asks (c : Catalog) : Event → List Ask
  | .call (.create kind path false) =>
    [⟨(c.addJob { stage := .starting }).1, c.jobs.length, kind, path, false⟩]
  | .call (.change change) => (c.addJob { stage := .starting }).1.changeAsks c.jobs.length change
  | .answer job answer =>
    match c.stage? job, answer with
    | some (.resolving kind _), .resolved (.ok file) => [⟨c, job, kind, file, true⟩]
    | some (.scanning root (dir :: pending) found), .listing result =>
      c.listingAsks job root dir pending found result
    | _, _ => []
  | _ => []

/-- The asks of a list of events, as far as they are possible. -/
def asksAlong (c : Catalog) : List Event → List Ask
  | [] => []
  | event :: events =>
    c.asks event ++
      match c.step? event with
      | some d => d.asksAlong events
      | none => []

/-! ## Nothing is asked for in between -/

/-- No claims. -/
def unclaiming (_ : JobId) (a : Act) : Prop :=
  ∀ kind, a ≠ .claim kind

/-- The way from one state to another through a number of asks, without a claim in between. -/
inductive Through : Catalog → List Ask → Catalog → Prop where
  | last {c d : Catalog} : Moves unclaiming c d → Through c [] d
  | ask {c d : Catalog} {a : Ask} {as : List Ask} {s : Stage} : Moves unclaiming c a.state →
      a.state.stage? a.job = some s → s.isOpen = true → Through a.next as d → Through c (a :: as) d

variable {c d e : Catalog} {as bs : List Ask}

theorem Through.after (h : Moves unclaiming c d) (through : Through d as e) : Through c as e := by
  cases through with
  | last moves => exact .last (h.trans moves)
  | ask moves hs isOpen rest => exact .ask (h.trans moves) hs isOpen rest

/-- Asks after one another are asks in a row. -/
theorem Through.append (h : Through c as d) (through : Through d bs e) :
    Through c (as ++ bs) e := by
  induction h with
  | last moves => exact through.after moves
  | ask moves hs isOpen _ ih => exact .ask moves hs isOpen (ih through)

theorem Through.before (h : Through c as d) (moves : Moves unclaiming d e) : Through c as e := by
  have := h.append (.last moves)
  rwa [List.append_nil] at this

/-- A job that goes on claims nothing. -/
theorem unclaiming_proceed (id : JobId) : unclaiming id .proceed := by
  simp [unclaiming]

/-- One ask, and nothing else. -/
theorem Through.single {a : Ask} {s : Stage} (hs : a.state.stage? a.job = some s)
    (isOpen : s.isOpen = true) : Through a.state [a] a.next :=
  .ask (.refl _) hs isOpen (.last (.refl _))

/-- Parts that have yet to start ask for their paths in their order. -/
theorem through_startPartsFrom (parts : List Part) (c : Catalog) (first : Nat)
    (starting : ∀ i < parts.length, c.stage? (first + i) = some .starting) :
    Through c (c.partAsks first parts) (c.startPartsFrom first parts) := by
  induction parts generalizing c first with
  | nil => exact .last (.refl c)
  | cons part rest ih =>
      have hs := starting 0 (by simp)
      have turn : Moves (fun j a => j = first ∧ (a = .proceed ∨ a = part.act)) c
          (c.startPart first part) :=
        moves_startPart ⟨rfl, .inl rfl⟩ ⟨rfl, .inr rfl⟩ hs
      have rest := ih (c.startPart first part) (first + 1) (starting_startPart starting part)
      have quiet (ne : ∀ kind, part.act ≠ .claim kind) :
          Moves unclaiming c (c.startPart first part) :=
        turn.mono (by rintro j a ⟨rfl, rfl | rfl⟩ <;> simp_all [unclaiming])
      rcases part with ⟨path, _ | _⟩ | entry
      · exact .ask (a := ⟨c, first, .css, path, false⟩) (.refl c) hs rfl rest
      · exact rest.after (quiet (by simp [Part.act, askAct]))
      · exact rest.after (quiet (by simp [Part.act]))

/-- A job that starts its parts asks for what they ask for. -/
theorem through_startParts {id : JobId} {s : Stage} (hs : c.stage? id = some s)
    (isOpen : s.isOpen = true) (parts : List Part) (plan : Plan) :
    Through c (c.startPartsAsks id parts plan) (c.startParts id parts plan) := by
  rw [startParts_eq]
  exact ((through_startPartsFrom parts _ _ fun _ hi => stage?_enlisted hs hi).after
    (moves_enlisted (unclaiming_proceed _) hs isOpen)).before (moves_joinParts _ _)

/-- A scan asks for nothing until it has listed everything. -/
theorem through_scan {id : JobId} {s : Stage} (hs : c.stage? id = some s) (isOpen : s.isOpen = true)
    (root : Path) (found pending : List Path) :
    Through c (c.scanAsks id root found pending) (c.scan id root found pending) := by
  cases pending with
  | nil => exact through_startParts hs isOpen _ _
  | cons dir pending =>
      exact .last (moves_setStage (by simp [unclaiming, Stage.act]) hs (.ofOpen isOpen rfl))

theorem through_afterListing {id : JobId} {s : Stage} (hs : c.stage? id = some s)
    (isOpen : s.isOpen = true) (root dir : Path) (pending found : List Path)
    (result : Except Error (List DirEntry)) :
    Through c (c.listingAsks id root dir pending found result)
    (c.afterListing id root dir pending found result) := by
  cases result with
  | error error =>
      exact (through_scan (c := c.notify _) hs isOpen root found pending).after (moves_notify c _)
  | ok members => exact through_scan hs isOpen root _ _

/-- A change of a directory asks for the stylesheets that were added. -/
theorem through_startChange {id : JobId} {s : Stage} (hs : c.stage? id = some s)
    (isOpen : s.isOpen = true) (change : Change) :
    Through c (c.changeAsks id change) (c.startChange id change) := by
  rw [changeAsks, startChange]
  split
  · exact .last (moves_complete_of_leads (unclaiming_proceed _) hs (.ofOpen isOpen rfl))
  · exact (through_startParts (c := c.notify _) hs isOpen _ _).after (moves_notify c _)

/-- Calls that do not claim at once. -/
theorem through_start {call : Call} (no : ∀ kind, .claim kind ∉ call.acts) :
    Through c [] (c.start call).1 := by
  refine .last ((moves_start c call).mono ?_)
  rintro j a ⟨-, rfl | mem⟩
  · exact unclaiming_proceed j
  · rintro kind rfl
    exact no kind mem

/-- An answer is taken in. -/
theorem through_resume (id : JobId) (answer : Answer) :
    Through c (c.asks (.answer id answer)) (c.resume id answer) := by
  -- an answer to another request changes nothing
  have nothing : Through c [] c := .last (.refl c)
  cases hs : c.stage? id with
  | none => simpa only [asks, resume, hs] using nothing
  | some s =>
      cases s with
      | resolving kind path =>
          cases answer with
          | resolved result =>
              simp only [asks, resume, hs]
              cases result with
              | ok file => exact .single (a := ⟨c, id, kind, file, true⟩) hs rfl
              | error error =>
                  exact .last (moves_notify_complete (unclaiming_proceed _) hs (.ofOpen rfl rfl) _)
          | _ => simpa only [asks, resume, hs] using nothing
      | fetching f purpose =>
          simp only [asks, resume, hs]
          exact .last (moves_resumeFetch (unclaiming_proceed _) hs answer)
      | checking entry =>
          cases answer with
          | stat result =>
              simp only [asks, resume, hs]
              exact .last (moves_afterStat (unclaiming_proceed _) hs rfl entry result)
          | _ => simpa only [asks, resume, hs] using nothing
      | scanning root pending found =>
          cases pending with
          | nil => cases answer <;> simpa only [asks, resume, hs] using nothing
          | cons dir pending =>
              cases answer with
              | listing result =>
                  simp only [asks, resume, hs]
                  exact through_afterListing hs rfl root dir pending found result
              | _ => simpa only [asks, resume, hs] using nothing
      | _ => simpa only [asks, resume, hs] using nothing

/-- The asks of an event are all that is asked for in it. -/
theorem step?_through {event : Event} (h : c.step? event = some d)
    (go : ∀ i, event ≠ .stopChecker i) : Through c (c.asks event) d := by
  -- an event that lets nobody claim a slot asks for nothing
  have plain : (∀ j kind, ¬event.leave c j (.claim kind)) → Through c [] d := by
    intro no
    refine .last ((step?_moves h go).mono fun j a leave => ?_)
    rintro kind rfl
    exact no j kind leave
  cases event with
  | call call =>
      cases h
      cases call with
      | create kind path byPath =>
          cases byPath with
          | true => exact through_start (by simp [Call.acts, askAct])
          | false =>
              let ask : Ask :=
                ⟨(c.addJob { stage := .starting }).1, c.jobs.length, kind, path, false⟩
              have asked : Through ask.state [ask] ask.next := .single (stage?_addJob c true) rfl
              exact Through.after (moves_addJob c true) asked
      | change change =>
          exact Through.after (moves_addJob c true)
            (through_startChange (stage?_addJob c true) rfl change)
      | _ => exact through_start (by simp [Call.acts])
  | answer id answer =>
      simp only [step?] at h
      split at h
      · cases h
        exact through_resume id answer
      · cases h
  | _ => exact plain (by simp [Event.leave])

/-- The asks of two runs after one another follow each other. -/
theorem asksAlong_append {events later : List Event} (run : Run c events d) :
    c.asksAlong (events ++ later) = c.asksAlong events ++ d.asksAlong later := by
  induction run with
  | nil => rfl
  | cons step _ ih => simp only [List.cons_append, asksAlong, step, ih, List.append_assoc]

/-! ## Slots are claimed by asks -/

/-- A claim of a free path comes to the next slot. -/
theorem claim_of_none {path : Path} (free : c.find? path = none) (kind : EntryKind) :
    (c.claim kind path).2 = .fresh c.slots.length := by
  rw [claim, free]

/-- A slot is claimed where the path is free, and gets the next number. -/
theorem Ask.claim_fresh_iff {a : Ask} {i : SlotId} :
    a.claim = .fresh i ↔ a.state.find? a.path = none ∧ a.state.slots.length = i := by
  rw [Ask.claim]
  cases found : a.state.find? a.path with
  | none => simp [claim_of_none found]
  | some x =>
      obtain ⟨slot, x⟩ := x
      rw [claim_of_some found]
      dsimp only
      split <;> simp

/-- A slot is shared where it is registered for the path, and is of the kind that is asked for. -/
theorem Ask.claim_shared_iff {a : Ask} {i : SlotId} {x : Slot} :
    a.claim = .shared i x ↔ a.state.find? a.path = some (i, x) ∧ x.kind = a.kind := by
  rw [Ask.claim]
  cases found : a.state.find? a.path with
  | none => simp [claim_of_none found]
  | some y =>
      obtain ⟨slot, y⟩ := y
      rw [claim_of_some found]
      dsimp only
      split
      · next same =>
          have same : y.kind = a.kind := beq_iff_eq.mp same
          constructor
          · rintro ⟨⟩
            exact ⟨rfl, same⟩
          · rintro ⟨⟨⟩, -⟩
            rfl
      · next other =>
          constructor
          · rintro ⟨⟩
          · rintro ⟨⟨⟩, same⟩
            exact absurd (beq_iff_eq.mpr same) other

theorem Move.slots_length_le {may : JobId → Act → Prop} (h : Move may c d) :
    c.slots.length ≤ d.slots.length := by
  cases h with
  | ambient _ _ slots => exact Nat.le_of_eq (congrArg List.length slots).symm
  | claim =>
      rw [opened, List.length_append]
      exact Nat.le_add_right _ _
  | conclude =>
      rw [concluded_slots]
      exact Nat.le_of_eq (List.length_modify ..).symm
  | enlist | stage | join | entries | standalone | evict | hear | leave | retire =>
      exact Nat.le_refl _

/-- Slots are never taken away. -/
theorem Moves.slots_length_le {may : JobId → Act → Prop} (h : Moves may c d) :
    c.slots.length ≤ d.slots.length :=
  h.keep (p := fun d => c.slots.length ≤ d.slots.length)
    (fun _ _ le move => Nat.le_trans le move.slots_length_le)
    (Nat.le_refl _)

theorem Move.slots_length_eq (h : Move unclaiming c d) : d.slots.length = c.slots.length := by
  cases h with
  | ambient _ _ slots => exact congrArg List.length slots
  | claim kind leave => exact absurd rfl (leave kind)
  | conclude =>
      rw [concluded_slots]
      exact List.length_modify ..
  | enlist | stage | join | entries | standalone | evict | hear | leave | retire => rfl

/-- Without claims there are as many slots as before. -/
theorem Moves.slots_length_eq (h : Moves unclaiming c d) : d.slots.length = c.slots.length :=
  h.keep (p := fun d => d.slots.length = c.slots.length)
    (fun _ _ eq move => move.slots_length_eq.trans eq) rfl

/-- An ask is made of moves. -/
theorem Ask.moves {a : Ask} {s : Stage} (hs : a.state.stage? a.job = some s)
    (isOpen : s.isOpen = true) : Moves (fun _ _ => True) a.state a.next :=
  moves_createAt trivial (fun _ => trivial) hs isOpen a.byPath

theorem Through.moves (h : Through c as d) : Moves (fun _ _ => True) c d := by
  induction h with
  | last moves => exact moves.mono fun _ _ _ => trivial
  | ask moves hs isOpen _ ih =>
      exact ((moves.mono fun _ _ _ => trivial).trans (Ask.moves hs isOpen)).trans ih

/-- The way to one of the asks, and the way from there. -/
theorem Through.split {a : Ask} (h : Through c (as ++ a :: bs) d) :
    Through c as a.state ∧ (∃ s, a.state.stage? a.job = some s ∧ s.isOpen = true) ∧
      Through a.next bs d := by
  induction as generalizing c with
  | nil =>
      cases h with
      | ask moves hs isOpen rest => exact ⟨.last moves, ⟨_, hs, isOpen⟩, rest⟩
  | cons b as ih =>
      cases h with
      | ask moves hs isOpen rest =>
          obtain ⟨before, open_, after⟩ := ih rest
          exact ⟨.ask moves hs isOpen before, open_, after⟩

/-- An ask that claims a slot makes it. -/
theorem Through.fresh_bounds (h : Through c as d) {a : Ask} (mem : a ∈ as) {i : SlotId}
    (fresh : a.claim = .fresh i) : c.slots.length ≤ i ∧ i < d.slots.length := by
  obtain ⟨xs, ys, rfl⟩ := List.append_of_mem mem
  obtain ⟨before, -, after⟩ := h.split
  obtain ⟨free, rfl⟩ := Ask.claim_fresh_iff.mp fresh
  refine ⟨before.moves.slots_length_le, Nat.lt_of_lt_of_le ?_ after.moves.slots_length_le⟩
  rw [Ask.next, createAt_of_none free, opened, List.length_append]
  exact Nat.lt_succ_self _

/-- Every new slot is claimed by one of the asks, and by no other. -/
theorem Through.exists_fresh (h : Through c as d) {i : SlotId} (ge : c.slots.length ≤ i)
    (lt : i < d.slots.length) :
    ∃ xs a ys, as = xs ++ a :: ys ∧ a.claim = .fresh i ∧ ∀ b ∈ xs ++ ys, b.claim ≠ .fresh i := by
  induction h with
  | last moves => exact absurd lt (by rw [moves.slots_length_eq]; exact Nat.not_lt_of_le ge)
  | @ask c d a as s moves hs isOpen rest ih =>
      have same := moves.slots_length_eq
      cases found : a.state.find? a.path with
      -- the path is free, so this ask takes the next slot
      | none =>
          have length : a.next.slots.length = c.slots.length + 1 := by
            rw [Ask.next, createAt_of_none found, opened, List.length_append, same]
            rfl
          rcases Nat.lt_or_eq_of_le ge with gt | eq
          · -- this ask claims a slot before, and a later one the slot in question
            obtain ⟨xs, b, ys, rfl, fresh, others⟩ := ih (by rw [length]; exact gt) lt
            refine ⟨a :: xs, b, ys, rfl, fresh, fun x mem => ?_⟩
            rcases List.mem_cons.mp mem with rfl | mem
            · intro fresh'
              exact Nat.ne_of_lt gt (same.symm.trans (Ask.claim_fresh_iff.mp fresh').2)
            · exact others x mem
          · -- all later asks claim slots beyond the one that this ask claims
            refine ⟨[], a, as, rfl, Ask.claim_fresh_iff.mpr ⟨found, same.trans eq⟩, ?_⟩
            intro b mem fresh
            have := (rest.fresh_bounds mem fresh).1
            rw [length, eq] at this
            exact Nat.lt_irrefl _ this
      | some x =>
          -- the path is taken, so the slot in question is claimed later
          have quiet : Moves unclaiming a.state a.next :=
            moves_createAt (unclaiming_proceed _) (fun free => by cases free.symm.trans found)
              hs isOpen a.byPath
          have length : a.next.slots.length = c.slots.length := quiet.slots_length_eq.trans same
          obtain ⟨xs, b, ys, rfl, fresh, others⟩ := ih (by rw [length]; exact ge) lt
          refine ⟨a :: xs, b, ys, rfl, fresh, fun y mem => ?_⟩
          rcases List.mem_cons.mp mem with rfl | mem
          · intro fresh'
            cases (Ask.claim_fresh_iff.mp fresh').1.symm.trans found
          · exact others y mem

end SelectorCatalog.Catalog
