import SelectorCatalog.Proofs.Catalog.Move

/-!
# Steps are made of moves

Each function that takes a catalogue on is followed through its branches once, and seen to make
moves only. What a job has to have for that is said by its stage before and by the stages that it
may go to.

What a listener and a checker do when they go on is said once (`listen?_some`, `Ticks`). The theorem
`step?_moves` gathers all events but the stop of a checker: `Event.leave` says who goes on in each.
-/

namespace SelectorCatalog.Catalog

open Job (Outcome Purpose Plan Stage Leads Act)

variable {may : JobId → Act → Prop} {c d : Catalog} {id : JobId} {s t : Stage}

/-! ## The end of a job -/

/-- A removal touches the registry and what it holds, and nothing else. -/
theorem remove_spec (c : Catalog) (path : Path) :
    ∃ rs es, (c.remove path).1 = { c with registered := rs, entries := es } ∧
      Entry.Disposals c.entries es := by
  rw [remove]
  cases c.find? path with
  | none => exact ⟨c.registered, c.entries, rfl, .refl _⟩
  | some found =>
      obtain ⟨es, he, hd, -⟩ := disposeSlot_spec (c.unregister found.1) found.1
      exact ⟨_, es, he, hd⟩

/-- Removals are moves. -/
theorem moves_removeGone (c : Catalog) (paths : List Path) : Moves may c (c.removeGone paths) := by
  induction paths generalizing c with
  | nil => exact .refl c
  | cons path rest ih =>
      simp only [removeGone, List.foldl_cons] at ih ⊢
      have first : Moves may c (c.remove path).1 := moves_remove c path
      split
      · next d h =>
          rw [h] at first
          exact (first.trans (moves_notify d _)).trans (ih _)
      · next d h =>
          rw [h] at first
          exact first.trans (ih d)

/-- So does the removal of stylesheets that are gone, which is reported. -/
theorem removeGone_spec (c : Catalog) (paths : List Path) :
    ∃ rs es ns, c.removeGone paths = { c with registered := rs, entries := es, notices := ns } ∧
      Entry.Disposals c.entries es := by
  induction paths generalizing c with
  | nil => exact ⟨c.registered, c.entries, c.notices, rfl, .refl _⟩
  | cons path rest ih =>
      obtain ⟨rs, es, eq, hd⟩ := remove_spec c path
      simp only [removeGone, List.foldl_cons] at ih ⊢
      split
      · next d h =>
          rw [h] at eq
          obtain rfl : d = _ := eq
          obtain ⟨rs', es', ns', eq', hd'⟩ :=
            ih ({ c with registered := rs, entries := es }.notify [.stylesheetGone path])
          exact ⟨rs', es', ns', eq', hd.trans hd'⟩
      · next d h =>
          rw [h] at eq
          obtain rfl : d = _ := eq
          obtain ⟨rs', es', ns', eq', hd'⟩ := ih { c with registered := rs, entries := es }
          exact ⟨rs', es', ns', eq', hd.trans hd'⟩

/-- It is made of moves. -/
theorem moves_follow (c : Catalog) (outcomes : List Outcome) (plan : Plan) :
    Moves may c (c.follow outcomes plan).1 := by
  cases plan with
  | attach => exact .refl c
  | remove paths => exact moves_removeGone c paths
  | project => exact moves_notify c _
  | checks => exact moves_notify c _

/-- What a plan does with the outcomes of the parts: slots leave the registry, entries are disposed
of, and notices are given. -/
theorem follow_spec (c : Catalog) (outcomes : List Outcome) (plan : Plan) :
    ∃ rs es ns,
      (c.follow outcomes plan).1 = { c with registered := rs, entries := es, notices := ns } ∧
        Entry.Disposals c.entries es := by
  cases plan with
  | remove paths => exact removeGone_spec c paths
  | attach | project | checks => exact ⟨c.registered, c.entries, _, rfl, .refl _⟩

/-- A job whose parts are done ends, and may remove stylesheets. -/
theorem joinParts_spec (c : Catalog) (id : JobId) :
    c.joinParts id = c ∨ ∃ parts plan outcome rs es ns, c.stage? id = some (.joining parts plan) ∧
      Entry.Disposals c.entries es ∧
      c.joinParts id =
        { c with registered := rs, entries := es, notices := ns }.setStage id (.done outcome) := by
  rw [joinParts]
  split
  · next parts plan joining =>
      split
      · next outcomes _ =>
          obtain ⟨rs, es, ns, eq, hd⟩ := follow_spec c outcomes plan
          refine .inr ⟨parts, plan, (c.follow outcomes plan).2, rs, es, ns, joining, hd, ?_⟩
          rw [← eq]
      · exact .inl rfl
  · exact .inl rfl

/-- As long as one part is under way, the parts have not all come to something. -/
theorem mapM_outcome?_of_goes {part : JobId} {parts : List JobId} (mem : part ∈ parts)
    (goes : c.outcome? part = none) :
    parts.mapM c.outcome? = none := by
  induction parts with
  | nil => cases mem
  | cons first rest ih =>
      rw [List.mapM_cons]
      rcases List.mem_cons.mp mem with rfl | mem
      · rw [goes]
        rfl
      · cases c.outcome? first with
        | none => rfl
        | some outcome =>
            rw [ih mem]
            rfl

/-- A job that joins its parts moves. -/
theorem moves_joinParts (c : Catalog) (id : JobId) : Moves may c (c.joinParts id) := by
  rw [joinParts]
  split
  · next parts plan joining =>
      split
      · next outcomes all =>
          have moves : Moves may c (c.follow outcomes plan).1 := moves_follow c outcomes plan
          obtain ⟨rs, es, ns, eq, -⟩ := follow_spec c outcomes plan
          have same : (c.follow outcomes plan).1.jobs = c.jobs := by rw [eq]
          have ended : ∀ part ∈ parts, ((c.follow outcomes plan).1.outcome? part).isSome := by
            intro part mem
            rw [outcome?, same]
            refine Option.isSome_iff_ne_none.mpr fun goes => ?_
            cases all.symm.trans (mapM_outcome?_of_goes mem goes)
          exact moves.trans (Move.join _ (by rw [stage?_congr same, joining]) ended).moves
      · exact .refl c
  · exact .refl c

/-- The end of a job may be the end of the job that it is a part of. -/
theorem moves_complete {outcome : Outcome} (h : Moves may c (d.setStage id (.done outcome))) :
    Moves may c (d.complete id outcome) := by
  rw [complete]
  split
  · exact h.trans (moves_joinParts _ _)
  · exact h

theorem moves_setStage (leave : may id t.act) (hs : c.stage? id = some s)
    (leads : Leads c.slots s t) : Moves may c (c.setStage id t) :=
  (Move.stage leave hs leads).moves

/-- The end of a job that has reported something. -/
theorem moves_notify_complete {outcome : Outcome} (leave : may id .proceed)
    (hs : c.stage? id = some s) (leads : Leads c.slots s (.done outcome)) (ns : List Notice) :
    Moves may c ((c.notify ns).complete id outcome) :=
  moves_complete ((moves_notify c ns).trans (moves_setStage leave hs leads))

theorem moves_complete_of_leads {outcome : Outcome} (leave : may id .proceed)
    (hs : c.stage? id = some s) (leads : Leads c.slots s (.done outcome)) :
    Moves may c (c.complete id outcome) :=
  moves_complete (moves_setStage leave hs leads)

/-! ## Fetching -/

/-- What follows a fetch that is not for a construction. -/
theorem moves_afterFetch {entry : EntryId} (leave : may id .proceed) (hs : c.stage? id = some s)
    {purpose : Purpose} (no : purpose.isConstruct = false) {result : Except Error Unit}
    (leads : Leads c.slots s (.done (purpose.outcome entry result))) :
    Moves may c (c.afterFetch id entry result purpose) := by
  cases purpose with
  | construct => cases no
  | refresh path => exact moves_notify_complete leave hs leads _
  | saved path => exact moves_notify_complete leave hs leads _
  | update =>
      cases result with
      | ok => exact moves_notify_complete leave hs leads _
      | error => exact moves_complete_of_leads leave hs leads
  | opened =>
      cases result with
      | ok => exact moves_complete_of_leads leave hs leads
      | error => exact moves_notify_complete leave hs leads _
  | direct => exact moves_complete_of_leads leave hs leads

/-- What follows the fetch of a construction. -/
theorem moves_afterConstruction {f : Fetch} {slot : SlotId} (leave : may id .proceed)
    (hs : c.stage? id = some (.fetching f (.construct slot))) :
    Moves may c (c.afterConstruction id slot f.entry) := by
  have move := (Move.conclude leave hs).moves
  show Moves may c
    (if c.isRegistered slot then (c.fill slot f.entry).complete id (.entry (some f.entry))
    else ((c.fill slot f.entry).disposeEntry f.entry).complete id (.entry none))
  rw [concluded] at move
  split
  · next registered =>
      rw [if_pos registered] at move
      exact moves_complete move
  · next removed =>
      rw [if_neg removed] at move
      exact moves_complete move

/-- A live entry is fetched. -/
theorem startFetch_of_live {entry : EntryId} {e : Entry} (he : c.entries[entry]? = some e)
    (live : e.isDisposed = false) (id : JobId) (purpose : Purpose) :
    c.startFetch id entry purpose = (c.setEntry entry e.beginFetch).setStage id
      (.fetching ⟨entry, e.beginFetch.fetches, c.clock, .stat⟩ purpose) := by
  simp [startFetch, he, Fetch.start, live]

/-- An entry that is disposed of is not, and its job goes on at once. -/
theorem startFetch_of_disposed {entry : EntryId} {e : Entry} (he : c.entries[entry]? = some e)
    (gone : e.isDisposed = true) (id : JobId) (purpose : Purpose) :
    c.startFetch id entry purpose = c.afterFetch id entry (.error .disposed) purpose := by
  simp [startFetch, he, Fetch.start, gone]

/-- A fetch is started, unless the entry is disposed of. -/
theorem moves_startFetch {entry : EntryId} (leave : may id .proceed) (hs : c.stage? id = some s)
    {purpose : Purpose} (no : purpose.isConstruct = false)
    (fetch : ∀ f : Fetch, f.entry = entry → Leads c.slots s (.fetching f purpose))
    (finish : ∀ result, Leads c.slots s (.done (purpose.outcome entry result))) :
    Moves may c (c.startFetch id entry purpose) := by
  cases he : c.entries[entry]? with
  | none =>
      rw [startFetch, he]
      exact .refl c
  | some e =>
      cases live : e.isDisposed with
      | true =>
          rw [startFetch_of_disposed he live]
          exact moves_afterFetch leave hs no (finish _)
      | false =>
          rw [startFetch_of_live he live]
          have turn : Moves may c (c.setEntry entry e.beginFetch) :=
            (Move.entries c (.set he (.fetch live))).moves
          exact turn.trans (moves_setStage leave hs (fetch _ rfl))

/-- An answer to a fetch leaves the entry as it is or lets it take over what was found. -/
theorem turn_resume (f : Fetch) (e : Entry) (limit : Nat) (root : Option Path) (a : Answer) :
    e.Turn (f.resume e limit root a).1 := by
  unfold Fetch.resume
  split
  case h_2 => split <;> exact .same
  case h_6 =>
      split
      · next h => exact .install _ _ (Fetch.isDisposed_indexOf _) h
      · exact .same
  all_goals exact .same

/-- A fetch goes on with an answer or ends. -/
theorem moves_resumeFetch {f : Fetch} {purpose : Purpose} (leave : may id .proceed)
    (hs : c.stage? id = some (.fetching f purpose)) (a : Answer) :
    Moves may c (c.resumeFetch id f purpose a) := by
  rw [resumeFetch]
  split
  · exact .refl c
  · next e he =>
      generalize hr : f.resume e c.config.maxFileBytes (c.rootOf e.scope) a = r
      obtain ⟨e', notices, progress⟩ := r
      have turn : e.Turn e' := by
        have := turn_resume f e c.config.maxFileBytes (c.rootOf e.scope) a
        rwa [hr] at this
      have told : Moves may c ((c.setEntry f.entry e').notify notices) :=
        (Move.entries c (.set he turn)).moves.trans (moves_notify _ _)
      have hs' : ((c.setEntry f.entry e').notify notices).stage? id =
          some (.fetching f purpose) := hs
      cases progress with
      | waiting stage =>
          exact told.trans (moves_setStage leave hs (.advance f purpose stage))
      | finished result =>
          cases purpose with
          | construct slot =>
              exact (told.trans (moves_notify _ _)).trans (moves_afterConstruction leave hs)
          | _ => exact told.trans (moves_afterFetch leave hs' rfl (.finish f _ result rfl))

/-! ## Creating entries -/

/-- A job takes the entry that its slot holds. -/
theorem moves_share {slot : SlotId} {entry : EntryId} {path : Path} (leave : may id .proceed)
    (hs : c.stage? id = some s)
    (refresh : ∀ f : Fetch, f.entry = entry → Leads c.slots s (.fetching f (.refresh path)))
    (finish : Leads c.slots s (.done (.entry (some entry))))
    (miss : Leads c.slots s (.done (.entry none))) (byPath : Bool) :
    Moves may c (c.share id slot entry path byPath) := by
  rw [share]
  split
  · exact moves_complete_of_leads leave hs miss
  · split
    · exact moves_startFetch leave hs rfl refresh fun _ => finish
    · exact moves_complete_of_leads leave hs finish

/-- A job that finds its path free claims it, and the first fetch of the new entry is under way at
once. -/
theorem createAt_of_none {path : Path} (free : c.find? path = none) (id : JobId) (kind : EntryKind)
    (byPath : Bool) : c.createAt id kind path byPath = c.opened id kind path := by
  have first : ∀ es : List Entry, ∀ e : Entry, (es ++ [e])[es.length]? = some e := by simp
  rw [createAt, claim, free]
  simp only [construct, startFetch, addEntry, first]
  have live : ({ kind := kind, path := path, scope := .registry } : Entry).isDisposed = false := rfl
  have number : ({ kind := kind, path := path, scope := .registry } : Entry).beginFetch.fetches
      = 1 := by cases kind <;> rfl
  simp [Fetch.start, live, number, setEntry, setStage, opened]

/-- A claim of a path that is taken comes to the slot there, or is refused. -/
theorem claim_of_some {path : Path} {slot : SlotId} {x : Slot}
    (found : c.find? path = some (slot, x)) (kind : EntryKind) :
    c.claim kind path = (c, if x.kind == kind then .shared slot x else .refused x.kind) := by
  rw [claim, found]

/-- A job that finds its path taken shares what is there or waits for it, and is refused the other
kind. -/
theorem createAt_of_some {path : Path} {slot : SlotId} {x : Slot}
    (found : c.find? path = some (slot, x)) (id : JobId) (kind : EntryKind) (byPath : Bool) :
    c.createAt id kind path byPath =
      if x.kind == kind then
        match x.entry with
        | some entry => c.share id slot entry path byPath
        | none => c.setStage id (.awaiting slot path byPath)
      else (c.notify [.otherKind kind (.kindMismatch path x.kind)]).complete id (.entry none) := by
  rw [createAt, claim_of_some found]
  obtain ⟨key, kind', entry⟩ := x
  by_cases same : kind' == kind
  · simp only [same, if_true]
    cases entry <;> rfl
  · simp only [same, Bool.false_eq_true, if_false]

theorem moves_createAt {kind : EntryKind} {path : Path} (leave : may id .proceed)
    (claims : c.find? path = none → may id (.claim kind)) (hs : c.stage? id = some s)
    (isOpen : s.isOpen = true) (byPath : Bool) : Moves may c (c.createAt id kind path byPath) := by
  cases found : c.find? path with
  | none =>
      rw [createAt_of_none found]
      exact (Move.claim kind (claims found) hs isOpen found).moves
  | some found' =>
      obtain ⟨slot, x⟩ := found'
      have leads : ∀ t : Stage, t.isConstruct = false → Leads c.slots s t := by
        intro t h
        exact .ofOpen isOpen h
      rw [createAt_of_some found]
      split
      · cases x.entry with
        | none => exact moves_setStage leave hs (leads _ rfl)
        | some entry =>
            exact moves_share leave hs (fun _ _ => leads _ rfl) (leads _ rfl) (leads _ rfl) byPath
      · exact moves_notify_complete leave hs (leads _ rfl) _

/-- What asking for an entry needs: a path is looked up first, a file known already is claimed at
once. -/
def askAct (kind : EntryKind) (byPath : Bool) : Act :=
  if byPath then .ask else .claim kind

theorem moves_startCreate {kind : EntryKind} {byPath : Bool} (leave : may id .proceed)
    (asks : may id (askAct kind byPath)) (hs : c.stage? id = some s) (isOpen : s.isOpen = true)
    (path : Path) : Moves may c (c.startCreate id kind path byPath) := by
  cases byPath with
  | true => exact moves_setStage asks hs (.ofOpen isOpen rfl)
  | false => exact moves_createAt leave (fun _ => asks) hs isOpen false

/-! ## Checks -/

theorem moves_startCheck (leave : may id .proceed) (hs : c.stage? id = some s)
    (isOpen : s.isOpen = true) (entry : EntryId) : Moves may c (c.startCheck id entry) := by
  rw [startCheck]
  split
  · exact moves_complete_of_leads leave hs (.ofOpen isOpen rfl)
  · exact moves_setStage leave hs (.ofOpen isOpen rfl)

theorem moves_afterStat (leave : may id .proceed) (hs : c.stage? id = some s)
    (isOpen : s.isOpen = true) (entry : EntryId) (result : Except Error FileStat) :
    Moves may c (c.afterStat id entry result) := by
  have leads : ∀ t : Stage, t.isConstruct = false → Leads c.slots s t := fun t h => .ofOpen isOpen h
  cases result with
  | error error =>
      simp only [afterStat]
      split
      · refine moves_complete (((moves_notify c _).trans (moves_changeEntry _ entry ?_)).trans
          (moves_setStage leave hs (leads _ rfl)))
        exact fun _ => .dispose
      · exact moves_complete_of_leads leave hs (leads _ rfl)
  | ok stat =>
      simp only [afterStat]
      split
      · exact moves_startFetch leave hs rfl (fun _ _ => leads _ rfl) fun _ => leads _ rfl
      · exact moves_complete_of_leads leave hs (leads _ rfl)

/-! ## Jobs with parts -/

/-- What the start of a part needs. -/
def Part.act : Part → Act
  | .create _ byPath => askAct .css byPath
  | .check _ => .proceed

theorem moves_startPart {part : Part} (leave : may id .proceed) (acts : may id part.act)
    (hs : c.stage? id = some .starting) : Moves may c (c.startPart id part) := by
  cases part with
  | create path byPath => exact moves_startCreate leave acts hs rfl path
  | check entry => exact moves_startCheck leave hs rfl entry

/-- A part that starts leaves the parts after it as they are. -/
theorem starting_startPart {first n : Nat}
    (starting : ∀ i < n + 1, c.stage? (first + i) = some .starting) (part : Part) :
    ∀ i < n, (c.startPart first part).stage? (first + 1 + i) = some .starting := by
  -- with leave for itself alone, a part cannot touch the others
  have turn : Moves (fun j _ => j = first) c (c.startPart first part) :=
    moves_startPart rfl rfl (starting 0 (Nat.zero_lt_succ _))
  intro i lt
  rw [Nat.add_assoc, Nat.add_comm 1 i]
  refine turn.stage?_eq ?_ (starting (i + 1) (Nat.succ_lt_succ lt)) (by simp)
  intro _ own
  exact Nat.ne_of_gt (Nat.lt_add_of_pos_right i.succ_pos) own

/-- Each part is started in its turn: the parts before it do not touch it. -/
theorem moves_startPartsFrom (parts : List Part) (c : Catalog) (first : Nat)
    (leave : ∀ i part, parts[i]? = some part → may (first + i) .proceed ∧ may (first + i) part.act)
    (starting : ∀ i < parts.length, c.stage? (first + i) = some .starting) :
    Moves may c (c.startPartsFrom first parts) := by
  induction parts generalizing c first with
  | nil => exact .refl c
  | cons part rest ih =>
      obtain ⟨proceeds, acts⟩ := leave 0 part rfl
      have turn : Moves may c (c.startPart first part) :=
        moves_startPart proceeds acts (starting 0 (Nat.zero_lt_succ _))
      refine turn.trans (ih _ (first + 1) ?_ (starting_startPart starting part))
      intro i x hx
      have := leave (i + 1) x (by simpa using hx)
      rwa [Nat.add_assoc, Nat.add_comm 1 i]

/-- The state in which the parts of a job are enlisted and the job waits for them. -/
def enlisted (c : Catalog) (id : JobId) (parts : List Part) (plan : Plan) : Catalog :=
  let fresh : Job := { stage := .starting, parent := some id }
  { c with jobs := c.jobs ++ List.replicate parts.length fresh }.setStage id
    (.joining (List.range' c.jobs.length parts.length) plan)

/-- Parts are enlisted, started one after another, and joined. -/
theorem startParts_eq (c : Catalog) (id : JobId) (parts : List Part) (plan : Plan) :
    c.startParts id parts plan =
      ((c.enlisted id parts plan).startPartsFrom c.jobs.length parts).joinParts id := rfl

/-- A job that is in a stage is one of the catalogue. -/
theorem stage?_lt {id : Nat} (h : c.stage? id = some s) : id < c.jobs.length := by
  obtain ⟨t, ht, -⟩ := Option.map_eq_some_iff.mp h
  exact (List.getElem?_eq_some_iff.mp ht).1

theorem moves_enlisted {parts : List Part} {plan : Plan} (leave : may id .proceed)
    (hs : c.stage? id = some s) (isOpen : s.isOpen = true) :
    Moves may c (c.enlisted id parts plan) := by
  let fresh : Job := { stage := .starting, parent := some id }
  have enlist : Move may c { c with jobs := c.jobs ++ List.replicate parts.length fresh } :=
    .enlist c _ fun t ht => by rw [List.eq_of_mem_replicate ht]
  exact enlist.moves.trans (moves_setStage leave (stage?_append _ hs) (.ofOpen isOpen rfl))

/-- Parts that are enlisted have yet to start. -/
theorem stage?_enlisted {parts : List Part} {plan : Plan} (hs : c.stage? id = some s) {i : Nat}
    (hi : i < parts.length) :
    (c.enlisted id parts plan).stage? (c.jobs.length + i) = some .starting := by
  have lt : (id : Nat) ≠ c.jobs.length + i := Nat.ne_of_lt (Nat.lt_add_right i (stage?_lt hs))
  rw [enlisted, stage?_setStage, if_neg lt]
  simp [stage?, hi]

/-- A job that starts its parts lets them do what they are for. -/
theorem moves_startParts {parts : List Part} {plan : Plan} (leave : may id .proceed)
    (hs : c.stage? id = some s) (isOpen : s.isOpen = true)
    (leaves : ∀ i part, parts[i]? = some part → may (c.jobs.length + i) .proceed ∧
      may (c.jobs.length + i) part.act) :
    Moves may c (c.startParts id parts plan) := by
  rw [startParts_eq]
  exact ((moves_enlisted leave hs isOpen).trans
    (moves_startPartsFrom parts _ _ leaves fun _ hi => stage?_enlisted hs hi)).trans
      (moves_joinParts _ _)

/-- A document's links are attached by parts that look them up; without links there is nothing to
look up. -/
theorem moves_startAttach {links : List Path} (leave : may id .proceed) (hs : c.stage? id = some s)
    (isOpen : s.isOpen = true)
    (leaves : ∀ i, links ≠ [] → may (c.jobs.length + i) .proceed ∧ may (c.jobs.length + i) .ask) :
    Moves may c (c.startAttach id links) := by
  refine moves_startParts leave hs isOpen fun i part h => ?_
  obtain ⟨path, -, rfl⟩ := List.mem_map.mp (List.mem_of_getElem? h)
  refine leaves i ?_
  rintro rfl
  cases h

/-- A check of all stylesheets starts a check of each. -/
theorem moves_startChecks (leave : may id .proceed) (hs : c.stage? id = some s)
    (isOpen : s.isOpen = true) (leaves : ∀ i, may (c.jobs.length + i) .proceed) :
    Moves may c (c.startChecks id) := by
  refine moves_startParts leave hs isOpen fun i part h => ?_
  obtain ⟨entry, -, rfl⟩ := List.mem_map.mp (List.mem_of_getElem? h)
  exact ⟨leaves i, leaves i⟩

/-- Stylesheets whose files are known already are registered by parts that claim their slots at
once. -/
theorem moves_startParts_create {paths : List Path} {plan : Plan} (leave : may id .proceed)
    (hs : c.stage? id = some s) (isOpen : s.isOpen = true)
    (leaves : ∀ i, may (c.jobs.length + i) .proceed ∧ may (c.jobs.length + i) (.claim .css)) :
    Moves may c (c.startParts id (paths.map fun path => .create path false) plan) := by
  refine moves_startParts leave hs isOpen fun i part h => ?_
  obtain ⟨path, -, rfl⟩ := List.mem_map.mp (List.mem_of_getElem? h)
  exact leaves i

/-- A change claims the stylesheets that were added. -/
theorem moves_startChange (leave : may id .proceed) (hs : c.stage? id = some s)
    (isOpen : s.isOpen = true)
    (leaves : ∀ i, may (c.jobs.length + i) .proceed ∧ may (c.jobs.length + i) (.claim .css))
    (change : Change) : Moves may c (c.startChange id change) := by
  rw [startChange]
  split
  · exact moves_complete_of_leads leave hs (.ofOpen isOpen rfl)
  · exact (moves_notify c _).trans (moves_startParts_create leave hs isOpen leaves)

/-- A scan goes on scanning or claims the stylesheets that it has found. -/
theorem moves_scan (leave : may id .proceed) (scans : may id .scan) (hs : c.stage? id = some s)
    (isOpen : s.isOpen = true)
    (leaves : ∀ i, may (c.jobs.length + i) .proceed ∧ may (c.jobs.length + i) (.claim .css))
    (root : Path) (found pending : List Path) : Moves may c (c.scan id root found pending) := by
  cases pending with
  | nil => exact moves_startParts_create leave hs isOpen leaves
  | cons dir pending => exact moves_setStage scans hs (.ofOpen isOpen rfl)

/-- So it does after each listing. -/
theorem moves_afterListing (leave : may id .proceed) (scans : may id .scan)
    (hs : c.stage? id = some s) (isOpen : s.isOpen = true)
    (leaves : ∀ i, may (c.jobs.length + i) .proceed ∧ may (c.jobs.length + i) (.claim .css))
    (root dir : Path) (pending found : List Path) (result : Except Error (List DirEntry)) :
    Moves may c (c.afterListing id root dir pending found result) := by
  cases result with
  | error error =>
      exact (moves_notify c _).trans
        (moves_scan (c := c.notify _) leave scans hs isOpen leaves root found pending)
  | ok members => exact moves_scan leave scans hs isOpen leaves root _ _

/-! ## Going on -/

/-- What the listener of a number hears next. -/
def heard? (c : Catalog) (i : Nat) : Option EntryEvent := do
  let l ← c.listeners[i]?
  let e ← c.entries[l.entry]?
  return (← e.receive? l.seen).1

/-- What the jobs of a call may do besides going on. -/
def Call.acts : Call → List Act
  | .create kind _ byPath => [askAct kind byPath]
  | .change _ => [.claim .css]
  | .openProject _ => [.scan]
  | _ => []

/-- Who goes on in an event. New jobs have the numbers from that of the jobs on. -/
def Event.leave (c : Catalog) : Event → JobId → Act → Prop
  | .call made, j, a => c.jobs.length ≤ j ∧ (a = .proceed ∨ a ∈ made.acts)
  | .answer job _, j, a =>
    match c.stage? job with
    | some (.resolving kind _) => j = job ∧ (a = .proceed ∨ a = .claim kind)
    | some (.scanning ..) =>
      j = job ∧ (a = .proceed ∨ a = .scan) ∨ c.jobs.length ≤ j ∧ (a = .proceed ∨ a = .claim .css)
    | _ => j = job ∧ a = .proceed
  | .wake job, j, a => j = job ∧ a = .proceed
  | .listen i, j, a =>
    c.jobs.length ≤ j ∧ (a = .proceed ∨ a = .ask ∧
      ∃ links, c.heard? i = some (.fetchComplete links) ∧ links ≠ [])
  | .tick _, j, a => c.jobs.length ≤ j ∧ a = .proceed
  | _, _, _ => False

/-- An answer is taken in. -/
theorem moves_resume (answer : Answer) :
    Moves (Event.leave c (.answer id answer)) c (c.resume id answer) := by
  unfold resume
  split
  · next kind path result hs =>
      have leave : ∀ act, act = .proceed ∨ act = .claim kind →
          Event.leave c (.answer id (.resolved result)) id act := by
        intro act h
        simpa only [Event.leave, hs] using ⟨trivial, h⟩
      cases result with
      | ok file =>
          exact moves_createAt (leave _ (.inl rfl)) (fun _ => leave _ (.inr rfl)) hs rfl true
      | error error => exact moves_notify_complete (leave _ (.inl rfl)) hs (.ofOpen rfl rfl) _
  · next answer _ _ f purpose hs =>
      have leave : Event.leave c (.answer id answer) id .proceed := by simp [Event.leave, hs]
      exact moves_resumeFetch leave hs answer
  · next entry result hs =>
      exact moves_afterStat (by simp [Event.leave, hs]) hs rfl entry result
  · next root dir pending found result hs =>
      refine moves_afterListing ?_ ?_ hs rfl (fun i => ⟨?_, ?_⟩) root dir pending found result <;>
        simp [Event.leave, hs]
  · exact .refl c

/-- A job that is woken goes on with the entry it has waited for. -/
theorem moves_wake? {c' : Catalog} (h : c.wake? id = some c') :
    Moves (Event.leave c (.wake id)) c c' := by
  rw [wake?] at h
  split at h
  · next slot path byPath hs =>
      obtain ⟨entry, he, rfl⟩ := Option.map_eq_some_iff.mp h
      exact moves_share ⟨rfl, rfl⟩ hs (fun f hf => .refresh (by rw [he, hf]))
        (.share he) .miss byPath
  · cases h

/-- A new job has yet to start. -/
theorem moves_addJob (c : Catalog) (ofCatalog : Bool) :
    Moves may c (c.addJob { stage := .starting, ofCatalog := ofCatalog }).1 :=
  (Move.enlist c _ (by simp)).moves

/-- A job that has just been added has not started. -/
theorem stage?_addJob (c : Catalog) (ofCatalog : Bool) :
    (c.addJob { stage := .starting, ofCatalog := ofCatalog }).1.stage? c.jobs.length =
      some .starting := by
  simp [addJob, stage?]

/-- A listener that goes on is open, and hears what its entry has told next. -/
theorem listen?_some {i : Nat} (h : c.listen? i = some d) :
    ∃ l e event seen, c.listeners[i]? = some l ∧ l.closed = false ∧
      c.entries[l.entry]? = some e ∧ e.receive? l.seen = some (event, seen) ∧
      d = c.hear i l seen event := by
  obtain ⟨l, hl, h⟩ := Option.bind_eq_some_iff.mp h
  obtain ⟨e, he, h⟩ := Option.bind_eq_some_iff.mp h
  obtain ⟨⟨event, seen⟩, hr, h⟩ := Option.bind_eq_some_iff.mp h
  dsimp only at h
  by_cases free : c.isFree l
  · rw [if_pos free] at h
    have isOpen : l.closed = false := by
      simp only [isFree, Bool.and_eq_true, Bool.not_eq_true'] at free
      exact free.1
    exact ⟨l, e, event, seen, hl, isOpen, he, hr, (Option.some.inj h).symm⟩
  · rw [if_neg free] at h
    cases h

theorem moves_listen? {c' : Catalog} {i : Nat} (h : c.listen? i = some c') :
    Moves (Event.leave c (.listen i)) c c' := by
  obtain ⟨l, e, event, seen, hl, isOpen, he, hr, rfl⟩ := listen?_some h
  have heard : c.heard? i = some event := by simp [heard?, hl, he, hr]
  have left : c.isAlive = false → Move (Event.leave c (.listen i)) c
      (c.setListener i { l with seen := seen, closed := true }) := by
    intro dead
    refine .leave hl isOpen he hr ?_
    rw [isAlive, Bool.or_eq_false_iff] at dead
    exact dead.1
  cases event with
  | fetchComplete links =>
      cases alive : c.isAlive with
      | true =>
          simp only [hear, alive, if_true]
          -- the job that attaches the links is added first
          let added := (c.addJob { stage := .starting }).1
          have adds : Moves (Event.leave c (.listen i)) c added := moves_addJob c true
          have hears : Move (Event.leave c (.listen i)) added
              (added.setListener i { l with seen := seen, busy := some c.jobs.length }) :=
            .hear _ hl isOpen he hr
          refine (adds.trans hears.moves).trans
            (moves_startAttach ⟨?_, .inl rfl⟩ (stage?_addJob c true) rfl fun n some => ?_)
          · exact Nat.le_refl _
          · have le : c.jobs.length ≤ (c.addJob { stage := .starting }).1.jobs.length + n := by
              simp only [addJob, List.length_append, List.length_singleton]
              omega
            exact ⟨⟨le, .inl rfl⟩, le, .inr ⟨rfl, links, heard, some⟩⟩
      | false =>
          simp only [hear, alive]
          exact (left alive).moves
  -- at a disposal the slot is given up, if the catalogue is still in use
  | disposed =>
      have alive' : (c.setListener i { l with seen := seen, closed := true }).isAlive =
        c.isAlive := rfl
      cases alive : c.isAlive with
      | true =>
          simp only [hear, alive', alive, if_true]
          exact (Move.retire hl isOpen he hr).moves
      | false =>
          simp only [hear, alive', alive]
          exact (left alive).moves

/-- The catalogue with a job for the check that a checker is due to begin. -/
def readied (c : Catalog) (i deadline : Nat) : Catalog :=
  (c.addJob { stage := .starting }).1.setChecker i (.busy (c.nextDeadline deadline) c.jobs.length)

theorem stage?_readied (c : Catalog) (i deadline : Nat) :
    (c.readied i deadline).stage? c.jobs.length = some .starting :=
  stage?_addJob c true

/-- What a checker does when it goes on. -/
inductive Ticks (c : Catalog) (i : Nat) : Catalog → Prop where
  | begins {deadline : Nat} : c.checkers[i]? = some (.waiting deadline) → deadline ≤ c.uptime →
      c.isAlive = true → Ticks c i ((c.readied i deadline).startChecks c.jobs.length)
  | deserts {deadline : Nat} : c.checkers[i]? = some (.waiting deadline) → deadline ≤ c.uptime →
      c.isAlive = false → Ticks c i (c.setChecker i .finished)
  | ends {deadline : Nat} {id : JobId} : c.checkers[i]? = some (.busy deadline id) →
      (c.jobs[id]?).all Job.isDone = true → Ticks c i (c.setChecker i (.waiting deadline))

theorem ticks_of_tick? {i : Nat} (h : c.tick? i = some d) : Ticks c i d := by
  rw [tick?] at h
  split at h
  · next deadline waits =>
      split at h
      · cases h
      · next late =>
          have due : deadline ≤ c.uptime := Nat.le_of_not_lt late
          split at h
          · next alive =>
              cases h
              exact .begins waits due alive
          · next unused =>
              cases h
              exact .deserts waits due (Bool.eq_false_iff.mpr unused)
  · next deadline id busy =>
      split at h
      · next done =>
          cases h
          exact .ends busy done
      · cases h
  · cases h

/-- A tick starts a check, takes note of its end, or ends the checker. -/
theorem moves_tick? {c' : Catalog} {i : Nat} (h : c.tick? i = some c') :
    Moves (Event.leave c (.tick i)) c c' := by
  have set : ∀ (d : Catalog) (checker : Checker),
      Moves (Event.leave c (.tick i)) d (d.setChecker i checker) :=
    fun d _ => Move.moves (.ambient d _ rfl rfl rfl rfl rfl (fun h => h) (Nat.le_refl _))
  cases ticks_of_tick? h with
  | @begins deadline =>
      refine ((moves_addJob c true).trans (set _ _)).trans
        (moves_startChecks ⟨Nat.le_refl _, rfl⟩ (stage?_readied c i deadline) rfl fun n =>
          ⟨?_, rfl⟩)
      simp only [addJob, setChecker, List.length_append, List.length_singleton]
      omega
  | deserts | ends => exact set c _

/-- A call is started as a new job. -/
theorem moves_start (c : Catalog) (call : Call) :
    Moves (Event.leave c (.call call)) c (c.start call).1 := by
  let fresh : Job := { stage := .starting, ofCatalog := call.ofCatalog }
  have hs : (c.addJob fresh).1.stage? c.jobs.length = some .starting :=
    stage?_addJob c call.ofCatalog
  have leave : Event.leave c (.call call) c.jobs.length .proceed := ⟨Nat.le_refl _, .inl rfl⟩
  have acts : ∀ act ∈ call.acts, Event.leave c (.call call) c.jobs.length act :=
    fun _ h => ⟨Nat.le_refl _, .inr h⟩
  have parts : ∀ i, c.jobs.length ≤ (c.addJob fresh).1.jobs.length + i := by
    intro i
    show c.jobs.length ≤ (c.jobs ++ [fresh]).length + i
    rw [List.length_append]
    omega
  -- a new job may come to any stage, constructions apart
  have leads : ∀ (slots : List Slot) (t : Stage), t.isConstruct = false → Leads slots .starting t :=
    fun _ t h => .ofOpen rfl h
  refine (moves_addJob c call.ofCatalog).trans ?_
  cases call with
  | create kind path byPath =>
      exact moves_startCreate leave (acts _ (List.mem_singleton_self _)) hs rfl path
  | saved path =>
      dsimp only [start]
      split
      · exact moves_startFetch leave hs rfl (fun _ _ => leads _ _ rfl) fun _ => leads _ _ rfl
      · exact moves_complete_of_leads leave hs (leads _ _ rfl)
  | checkAll => exact moves_startChecks leave hs rfl fun i => ⟨parts i, .inl rfl⟩
  | change change =>
      refine moves_startChange leave hs rfl (fun i => ?_) change
      exact ⟨⟨parts i, .inl rfl⟩, parts i, .inr (List.mem_singleton_self _)⟩
  | openProject root =>
      have hs' : ({ (c.addJob fresh).1.reset with root := some root } : Catalog).stage?
          c.jobs.length = some .starting :=
        (congrFun (stage?_reset _) _).trans hs
      have rooted : Moves (Event.leave c (.call (.openProject root))) (c.addJob fresh).1.reset
          { (c.addJob fresh).1.reset with root := some root } :=
        Move.moves (.ambient _ _ rfl rfl rfl rfl rfl (fun h => h) (Nat.le_refl _))
      exact ((moves_reset _).trans rooted).trans
        (moves_setStage (acts _ (List.mem_singleton_self _)) hs' (leads _ _ rfl))
  | fetch entry =>
      exact moves_startFetch leave hs rfl (fun _ _ => leads _ _ rfl) fun _ => leads _ _ rfl
  | check entry => exact moves_startCheck leave hs rfl entry
  | openStandalone path =>
      have hs' : ((c.addJob fresh).1.addStandalone .css path).1.stage? c.jobs.length =
          some .starting := hs
      exact (Move.standalone _ .css path).moves.trans
        (moves_startFetch leave hs' rfl (fun _ _ => leads _ _ rfl) fun _ => leads _ _ rfl)

/-- Every event but the stop of a checker is made of moves. -/
theorem step?_moves {event : Event} (h : c.step? event = some d)
    (go : ∀ i, event ≠ .stopChecker i) :
    Moves (event.leave c) c d := by
  -- all events move, but for the stop of a checker, which gives jobs up
  cases event with
  | call call =>
      cases h
      exact moves_start c call
  | answer job a =>
      simp only [step?] at h
      split at h
      · cases h
        exact moves_resume a
      · cases h
  | wake job => exact moves_wake? h
  | listen i => exact moves_listen? h
  | tick i => exact moves_tick? h
  | remove path =>
      cases h
      exact moves_remove c path
  | reset =>
      cases h
      exact moves_reset c
  | disposeEntry entry =>
      cases h
      exact moves_changeEntry c entry fun _ => .dispose
  | clearEntry entry =>
      cases h
      exact moves_changeEntry c entry fun _ => .clear
  | addStandalone kind path =>
      cases h
      exact (Move.standalone c kind path).moves
  | startChecker =>
      cases h
      exact Move.moves (.ambient c _ rfl rfl rfl rfl rfl (fun h => h) (Nat.le_refl _))
  | stopChecker i => exact absurd rfl (go i)
  | drop =>
      cases h
      exact Move.moves (.ambient c _ rfl rfl rfl rfl rfl (fun h => by cases h) (Nat.le_refl _))
  | pass ms =>
      cases h
      exact Move.moves (.ambient c _ rfl rfl rfl rfl rfl (fun h => h) (Nat.le_add_right _ ms))
  | clock time =>
      simp only [step?] at h
      split at h
      · cases h
        exact Move.moves (.ambient c _ rfl rfl rfl rfl rfl (fun h => h) (Nat.le_refl _))
      · cases h

/-- Who goes on in an event is new, or has the answer that it waits for, or is woken. -/
theorem leave_cases {event : Event} (step : c.step? event = some d) {j : JobId} {a : Act}
    (leave : event.leave c j a) :
    c.jobs.length ≤ j ∨ (∃ answer, event = .answer j answer ∧ c.expects j answer = true) ∨
      event = .wake j ∧ ∃ slot path byPath, c.stage? j = some (.awaiting slot path byPath) := by
  cases event with
  | answer job answer =>
      have expected : c.expects job answer = true := by
        simp only [step?] at step
        split at step
        · assumption
        · cases step
      have which : j = job ∨ c.jobs.length ≤ j := by
        simp only [Event.leave] at leave
        split at leave
        · exact .inl leave.1
        · exact leave.imp And.left And.left
        · exact .inl leave.1
      rcases which with rfl | new
      · exact .inr (.inl ⟨answer, rfl, expected⟩)
      · exact .inl new
  | wake job =>
      obtain ⟨rfl, -⟩ := leave
      simp only [step?, wake?] at step
      split at step
      · next slot path byPath hs => exact .inr (.inr ⟨rfl, slot, path, byPath, hs⟩)
      · cases step
  | call | listen | tick => exact .inl leave.1
  | remove | reset | disposeEntry | clearEntry | addStandalone | startChecker | stopChecker | drop |
      pass | clock => exact leave.elim

/-- A job that is given up is over, with all its parts. -/
theorem stage?_abandon (c : Catalog) (id j : JobId) :
    (c.abandon id).stage? j = (c.jobs[j]?).map fun t =>
      if j == id || t.parent == some id then .done .unit else t.stage := by
  simp only [stage?, abandon, List.getElem?_mapIdx, Option.map_map]
  congr
  funext t
  show (if _ then _ else _ : Job).stage = _
  split <;> rfl

/-- The stop of a busy checker ends its job and the parts of that job, and no other. -/
theorem stage?_stopChecker {j : JobId} (hs : c.stage? j = some s) (i : Nat) :
    (c.stopChecker i).stage? j = some s ∨ (c.stopChecker i).stage? j = some (.done .unit) ∧
      ∃ deadline id t, c.checkers[i]? = some (.busy deadline id) ∧ c.jobs[j]? = some t ∧
        (j = id ∨ t.parent = some id) := by
  rw [stopChecker]
  split
  · next deadline id busy =>
      obtain ⟨t, ht, stage⟩ := Option.map_eq_some_iff.mp hs
      rw [stage?_abandon]
      show (c.jobs[j]?).map _ = _ ∨ (c.jobs[j]?).map _ = _ ∧ _
      rw [ht, Option.map_some, stage]
      split
      · next given => exact .inr ⟨rfl, deadline, id, t, busy, rfl, by simpa using given⟩
      · exact .inl rfl
  · exact .inl hs

/-- The stop of a checker is a matter of checkers and jobs alone, and leaves as many jobs. -/
theorem stopChecker_frame (c : Catalog) (i : Nat) :
    ∃ js cs, c.stopChecker i = { c with jobs := js, checkers := cs } ∧
      js.length = c.jobs.length := by
  rw [stopChecker]
  split
  · exact ⟨_, _, rfl, List.length_mapIdx⟩
  · exact ⟨_, _, rfl, rfl⟩

/-- To stop a checker adds no job. -/
theorem stage?_of_stopChecker {i : Nat} {j : JobId} (ht : (c.stopChecker i).stage? j = some t) :
    ∃ s, c.stage? j = some s := by
  obtain ⟨js, cs, eq, length⟩ := stopChecker_frame c i
  rw [eq] at ht
  have lt : j < c.jobs.length := length ▸ stage?_lt ht
  exact ⟨c.jobs[j].stage, by rw [stage?, List.getElem?_eq_getElem lt]; rfl⟩

/-- What an event does to a job that is at a stage. -/
inductive Fares (c : Catalog) (event : Event) (j : JobId) (s : Stage) (d : Catalog) : Prop where
  | stays : d.stage? j = some s → Fares c event j s d
  /-- The job is given up. -/
  | stopped (i : Nat) : event = .stopChecker i → d.stage? j = some (.done .unit) →
      Fares c event j s d
  | answered (answer : Answer) : event = .answer j answer → c.expects j answer = true →
      d = c.resume j answer → Fares c event j s d
  | woken {slot : SlotId} {path : Path} {byPath : Bool} (entry : EntryId) : event = .wake j →
      s = .awaiting slot path byPath → d = c.share j slot entry path byPath → Fares c event j s d
  /-- The job waits for its parts, and may be over with the last of them. -/
  | joins (parts : List JobId) (plan : Plan) : s = .joining parts plan →
      (∀ i, event ≠ .stopChecker i) → (∀ a, ¬event.leave c j a) → Fares c event j s d

theorem step?_fares {event : Event} (step : c.step? event = some d) {j : JobId}
    (hs : c.stage? j = some s) : Fares c event j s d := by
  by_cases stop : ∃ i, event = .stopChecker i
  · obtain ⟨i, rfl⟩ := stop
    cases step
    rcases stage?_stopChecker hs i with same | ⟨ended, -⟩
    · exact .stays same
    · exact .stopped i rfl ended
  have go : ∀ i, event ≠ .stopChecker i := fun i eq => stop ⟨i, eq⟩
  by_cases leave : ∃ a, event.leave c j a
  · obtain ⟨a, leave⟩ := leave
    rcases leave_cases step leave with new | ⟨answer, rfl, expected⟩ | ⟨rfl, slot, path, byPath, hw⟩
    · exact absurd (stage?_lt hs) (Nat.not_lt.mpr new)
    · rw [step?, if_pos expected] at step
      exact .answered answer rfl expected (Option.some.inj step).symm
    · obtain rfl := Option.some.inj (hs.symm.trans hw)
      simp only [step?, wake?, hs] at step
      obtain ⟨entry, -, shares⟩ := Option.map_eq_some_iff.mp step
      exact .woken entry rfl rfl shares.symm
  · -- nobody else moves a job on, but its last part may end it
    have no : ∀ a, ¬event.leave c j a := fun a la => leave ⟨a, la⟩
    by_cases joining : ∃ parts plan, s = .joining parts plan
    · obtain ⟨parts, plan, eq⟩ := joining
      exact .joins parts plan eq go no
    · exact .stays ((step?_moves step go).stage?_eq no hs fun parts plan eq =>
        joining ⟨parts, plan, eq⟩)

end SelectorCatalog.Catalog
