import SelectorCatalog.Proofs.Catalog.Check

/-!
# Watching a stylesheet

A `Watch` is a catalogue together with the file of one of its stylesheets. At every step the clock
moves on; the file is written, which stamps it with the time, or deleted, or something happens in
the catalogue. Whoever asks for the size and age of the file or for its text is answered from what
the file is just then, or with a failure, and the parser has one list of rules for each text.

The age of the file is compared with the start of the fetch that built the index, though the text is
read some time later, and other fetches overlap. Still nothing is missed: what a fetch has read is
the file as it is, or the file was written after that fetch was started (`Watch.Current`). So a
check that finds nothing to do has an index of the very version that it saw
(`Watch.check_misses_nothing`).
-/

namespace SelectorCatalog

/-- A version of a file. -/
structure Version where
  text : String
  written : Time
deriving DecidableEq, Repr

/-- A catalogue, and the file of one of its stylesheets if it exists. -/
structure Watch where
  catalog : Catalog
  file : Option Version

namespace Watch

open Catalog (Work)

/-- Something that happens to a catalogue or to the file. -/
inductive Event where
  | write (text : String)
  | delete
  | catalog (event : Catalog.Event)

/-- Whether a job waits for an answer about the file of an entry. -/
def asks (c : Catalog) (id : EntryId) (job : JobId) : Bool :=
  match c.stage? job with
  | some (.checking entry) => entry == id
  | some (.fetching f _) => f.entry == id
  | _ => false

/-- Whether an answer is what the file is, or what the parser has for its text. There may always be
a failure. -/
def tells (rulesOf : String → List Rule) (w : Watch) (job : JobId) : Answer → Bool
  | .stat (.ok stat) => w.file.map (·.written) = some stat.modified
  | .text (.ok text) => w.file.map (·.text) = some text
  | .parsed i (.ok rules) =>
    (w.catalog.fetch? job).all fun f => f.agrees rulesOf .css (.parsed i (.ok rules))
  | _ => true

/-- Whether an event of the catalogue may happen: answers about the file are true to it, and the
entry is not cleared. -/
def allows (rulesOf : String → List Rule) (id : EntryId) (w : Watch) : Catalog.Event → Bool
  | .answer job a => !asks w.catalog id job || w.tells rulesOf job a
  | .clearEntry entry => entry != id
  | _ => true

/-- The same at a later time. -/
def tick (w : Watch) (now : Time) : Watch :=
  ⟨{ w.catalog with clock := now }, w.file⟩

/-- The state after an event at a time; `none` when the event cannot happen then. -/
def step? (rulesOf : String → List Rule) (id : EntryId) (w : Watch) (now : Time) (event : Event) :
    Option Watch :=
  if w.catalog.clock < now then
    let w := w.tick now
    match event with
    | .write text => some { w with file := some ⟨text, now⟩ }
    | .delete => some { w with file := none }
    | .catalog event =>
      if w.allows rulesOf id event then (w.catalog.step? event).map (⟨·, w.file⟩) else none
  else none

/-- The state after a list of events. -/
def run? (rulesOf : String → List Rule) (id : EntryId) (w : Watch) (events : List (Time × Event)) :
    Option Watch :=
  events.foldlM (fun w (now, event) => w.step? rulesOf id now event) w

/-- A text that is that of the file, unless the file was written after the time `started`. -/
def Current (w : Watch) (started : Time) (text : String) (_ : Option Path) : Prop :=
  started ≤ w.catalog.clock ∧ ∀ v, w.file = some v → v.text = text ∨ started < v.written

/-- Whether the entry that is watched is a stylesheet, if it is there. -/
def IsCss (id : EntryId) (c : Catalog) : Prop :=
  ∀ e : Entry, c.entries[id]? = some e → e.kind = .css

/-- What holds after every run: the texts that fetches have read and the text behind the index are
current. -/
structure Tracks (rulesOf : String → List Rule) (id : EntryId) (w : Watch) : Prop where
  orderly : w.catalog.work.Orderly
  sourced : IsCss id w.catalog → w.catalog.work.Sourced rulesOf id 0 w.Current

variable {rulesOf : String → List Rule} {id : EntryId} {w w' : Watch} {now : Time}

/-- At first there is nothing to track. -/
theorem tracks_new (rulesOf : String → List Rule) (id : EntryId) (config : Config) (clock : Time)
    (file : Option Version) : Tracks rulesOf id ⟨.new config clock, file⟩ where
  orderly := Catalog.orderly_of_run (.nil _)
  sourced _ := by constructor <;> simp [Catalog.work, Catalog.new, Catalog.fetch?, Catalog.stage?]

/-- Time passes. -/
theorem Tracks.tick (h : Tracks rulesOf id w) (lt : w.catalog.clock < now) :
    Tracks rulesOf id (w.tick now) := by
  have pass : Catalog.Stride (.clock now) w.catalog.work (w.tick now).catalog.work :=
    .time _ rfl (Int.le_of_lt lt)
  refine ⟨h.orderly.stride pass, fun css => ?_⟩
  have sourced := (h.sourced css).stride h.orderly pass (by simp)
  exact sourced.mono fun _ _ _ ⟨le, current⟩ => ⟨Int.le_trans le (Int.le_of_lt lt), current⟩

/-- The file is written or deleted. What was read before was read by fetches that were started
before. -/
theorem Tracks.write (h : Tracks rulesOf id w) (lt : w.catalog.clock < now) {file : Option Version}
    (stamped : ∀ v, file = some v → v.written = now) :
    Tracks rulesOf id { w.tick now with file := file } := by
  have pass : Catalog.Stride (.clock now) w.catalog.work (w.tick now).catalog.work :=
    .time _ rfl (Int.le_of_lt lt)
  refine ⟨h.orderly.stride pass, fun css => ?_⟩
  have sourced := (h.sourced css).stride h.orderly pass (by simp)
  refine sourced.mono fun started text root ⟨le, _⟩ => ⟨Int.le_trans le (Int.le_of_lt lt), ?_⟩
  intro v hv
  right
  show started < v.written
  rw [stamped v hv]
  exact Int.lt_of_le_of_lt le lt

/-- Who has a fetch of the entry asks for its file. -/
theorem asks_of_fetch? {c : Catalog} {job : JobId} {f : Fetch} (hf : c.fetch? job = some f)
    (entry : f.entry = id) : asks c id job = true := by
  obtain ⟨s, hs, under⟩ := Option.bind_eq_some_iff.mp hf
  cases s with
  | fetching g purpose =>
      cases under
      simp [asks, hs, entry]
  | starting | resolving | awaiting | checking | scanning | joining | done => cases under

/-- What is told of the parser's answers is what they have to agree with. -/
theorem agrees_of_tells {job : JobId} {f : Fetch} {a : Answer} (hf : w.catalog.fetch? job = some f)
    (told : w.tells rulesOf job a = true) : f.agrees rulesOf .css a = true := by
  unfold Fetch.agrees
  split
  · next blocks i result at_ =>
      cases result with
      | ok rules =>
          rw [tells, hf] at told
          simpa [Fetch.agrees, at_] using told
      | error error =>
          -- a refusal is the parser's right
          cases blocks[i]? <;> rfl
  · rfl

/-- Something happens in the catalogue. -/
theorem Tracks.event (h : Tracks rulesOf id w) {event : Catalog.Event} {d : Catalog}
    (allowed : w.allows rulesOf id event = true) (step : w.catalog.step? event = some d) :
    Tracks rulesOf id ⟨d, w.file⟩ := by
  refine ⟨Catalog.orderly_step? h.orderly step, fun css => ?_⟩
  -- the entry was a stylesheet before, if it was there
  have css' : IsCss id w.catalog := by
    intro e he
    obtain ⟨e', he', lasts⟩ := Catalog.entry_step? step he
    rw [← lasts.kind]
    exact css e' he'
  have told : ∀ job a (f : Fetch), event = .answer job a → w.catalog.fetch? job = some f →
      f.entry = id → w.tells rulesOf job a = true := by
    rintro job a f rfl hf entry
    simpa [allows, asks_of_fetch? hf entry] using allowed
  have sourced : d.work.Sourced rulesOf id 0 w.Current := by
    refine Catalog.sourced_step? (h.sourced css') h.orderly step ?_ ?_ ?_ ?_ ?_
    · rintro rfl
      simp [allows] at allowed
    · intro i _ e he html
      cases html.symm.trans (css' e he)
    · intro job a f e answered hf entry he
      rw [css' e he]
      exact agrees_of_tells hf (told job a f answered hf entry)
    · intro job f e stat text answered hf entry _ _
      have current := told job _ f answered hf entry
      simp only [tells, decide_eq_true_iff] at current
      refine ⟨h.orderly.past hf, fun v hv => ?_⟩
      rw [hv] at current
      exact .inl (Option.some.inj current)
    · intro job a f e notices error _ _ _ he _ html
      cases html.symm.trans (css' e he)
  exact sourced.mono fun _ _ _ ⟨le, current⟩ =>
    ⟨Int.le_trans le (Catalog.clock_le_step? step), current⟩

/-- The file and the entry keep track of each other with each event. -/
theorem Tracks.step? (h : Tracks rulesOf id w) {event : Event}
    (step : w.step? rulesOf id now event = some w') : Tracks rulesOf id w' := by
  rw [Watch.step?] at step
  by_cases lt : w.catalog.clock < now
  · rw [if_pos lt] at step
    cases event with
    | write text =>
        cases step
        exact h.write lt fun v hv => by rw [← Option.some.inj hv]
    | delete =>
        cases step
        exact h.write lt fun v hv => by cases hv
    | catalog event =>
        dsimp only at step
        split at step
        · next allowed =>
            obtain ⟨d, hd, rfl⟩ := Option.map_eq_some_iff.mp step
            exact (h.tick lt).event allowed hd
        · cases step
  · rw [if_neg lt] at step
    cases step

/-- So they do along a run. -/
theorem Tracks.run? (h : Tracks rulesOf id w) {events : List (Time × Event)}
    (run : w.run? rulesOf id events = some w') : Tracks rulesOf id w' := by
  induction events generalizing w with
  | nil =>
      cases run
      exact h
  | cons event rest ih =>
      rw [Watch.run?, List.foldlM_cons] at run
      obtain ⟨x, step, run⟩ := Option.bind_eq_some_iff.mp run
      exact ih (h.step? step) run

/-- The index of a stylesheet that is not stale is that of the file, when the file is of that age.
-/
theorem Tracks.index_eq (h : Tracks rulesOf id w) {e : Entry} (he : w.catalog.entries[id]? = some e)
    (css : e.kind = .css) (live : e.isDisposed = false) {v : Version} (hv : w.file = some v)
    (fresh : e.isStale v.written = false) :
    e.index = Fetch.indexOf [(v.text, rulesOf v.text)] := by
  have isCss : IsCss id w.catalog := by
    intro x hx
    obtain rfl := Option.some.inj (he.symm.trans hx)
    exact css
  -- an entry that no fetch has landed in is stale
  obtain ⟨started, at_⟩ : ∃ started, e.indexedAt = some started := by
    cases at_ : e.indexedAt with
    | none =>
        rw [Entry.isStale, at_] at fresh
        cases fresh
    | some started => exact ⟨started, rfl⟩
  obtain ⟨text, root, ⟨-, current⟩, shows | ⟨html, -⟩⟩ :=
    (h.sourced isCss).entry he live (Nat.zero_le _) at_
  · rw [Entry.isStale, at_, Option.all_some, decide_eq_false_iff_not] at fresh
    obtain same | later := current v hv
    · rw [shows.index, css, same]
      rfl
    · exact absurd later fresh
  · cases css.symm.trans html

/-- No change of a stylesheet is missed. Whatever mixes with a check, when it finds nothing to do
and the entry is live, then the index is that of the very version of the file whose age was seen. -/
theorem check_misses_nothing {config : Config} {clock : Time} {file : Option Version}
    {events : List (Time × Event)} {event : Event} {job : JobId} {e : Entry}
    (run : (⟨.new config clock, file⟩ : Watch).run? rulesOf id events = some w)
    (step : w.step? rulesOf id now event = some w')
    (asked : w.catalog.stage? job = some (.checking id) ∨
      event = .catalog (.call (.check id)) ∧ job = w.catalog.jobs.length)
    (ended : w'.catalog.outcome? job = some (.checked (.ok false)))
    (he : w'.catalog.entries[id]? = some e) (css : e.kind = .css) (live : e.isDisposed = false) :
    ∃ stat v, event = .catalog (.answer job (.stat (.ok stat))) ∧ w.file = some v ∧
      stat.modified = v.written ∧ e.index = Fetch.indexOf [(v.text, rulesOf v.text)] := by
  have tracks := (tracks_new rulesOf id config clock file).run? run
  rw [Watch.step?] at step
  by_cases lt : w.catalog.clock < now
  · rw [if_pos lt] at step
    have came := Catalog.stage?_of_outcome? ended
    -- the check waits for the time of the file, or has just been asked for
    obtain hs | ⟨rfl, rfl⟩ := asked
    · have hs : (w.tick now).catalog.stage? job = some (.checking id) := hs
      cases event with
      | write | delete =>
          cases step
          cases hs.symm.trans came
      | catalog event =>
          dsimp only at step
          split at step
          · next allowed =>
              obtain ⟨d, hd, rfl⟩ := Option.map_eq_some_iff.mp step
              obtain ⟨result, rfl, rfl⟩ | waits | given := Catalog.step?_checking hs hd
              · obtain ⟨stat, rfl, he', fresh⟩ := Catalog.afterStat_unchanged hs ended he live
                -- the file tells the time of its version, and the entry is not older
                have told : (w.tick now).tells rulesOf job (.stat (.ok stat)) = true := by
                  simpa [allows, asks, hs] using allowed
                simp only [tells, decide_eq_true_iff] at told
                obtain ⟨v, hv, age⟩ := Option.map_eq_some_iff.mp told
                refine ⟨stat, v, rfl, hv, age.symm, ?_⟩
                exact (tracks.tick lt).index_eq he' css live hv (age ▸ fresh)
              · cases waits.symm.trans came
              · cases given.symm.trans came
          · cases step
    · -- a check is over at once when there is nothing live to check
      exfalso
      dsimp only at step
      split at step
      · obtain ⟨d, hd, rfl⟩ := Option.map_eq_some_iff.mp step
        have gone := Catalog.disposed_of_check hd ended he
        cases live.symm.trans gone
      · cases step
  · rw [if_neg lt] at step
    cases step

/-- Whether a job waits for the age of an entry's file. -/
def isChecking (c : Catalog) (id : EntryId) (job : JobId) : Bool :=
  match c.stage? job with
  | some (.checking entry) => entry == id
  | _ => false

/-- Whether a check has found nothing to do. -/
def isUnchanged (c : Catalog) (job : JobId) : Bool :=
  match c.outcome? job with
  | some (.checked (.ok fetched)) => !fetched
  | _ => false

/-- The check is under way. -/
theorem stage?_of_isChecking {c : Catalog} {job : JobId} (h : isChecking c id job = true) :
    c.stage? job = some (.checking id) := by
  unfold isChecking at h
  split at h
  · next hs => rw [hs, beq_iff_eq.mp h]
  · cases h

/-- The check has found the file unchanged. -/
theorem outcome?_of_isUnchanged {c : Catalog} {job : JobId} (h : isUnchanged c job = true) :
    c.outcome? job = some (.checked (.ok false)) := by
  unfold isUnchanged at h
  split at h
  · next fetched ho =>
      cases fetched with
      | false => exact ho
      | true => cases h
  · cases h

/-- Two fetches overlap, and the file is written while the first of them has the old text in hand.
The second is done first, with the new text; the first is over later and leaves the entry alone. -/
def rewritten : List (Time × Event) :=
  [(1, .write "a"), (2, .catalog (.addStandalone .css ⟨"/a.css"⟩)),
    (3, .catalog (.call (.fetch 0))),
    (4, .catalog (.answer 0 (.stat (.ok ⟨1, 1⟩)))), (5, .catalog (.answer 0 (.text (.ok "a")))),
    (6, .write "b"), (7, .catalog (.call (.fetch 0))),
    (8, .catalog (.answer 1 (.stat (.ok ⟨6, 1⟩)))), (9, .catalog (.answer 1 (.text (.ok "b")))),
    (10, .catalog (.answer 1 (.parsed 0 (.ok [.style "b"])))), (11, .catalog (.answer 1 .built)),
    (12, .catalog (.answer 0 (.parsed 0 (.ok [.style "a"])))), (13, .catalog (.answer 0 .built)),
    (14, .catalog (.call (.check 0)))]

theorem rewritten_misses_nothing :
    ∃ w w' e, (⟨.new {} 0, none⟩ : Watch).run? (fun t => [.style t]) 0 rewritten = some w ∧
      w.step? (fun t => [.style t]) 0 15 (.catalog (.answer 2 (.stat (.ok ⟨6, 1⟩)))) = some w' ∧
      w'.catalog.entries[0]? = some e ∧ ∃ stat v, Event.catalog (.answer 2 (.stat (.ok ⟨6, 1⟩))) =
        .catalog (.answer 2 (.stat (.ok stat))) ∧ w.file = some v ∧ stat.modified = v.written ∧
        e.index = Fetch.indexOf [(v.text, [.style v.text])] := by
  have facts : ((⟨.new {} 0, none⟩ : Watch).run? (fun t => [.style t]) 0 rewritten).bind (fun w =>
      (w.step? (fun t => [.style t]) 0 15
          (.catalog (.answer 2 (.stat (.ok ⟨6, 1⟩))))).bind fun w' =>
        (w'.catalog.entries[0]?).map fun e => (e.kind, e.isDisposed, isChecking w.catalog 0 2,
          isUnchanged w'.catalog 2)) =
      some (.css, false, true, true) := by
    decide +kernel
  obtain ⟨w, run, found⟩ := Option.bind_eq_some_iff.mp facts
  obtain ⟨w', step, found⟩ := Option.bind_eq_some_iff.mp found
  obtain ⟨e, he, eq⟩ := Option.map_eq_some_iff.mp found
  simp only [Prod.mk.injEq] at eq
  obtain ⟨css, live, asks, ended⟩ := eq
  have asking := stage?_of_isChecking asks
  have misses := check_misses_nothing run step (.inl asking) (outcome?_of_isUnchanged ended) he css
    live
  exact ⟨w, w', e, run, step, he, misses⟩

end Watch

end SelectorCatalog
