import SelectorCatalog.Proofs.Catalog.Scan

/-!
# Keys of one file

A slot is registered under a path that a lookup has led to, or under one that an event has brought
and that was taken as it is: a file known already, a stylesheet that a watcher reports, one that a
scan comes across (`given`). Where paths lead does not change and what a lookup leads to leads to
itself, so that no two slots have keys that lookups led to and that are of one file. A key that was
taken as it is need not lead to itself, and then its file may have another key
(`keys_of_one_file`).
-/

namespace SelectorCatalog.Catalog

open Job (Outcome Purpose Plan Stage Leads Act)

/-- The paths that an event brings to be registered as they are. -/
def given (c : Catalog) : Event → List Path
  | .call (.create _ path false) => [path]
  | .call (.change change) =>
    if change.isDirectory then stylesheetsAmong c.config change.added else []
  | .answer job (.listing (.ok members)) =>
    match c.stage? job with
    | some (.scanning ..) => stylesheetsIn c.config members
    | _ => []
  | _ => []

/-- All paths that are brought along a list of events to be registered as they are. -/
def givenAlong (c : Catalog) : List Event → List Path
  | [] => []
  | event :: events =>
    match c.step? event with
    | some d => c.given event ++ d.givenAlong events
    | none => []

/-- Where the keys of slots come from, and what scans have found so far. -/
structure Traced (known : Path → Prop) (c : Catalog) : Prop where
  keys : ∀ {i : SlotId} {s : Slot}, c.slots[i]? = some s → known s.key
  found : ∀ {j : JobId} {root : Path} {pending found : List Path},
    c.stage? j = some (.scanning root pending found) → ∀ p ∈ found, known p

variable {events : List Event} {event : Event} {c d : Catalog} {known : Path → Prop} {a : Ask}
  {id j : JobId} {root p : Path} {pending found : List Path} {s : Stage}

/-- Nothing but a listing adds to what a scan has found. -/
theorem found_of_step? (step : c.step? event = some d)
    (hs : d.stage? j = some (.scanning root pending found)) (mem : p ∈ found) :
    (∃ root pending found, c.stage? j = some (.scanning root pending found) ∧ p ∈ found) ∨
      p ∈ c.given event := by
  rcases scanning_of_step? step hs with ⟨root', pending', before, ht⟩ | ⟨-, rfl⟩
  · cases step?_fares step ht with
    | stays same =>
        cases hs.symm.trans same
        exact .inl ⟨_, _, _, ht, mem⟩
    | stopped i _ ended => cases hs.symm.trans ended
    | woken _ _ awaits => cases awaits
    | joins _ _ joining => cases joining
    | answered answer eq expected resumed =>
        -- the one stage that adds to what was found is the answer to a listing
        subst eq resumed
        cases pending' with
        | nil => simp [expects, ht] at expected
        | cons dir rest =>
          cases answer with
          | listing result =>
              simp only [resume, ht] at hs
              cases result with
              | error error =>
                  obtain rfl := found_of_scan (c := c.notify _) ht hs
                  exact .inl ⟨_, _, _, ht, mem⟩
              | ok members =>
                  obtain rfl := found_of_scan ht hs
                  rcases List.mem_append.mp mem with before | now
                  · exact .inl ⟨_, _, _, ht, before⟩
                  · exact .inr (by simpa only [given, ht] using now)
          | _ => simp [expects, ht] at expected
  · cases mem

/-! ## Keys -/

/-- What parts ask for is among their paths. -/
theorem path_of_partAsks {paths : List Path} {first : JobId}
    (mem : a ∈ c.partAsks first (paths.map fun path => .create path false)) : a.path ∈ paths := by
  induction paths generalizing c first with
  | nil => cases mem
  | cons path rest ih =>
      rcases List.mem_cons.mp mem with rfl | later
      · exact List.mem_cons_self
      · exact List.mem_cons_of_mem _ (ih later)

theorem path_of_scanAsks {now later : List Path} (mem : a ∈ c.scanAsks id root now later) :
    a.path ∈ now := by
  cases later with
  | nil => exact path_of_partAsks mem
  | cons => cases mem

/-- What is asked for in an event was looked up, is given, or was found by a scan. -/
theorem path_of_asks (mem : a ∈ c.asks event) :
    (∃ q, c.lookup? event = some (q, .ok a.path)) ∨ a.path ∈ c.given event ∨
      ∃ j root pending found, c.stage? j = some (.scanning root pending found) ∧
        a.path ∈ found := by
  cases event with
  | call call =>
      cases call with
      -- asked for by path, the question is put later, when the path is resolved
      | create kind path byPath =>
          cases byPath with
          | true => cases mem
          | false =>
              obtain rfl := List.mem_singleton.mp mem
              exact .inr (.inl (List.mem_singleton.mpr rfl))
      | change change =>
          rw [asks, changeAsks] at mem
          split at mem
          · cases mem
          · next directory =>
              refine .inr (.inl ?_)
              rw [given, if_pos (by simpa using directory)]
              exact path_of_partAsks mem
      | _ => cases mem
  | answer job answer =>
      simp only [asks] at mem
      split at mem
      -- the one ask whose path a lookup has answered
      · next kind path file hs =>
          obtain rfl := List.mem_singleton.mp mem
          exact .inl ⟨path, by simp only [lookup?, hs]⟩
      · next root dir pending found result hs =>
          cases result with
          | error error =>
              -- the scan goes on without the directory, so it asks for what it had found before
              exact .inr (.inr ⟨_, _, _, _, hs, path_of_scanAsks (c := c.notify _) mem⟩)
          | ok members =>
              rcases List.mem_append.mp (path_of_scanAsks mem) with before | now
              · exact .inr (.inr ⟨_, _, _, _, hs, before⟩)
              · exact .inr (.inl (by simpa only [given, hs] using now))
      · cases mem
  | _ => cases mem

/-- A new slot has the path that was asked for. -/
theorem key_of_step? (sound : Sound c) (step : c.step? event = some d) {i : SlotId} {s : Slot}
    (hs : d.slots[i]? = some s) :
    (∃ t, c.slots[i]? = some t ∧ s.key = t.key) ∨ ∃ a ∈ c.asks event, s.key = a.path := by
  by_cases stop : ∃ n, event = .stopChecker n
  · obtain ⟨n, rfl⟩ := stop
    cases step
    obtain ⟨js, cs, eq, -⟩ := stopChecker_frame c n
    rw [eq] at hs
    exact .inl ⟨s, hs, rfl⟩
  have go : ∀ n, event ≠ .stopChecker n := fun n eq => stop ⟨n, eq⟩
  rcases Nat.lt_or_ge i c.slots.length with lt | ge
  · obtain ⟨t, ht, later⟩ :=
      ((step?_moves step go).slotsLast sound).slot (List.getElem?_eq_getElem lt)
    obtain rfl := Option.some.inj (hs.symm.trans ht)
    exact .inl ⟨_, List.getElem?_eq_getElem lt, later.key⟩
  · have through := step?_through step go
    obtain ⟨early, a, late, split, fresh, -⟩ :=
      through.exists_fresh ge (List.getElem?_eq_some_iff.mp hs).1
    rw [split] at through
    obtain ⟨before, ⟨t, ht, isOpen⟩, after⟩ := through.split
    have sound_a := (Ask.moves ht isOpen).sound (before.moves.sound sound)
    have file := Ask.file ht fresh (after.moves.slotsLast sound_a) hs
    exact .inr ⟨a, by simp [split], file.2.symm⟩

/-- Paths stay traced when more of them count as known. -/
theorem Traced.mono {more : Path → Prop} (h : Traced known c) (le : ∀ p, known p → more p) :
    Traced more c where
  keys hs := le _ (h.keys hs)
  found hs p mem := le _ (h.found hs p mem)

/-- What an event adds to what is known are the answers to lookups and what it brings. -/
theorem Traced.step? (h : Traced known c) (sound : Sound c) (step : c.step? event = some d) :
    Traced (fun p => known p ∨ (∃ q, c.lookup? event = some (q, .ok p)) ∨ p ∈ c.given event) d where
  keys hs := by
    rcases key_of_step? sound step hs with ⟨t, ht, key⟩ | ⟨a, mem, key⟩
    · exact .inl (key ▸ h.keys ht)
    · rw [key]
      rcases path_of_asks mem with looked | given | ⟨j, root, pending, found, scanning, mem⟩
      · exact .inr (.inl looked)
      · exact .inr (.inr given)
      · exact .inl (h.found scanning _ mem)
  found hs p mem := by
    rcases found_of_step? step hs mem with ⟨root, pending, found, scanning, mem⟩ | given
    · exact .inl (h.found scanning p mem)
    · exact .inr (.inr given)

/-- Along a run every key is traced to what the host answered or what was given. -/
theorem traced_of_run (run : Run c events d) (h : Traced known c) (sound : Sound c)
    (supervised : Supervised c) :
    Traced (fun p => known p ∨ (∃ q, (q, .ok p) ∈ c.lookups events) ∨ p ∈ c.givenAlong events)
      d := by
  induction run generalizing known with
  | nil => exact h.mono fun _ => .inl
  | @cons c b d event events step _ ih =>
      have later := ih (h.step? sound step) (supervised.sound_step? sound step)
        (supervised.step? sound step)
      refine later.mono fun p => ?_
      simp only [lookups, givenAlong, step, List.mem_append, Option.mem_toList]
      grind

/-- Any run from an empty catalogue. Where paths lead does not change, and what a path leads to
leads to itself. If two slots are registered under paths that lead to one file, then one of the
paths was brought to be registered as it is, and does not lead to itself. -/
theorem keys_of_one_file {config : Config} {clock : Time} {files : Path → Except Error Path}
    (run : Run (new config clock) events c)
    (steady : ∀ x ∈ (new config clock).lookups events, x.2 = files x.1)
    (idempotent : ∀ path file, files path = .ok file →
      ∃ again, files file = .ok again ∧ again.same file = true)
    {i j : SlotId} {s t : Slot} {file other : Path} (hi : i ∈ c.registered) (hj : j ∈ c.registered)
    (hs : c.slots[i]? = some s) (ht : c.slots[j]? = some t) (differ : i ≠ j)
    (leads : files s.key = .ok file) (leads' : files t.key = .ok other)
    (same : file.same other = true) :
    ∃ key file, (key = s.key ∨ key = t.key) ∧ key ∈ (new config clock).givenAlong events ∧
      files key = .ok file ∧ file.same key = false := by
  have sound := (sound_of_run run).1
  have none : Traced (fun _ => False) (new config clock) := ⟨nofun, nofun⟩
  have traced := traced_of_run run none (sound_new config clock) (supervised_new config clock)
  -- a path that does not lead to itself was not looked up
  have given : ∀ {key file : Path}, (∃ q, (q, .ok key) ∈ (new config clock).lookups events) ∨
      key ∈ (new config clock).givenAlong events → files key = .ok file → file.same key = false →
      key ∈ (new config clock).givenAlong events := by
    rintro key file (⟨q, looked⟩ | given) leads other
    · obtain ⟨again, leads', same⟩ := idempotent q key (steady _ looked).symm
      obtain rfl := Except.ok.inj (leads.symm.trans leads')
      cases other.symm.trans same
    · exact given
  have origin_s := (traced.keys hs).resolve_left id
  have origin_t := (traced.keys ht).resolve_left id
  by_cases own : file.same s.key = true
  -- two slots with keys of their own would have one key, and the registry is apart
  · by_cases own' : other.same t.key = true
    · refine absurd ?_ differ
      have keyed : ∀ {k : SlotId} {x : Slot}, c.slots[k]? = some x → c.keys[k]? = some x.key :=
        fun h => by rw [keys, List.getElem?_map, h]; rfl
      refine sound.registered.apart hi hj (keyed hs) (keyed ht) ?_
      rw [Path.same_iff] at own own' same ⊢
      exact own.symm.trans (same.trans own')
    · rw [Bool.not_eq_true] at own'
      exact ⟨t.key, other, .inr rfl, given origin_t leads' own', leads', own'⟩
  · rw [Bool.not_eq_true] at own
    exact ⟨s.key, file, .inl rfl, given origin_s leads own, leads, own⟩

/-- Where paths lead: a stylesheet is reached through a link, too. -/
def throughLink (path : Path) : Except Error Path :=
  if path = ⟨"/link/a.css"⟩ then .ok ⟨"/real/a.css"⟩ else .ok path

/-- What a path leads to leads to itself. -/
theorem throughLink_throughLink {path file : Path} (leads : throughLink path = .ok file) :
    throughLink file = .ok file := by
  rw [throughLink] at leads
  split at leads
  · cases leads
    rfl
  · next other =>
      cases leads
      rw [throughLink, if_neg other]

/-- A project is opened by the name of a link, and then its stylesheet is asked for. -/
def openedThroughLink : List Event :=
  [.call (.openProject ⟨"/link"⟩),
    .answer 0 (.listing (.ok [⟨⟨"/link/a.css"⟩, "a.css", true, false⟩]))] ++ emptyFile 1 ++
    [.call (.create .css ⟨"/link/a.css"⟩ true), .answer 2 (.resolved (.ok ⟨"/real/a.css"⟩))] ++
    emptyFile 2

theorem lookups_openedThroughLink :
    ∀ x ∈ (new {} 0).lookups openedThroughLink, x.2 = throughLink x.1 := by
  have looked : ((new {} 0).lookups openedThroughLink).all
      (fun x => x.2 == throughLink x.1) = true := by
    decide +kernel
  exact fun x mem => eq_of_beq (List.all_eq_true.mp looked x mem)

theorem run_openedThroughLink : ∃ c, Run (new {} 0) openedThroughLink c ∧ c.isQuiet = true ∧
    c.registered = [0, 1] ∧ c.slots[0]? = some ⟨⟨"/link/a.css"⟩, .css, some 0⟩ ∧
    c.slots[1]? = some ⟨⟨"/real/a.css"⟩, .css, some 1⟩ := by
  have facts : ((new {} 0).replay? openedThroughLink).map (fun c =>
      (c.isQuiet, c.registered, c.slots[0]?, c.slots[1]?)) =
      some (true, [0, 1], some ⟨⟨"/link/a.css"⟩, .css, some 0⟩,
        some ⟨⟨"/real/a.css"⟩, .css, some 1⟩) := by
    decide +kernel
  obtain ⟨c, hc, eq⟩ := Option.map_eq_some_iff.mp facts
  simp only [Prod.mk.injEq] at eq
  exact ⟨c, run_iff_replay?.mpr hc, eq⟩

/-- The path that the scan came across was taken as it is. -/
theorem openedThroughLink_has_given_key :
    ∃ key file, (key = ⟨"/link/a.css"⟩ ∨ key = ⟨"/real/a.css"⟩) ∧
      key ∈ (new {} 0).givenAlong openedThroughLink ∧ throughLink key = .ok file ∧
      file.same key = false := by
  obtain ⟨c, run, -, registered, hs, ht⟩ := run_openedThroughLink
  exact keys_of_one_file run lookups_openedThroughLink
    (fun path file leads => ⟨file, throughLink_throughLink leads, Path.same_iff.mpr rfl⟩)
    (by simp [registered]) (by simp [registered]) hs ht (by decide) rfl rfl (by decide +kernel)

/-- Nothing is under way any more, and the stylesheet has two entries. -/
theorem one_file_has_two_keys :
    ∃ c s t file, Run (new {} 0) openedThroughLink c ∧ c.isQuiet = true ∧
      (∀ x ∈ (new {} 0).lookups openedThroughLink, x.2 = throughLink x.1) ∧
      (∀ path file, throughLink path = .ok file → throughLink file = .ok file) ∧
      0 ∈ c.registered ∧ 1 ∈ c.registered ∧ c.slots[0]? = some s ∧ c.slots[1]? = some t ∧
      s.key.same t.key = false ∧ throughLink s.key = .ok file ∧ throughLink t.key = .ok file := by
  obtain ⟨c, run, quiet, registered, hs, ht⟩ := run_openedThroughLink
  exact ⟨c, _, _, ⟨"/real/a.css"⟩, run, quiet, lookups_openedThroughLink,
    fun _ _ => throughLink_throughLink, by simp [registered], by simp [registered], hs, ht,
    by decide +kernel, rfl, rfl⟩

end SelectorCatalog.Catalog
