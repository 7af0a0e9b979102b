import SelectorCatalog.Proofs.Catalog.Handout

/-!
# Where paths lead

A path that is not known to be a file is looked up before an entry is created for it: the host says
which file it leads to, and the entry is that of this file. `lookups` lists what was looked up along
a run, with the answers.

* `answered_of_run`: a job that looks a path up waits until it is answered.
* `entry_of_lookup`: the entry that it comes to, if any, is that of the file it was told of.
* `find?_of_run`: what is found at a path is found there ever after, unless it is removed or
  disposed of on the way (`discarded`), or had been disposed of before (`isStaleAt`).
-/

namespace SelectorCatalog.Catalog

open Job (Outcome Purpose Plan Stage Leads Act)

/-- The path that an event brings the answer for, and the answer. -/
def lookup? (c : Catalog) : Event → Option (Path × Except Error Path)
  | .answer job (.resolved result) =>
    match c.stage? job with
    | some (.resolving _ path) => some (path, result)
    | _ => none
  | _ => none

/-- All paths that are looked up along a list of events, with the answers. -/
def lookups (c : Catalog) : List Event → List (Path × Except Error Path)
  | [] => []
  | event :: events =>
    match c.step? event with
    | some d => (c.lookup? event).toList ++ d.lookups events
    | none => []

/-- Whether an entry is disposed of. -/
def isGone (c : Catalog) (id : EntryId) : Bool :=
  (c.entries[id]?).any Entry.isDisposed

/-- The entry that was made for what is found at a path, be its construction over or not. -/
def ownerAt? (c : Catalog) (path : Path) : Option EntryId :=
  (c.find? path).bind fun (i, _) => c.owners[i]?

/-- Whether what is found at a path is disposed of already: its own listener has yet to hear of it.
-/
def isStaleAt (c : Catalog) (path : Path) : Bool :=
  (c.ownerAt? path).any c.isGone

/-- Whether an event is that a listener receives something. -/
def Event.isListen : Event → Bool
  | .listen _ => true
  | _ => false

/-- Whether an event removes what is found at a path, or disposes of it. A listener does neither
when it takes its slot out of the registry: that follows a disposal which was made before. -/
def discards (c d : Catalog) (event : Event) (path : Path) : Bool :=
  (!event.isListen && (c.find? path).any fun (i, _) => !d.isRegistered i) ||
    (d.ownerAt? path).any fun id => d.isGone id && !c.isGone id

/-- Whether what is found at a path is removed or disposed of along a list of events. -/
def discarded (c : Catalog) (path : Path) : List Event → Bool
  | [] => false
  | event :: events =>
    match c.step? event with
    | some d => c.discards d event path || d.discarded path events
    | none => false

variable {events early late : List Event} {event : Event} {c d x y : Catalog} {job : JobId}
  {kind : EntryKind} {path : Path} {i : SlotId} {id : EntryId} {a : Ask}

/-! ## Lookups -/

/-- What is looked up in the second part of a run is looked up in the whole of it. -/
theorem mem_lookups_append {more : List Event} (run : Run c events d)
    {p : Path × Except Error Path} (mem : p ∈ d.lookups more) : p ∈ c.lookups (events ++ more) := by
  induction run with
  | nil => exact mem
  | cons step _ ih =>
      rw [List.cons_append, lookups, step]
      exact List.mem_append_right _ (ih mem)

/-- What is looked up on the way is among the lookups of the run. -/
theorem mem_lookups (run : Run c early x) (step : x.step? event = some y)
    {p : Path × Except Error Path} (asked : x.lookup? event = some p) :
    p ∈ c.lookups (early ++ event :: late) := by
  refine mem_lookups_append run ?_
  rw [lookups, step]
  exact List.mem_append_left _ (by simp [asked])

/-- A job that looks a path up waits for the answer whatever else happens: it is no check, so that
no checker takes it along. -/
theorem answered_of_run (run : Run c events d) (sound : Sound c) (supervised : Supervised c)
    (waits : c.stage? job = some (.resolving kind path)) :
    d.stage? job = some (.resolving kind path) ∨
      ∃ early result late x y, events = early ++ .answer job (.resolved result) :: late ∧
        Run c early x ∧ x.stage? job = some (.resolving kind path) ∧
        x.step? (.answer job (.resolved result)) = some y ∧ Run y late d := by
  induction run with
  | nil => exact .inl waits
  | @cons c c' d event events step run ih =>
      have later : c'.stage? job = some (.resolving kind path) →
          d.stage? job = some (.resolving kind path) ∨
            ∃ early result late x y, event :: events =
                early ++ .answer job (.resolved result) :: late ∧ Run c early x ∧
              x.stage? job = some (.resolving kind path) ∧
              x.step? (.answer job (.resolved result)) = some y ∧ Run y late d := by
        intro same
        rcases ih (supervised.sound_step? sound step) (supervised.step? sound step) same with
          waits | ⟨early, result, late, x, y, rfl, first, hx, step', rest⟩
        · exact .inl waits
        · exact .inr ⟨event :: early, result, late, x, y, rfl, .cons step first, hx, step', rest⟩
      -- the job waits until an answer comes; a stopped checker gives up checks alone
      cases step?_fares step waits with
      | stays same => exact later same
      | stopped n eq given =>
          subst eq
          cases step
          rcases supervised.stage?_stopChecker n waits with same | ⟨check, -⟩
          · exact later same
          · cases check
      | answered answer eq expected _ =>
          subst eq
          cases answer with
          | resolved result =>
              exact .inr ⟨[], result, events, c, c', rfl, .nil c, waits, step, run⟩
          | _ => simp [expects, waits] at expected
      | woken entry _ awaits => cases awaits
      | joins parts plan joining => cases joining

/-! ## The entry of a file -/

/-- A job has come to no entry, and will come to none. -/
def Misses (c : Catalog) (job : JobId) : Prop :=
  ∃ outcome, c.stage? job = some (.done outcome) ∧ ∀ id, outcome ≠ .entry (some id)

/-- A job that misses its path keeps missing it. -/
theorem Misses.step? (h : c.Misses job) (step : c.step? event = some d) : d.Misses job := by
  obtain ⟨outcome, ended, none⟩ := h
  rcases done_step? step ended with same | given
  · exact ⟨outcome, same, none⟩
  · exact ⟨.unit, given, nofun⟩

/-- So it is along a run. -/
theorem Misses.of_run (run : Run c events d) (h : c.Misses job) : d.Misses job :=
  run.invariant (p := fun b => b.Misses job) (fun _ _ _ h step => h.step? step) h

/-- A job that misses its path hands nothing out. -/
theorem Misses.elim (h : c.Misses job) (came : c.stage? job = some (.done (.entry (some id)))) :
    False := by
  obtain ⟨outcome, ended, none⟩ := h
  cases ended.symm.trans came
  exact none id rfl

/-- A job that has a slot and comes to an entry has the slot still. -/
theorem Pursues.of_run (run : Run c events d) (sound : Sound c) (supervised : Supervised c)
    (pursues : c.Pursues a i) (came : d.stage? a.job = some (.done (.entry (some id)))) :
    d.Pursues a i := by
  have kept : Sound d ∧ Supervised d ∧ (d.Pursues a i ∨ d.Misses a.job) := by
    refine run.invariant (p := fun b => Sound b ∧ Supervised b ∧ (b.Pursues a i ∨ b.Misses a.job))
      ?_ ⟨sound, supervised, .inl pursues⟩
    rintro b event b' ⟨sound, supervised, asked⟩ step
    refine ⟨supervised.sound_step? sound step, supervised.step? sound step, ?_⟩
    rcases asked with pursues | missed
    · exact (pursues.step? sound step).imp_right fun given => ⟨.unit, given, nofun⟩
    · exact .inr (missed.step? step)
  exact kept.2.2.resolve_right fun missed => missed.elim came

/-- The answer to a job that looks a path up makes it ask for the file. -/
theorem step?_resolved {file : Path} (waits : x.stage? job = some (.resolving kind path))
    (step : x.step? (.answer job (.resolved (.ok file))) = some y) :
    y = (⟨x, job, kind, file, true⟩ : Ask).next := by
  rw [step?, if_pos (by simp [expects, waits])] at step
  rw [← Option.some.inj step]
  simp only [resume, waits]
  rfl

/-- Where there is no file, there is no entry. -/
theorem misses_of_unresolved {error : Error} (waits : x.stage? job = some (.resolving kind path))
    (step : x.step? (.answer job (.resolved (.error error))) = some y) : y.Misses job := by
  rw [step?, if_pos (by simp [expects, waits])] at step
  refine ⟨.entry none, ?_, by simp⟩
  rw [← Option.some.inj step]
  simp only [resume, waits]
  exact stage?_complete (c := x.notify _) (Option.isSome_of_eq_some waits) _

/-- The entry that a job comes to after it has looked a path up is that of the file it was told of.
-/
theorem entry_of_lookup (run : Run c events d) (sound : Sound c) (supervised : Supervised c)
    (waits : c.stage? job = some (.resolving kind path))
    (came : d.outcome? job = some (.entry (some id))) :
    ∃ (file : Path) (i : SlotId) (s : Slot) (e : Entry), (path, .ok file) ∈ c.lookups events ∧
      d.slots[i]? = some s ∧ s.entry = some id ∧ d.entries[id]? = some e ∧ e.kind = kind ∧
      e.path = s.key ∧ e.path.same file = true := by
  have ended := stage?_of_outcome? came
  rcases answered_of_run run sound supervised waits with
    still | ⟨early, result, late, x, y, rfl, first, hx, step, rest⟩
  · cases still.symm.trans ended
  obtain ⟨sound_x, supervised_x⟩ := sound_along first sound supervised
  cases result with
  | error error => exact ((misses_of_unresolved hx step).of_run rest |>.elim ended).elim
  | ok file =>
      have mem : (path, .ok file) ∈
          c.lookups (early ++ .answer job (.resolved (.ok file)) :: late) :=
        mem_lookups first step (by simp [lookup?, hx])
      obtain rfl := step?_resolved hx step
      rcases Ask.gets_or_refused (a := ⟨x, job, kind, file, true⟩) hx with ⟨i, gets⟩ | refused
      · obtain ⟨⟨s, hs, kind_eq, same⟩, t, ht, serves⟩ :=
          (Ask.pursues_next (a := ⟨x, job, kind, file, true⟩) sound_x hx rfl gets).of_run rest
            (supervised_x.sound_step? sound_x step) (supervised_x.step? sound_x step) ended
        obtain ⟨s', hs', filled⟩ := Option.bind_eq_some_iff.mp (serves.held?_of_outcome ht came)
        obtain rfl := Option.some.inj (hs.symm.trans hs')
        obtain ⟨l, e, -, -, he, -, kind', path'⟩ :=
          (sound_along run sound supervised).1.filled hs filled
        exact ⟨file, i, s, e, mem, hs, filled, he, kind'.trans kind_eq, path', path' ▸ same⟩
      · exact ((Misses.of_run rest ⟨_, refused, nofun⟩).elim ended).elim

/-! ## What is found at a path -/

/-- The slot of an entry that is found at a path as one of its kind. -/
theorem find?_of_entryOf? (found : c.entryOf? kind path = some id) :
    ∃ (i : SlotId) (s : Slot), c.find? path = some (i, s) ∧ s.kind = kind ∧ s.entry = some id := by
  obtain ⟨⟨i, s⟩, at_, held⟩ := Option.bind_eq_some_iff.mp found
  obtain ⟨same, filled⟩ := Option.ite_none_right_eq_some.mp held
  exact ⟨i, s, at_, eq_of_beq same, filled⟩

/-- A path is discarded at once or later. -/
theorem discarded_cons (step : c.step? event = some d) :
    c.discarded path (event :: events) = (c.discards d event path || d.discarded path events) := by
  rw [discarded, step]

/-- What is discarded in a part of a run is discarded in the whole of it. -/
theorem discarded_append (run : Run c early x) :
    c.discarded path (early ++ late) = (c.discarded path early || x.discarded path late) := by
  induction run with
  | nil => rfl
  | cons step _ ih =>
      rw [List.cons_append, discarded_cons step, discarded_cons step, ih, Bool.or_assoc]

/-- An entry is gone when it is disposed of. -/
theorem isGone_iff : c.isGone id = true ↔ ∃ e, c.entries[id]? = some e ∧ e.isDisposed = true := by
  rw [isGone, Option.any_eq_true]

/-- What an event makes stale it disposes of. -/
theorem isStaleAt_step? (sound : Sound c) (supervised : Supervised c)
    (step : c.step? event = some d) (stale : d.isStaleAt path = true) :
    c.isStaleAt path = true ∨ c.discards d event path = true := by
  obtain ⟨id, owner, gone⟩ := (Option.any_eq_true ..).mp stale
  by_cases before : c.isGone id = true
  · -- the entry was disposed of before, and so its slot was there, too
    left
    obtain ⟨⟨i, t⟩, found, own⟩ := Option.bind_eq_some_iff.mp owner
    obtain ⟨mem, ht, same⟩ := find?_some found
    have lasts := slotsLast_step? sound supervised step
    have sound_d := supervised.sound_step? sound step
    obtain ⟨e, he, -⟩ := isGone_iff.mp before
    obtain ⟨e', he', scope, -⟩ := sound_d.owned.made own ht
    have own_c : c.owners[i]? = some id := by
      obtain ⟨x, hx, same⟩ := entry_step? step he
      obtain rfl := Option.some.inj (hx.symm.trans he')
      obtain ⟨j, hj⟩ := List.getElem?_of_mem (sound.owned.mem he (same.scope.symm.trans scope))
      obtain ⟨more, eq⟩ := lasts.owners
      have later : d.owners[j]? = some id := eq ▸ getElem?_append_some more hj
      obtain rfl : j = i := by
        refine (List.getElem?_inj ?_ sound_d.owned.nodup).mp (later.trans own.symm)
        exact (List.getElem?_eq_some_iff.mp later).1
      exact hj
    have lt : i < c.slots.length :=
      sound.owned.length_eq ▸ (List.getElem?_eq_some_iff.mp own_c).1
    obtain ⟨u, hu, later⟩ := lasts.slot (List.getElem?_eq_getElem lt)
    obtain rfl := Option.some.inj (hu.symm.trans ht)
    have found_c : c.find? path = some (i, c.slots[i]) :=
      sound.find? (mem_registered_step? step mem lt) (List.getElem?_eq_getElem lt)
        (later.key ▸ same)
    simp [isStaleAt, ownerAt?, found_c, own_c, before]
  · right
    rw [discards, owner]
    simp [gone, before]

theorem isStaleAt_of_run (run : Run c events d) (sound : Sound c) (supervised : Supervised c)
    (stale : d.isStaleAt path = true) :
    c.isStaleAt path = true ∨ c.discarded path events = true := by
  induction run with
  | nil => exact .inl stale
  | cons step _ ih =>
      rw [discarded_cons step]
      rcases ih (supervised.sound_step? sound step) (supervised.step? sound step) stale with
        stale | later
      · exact (isStaleAt_step? sound supervised step stale).imp_right fun now => by rw [now]; rfl
      · exact .inr (by rw [later, Bool.or_true])

/-- What is found at a path is found there ever after, unless it is discarded on the way or had been
disposed of before. -/
theorem find?_of_run (run : Run c events d) (sound : Sound c) (supervised : Supervised c) {s : Slot}
    (found : c.find? path = some (i, s)) :
    (∃ t, d.find? path = some (i, t) ∧ s.Later t) ∨ c.discarded path events = true ∨
      c.isStaleAt path = true := by
  induction run generalizing s with
  | nil => exact .inl ⟨s, found, .refl s⟩
  | @cons c c' _ event events step run ih =>
      obtain ⟨mem, hs, same⟩ := find?_some found
      obtain ⟨t, ht, later⟩ := (slotsLast_step? sound supervised step).slot hs
      have sound' := supervised.sound_step? sound step
      rw [discarded_cons step]
      by_cases stays : i ∈ c'.registered
      · have found' : c'.find? path = some (i, t) :=
          sound'.find? stays ht (by rw [later.key]; exact same)
        rcases ih sound' (supervised.step? sound step) found' with
          ⟨u, found, later'⟩ | lost | stale
        · exact .inl ⟨u, found, later.trans later'⟩
        · exact .inr (.inl (by rw [lost, Bool.or_true]))
        · rcases isStaleAt_step? sound supervised step stale with stale | now
          · exact .inr (.inr stale)
          · exact .inr (.inl (by rw [now]; rfl))
      · have out : c'.isRegistered i = false := by simpa [isRegistered] using stays
        by_cases listens : ∃ n, event = .listen n
        · -- a listener follows the disposal of its own entry
          obtain ⟨n, rfl⟩ := listens
          obtain ⟨-, id, e, own, he, gone⟩ := sound.listen?_registered step mem stays
          refine .inr (.inr ?_)
          simp [isStaleAt, ownerAt?, found, own, isGone, he, gone]
        · have quiet : event.isListen = false := by
            cases event with
            | listen n => exact absurd ⟨n, rfl⟩ listens
            | _ => rfl
          exact .inr (.inl (by simp [discards, quiet, found, out]))

end SelectorCatalog.Catalog
