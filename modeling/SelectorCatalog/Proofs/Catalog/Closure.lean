import SelectorCatalog.Proofs.Catalog.Listening
import SelectorCatalog.Proofs.Catalog.Lookup
import SelectorCatalog.Proofs.Catalog.Source
import SelectorCatalog.Proofs.Entry.Links

/-!
# The stylesheets of a document

When nothing is under way, the stylesheets that a registered document links are registered, as far
as they are files: `links_are_registered`. A listener that falls behind loses events, but never the
last one, and it is the last one that brings the links that the document shows by then. From this
event on each of the links is looked up, and the file that it leads to is claimed, or found claimed,
even if by a document. What is removed or disposed of afterwards can be missing at the end, and so
can a file whose entry was disposed of before: as long as its own listener has not heard of that,
the file counts as registered and is not claimed anew (`stale_link_is_lost`).

That every link is looked up needs one thing more. Of links that name the same place one is looked
up for all, so two of them must not lead to different files. They do not, since links are paths in
normal form (`Work.Normal`), where one place has one text.
-/

namespace SelectorCatalog.Catalog

open Job (Outcome Purpose Plan Stage Leads Act)

/-- Whether all links, those found already and those shown, are paths in normal form. -/
structure Work.Normal (w : Work) : Prop where
  found : ∀ {j f}, w.fetch? j = some f → AreNormal f.stage.links
  shown : ∀ {id : EntryId} {e : Entry}, w.entries[id]? = some e → AreNormal e.dependencies

variable {events late : List Event} {event : Event} {v w : Work} {c d x y : Catalog} {id : EntryId}
  {job : JobId} {kind : EntryKind} {document path file link : Path}

/-! ## Links in normal form -/

namespace Work.Normal

theorem stride (h : v.Normal) (stride : Stride event v w) : w.Normal := by
  cases stride with
  | time | root => exact { h with }
  | add kind path scope =>
      refine ⟨h.found, fun he => ?_⟩
      rcases getElem?_concat he with he | ⟨-, rfl⟩
      · exact h.shown he
      · exact areNormal_nil
  | dispose disposals =>
      refine ⟨h.found, fun {id d} hd => ?_⟩
      obtain ⟨e, he, -⟩ := disposals.turns.origin hd
      have same := disposals.2 id e he
      rw [hd] at same
      rcases same with same | gone
      · exact Option.some.inj same ▸ h.shown he
      · obtain rfl : d = e.dispose := Option.some.inj gone
        rcases e.dependencies_dispose with none | keep
        · exact none ▸ areNormal_nil
        · exact keep.symm ▸ h.shown he
  | clear entry =>
      refine ⟨h.found, fun {id d} hd => ?_⟩
      rw [List.getElem?_modify] at hd
      obtain ⟨e, he, rfl⟩ := Option.map_eq_some_iff.mp hd
      split
      · exact areNormal_nil
      · exact h.shown he
  | begin _ there =>
      constructor
      · intro j f hf
        rcases update_some_cases hf with ⟨-, rfl⟩ | ⟨-, hf⟩
        · exact areNormal_nil
        · exact h.found hf
      · intro id d hd
        rcases getElem?_set_cases hd with ⟨-, rfl⟩ | ⟨-, hd⟩
        · rcases Entry.dependencies_beginFetch _ with none | same
          · exact none ▸ areNormal_nil
          · exact same ▸ h.shown there
        · exact h.shown hd

theorem reply (h : v.Normal) {a : Answer} (reply : Reply job a v w) : w.Normal := by
  cases reply with
  | advance under _ resumes =>
      refine ⟨fun hg => ?_, h.shown⟩
      rcases update_some_cases hg with ⟨-, rfl⟩ | ⟨-, hg⟩
      · exact Fetch.areNormal_resume (h.found under) resumes
      · exact h.found hg
  | fail => exact ⟨fun hg => h.found (update_none_some hg).2, h.shown⟩
  | land _ under at_ there installs =>
      refine ⟨fun hg => h.found (update_none_some hg).2, fun hd => ?_⟩
      rcases getElem?_set_cases hd with ⟨-, rfl⟩ | ⟨-, hd⟩
      · have found := h.found under
        rw [at_] at found
        exact Entry.areNormal_install (h.shown there) found installs
      · exact h.shown hd

end Work.Normal

theorem normal_step? (h : c.work.Normal) (step : c.step? event = some d) : d.work.Normal := by
  by_cases stop : ∃ i, event = .stopChecker i
  · obtain ⟨i, rfl⟩ := stop
    cases step
    obtain ⟨fetches, work, given⟩ := stopChecker_work c i
    rw [work]
    refine ⟨fun {j f} hf => ?_, h.shown⟩
    rcases given j with same | none
    · exact h.found (same.symm.trans hf)
    · cases none.symm.trans hf
  · obtain ⟨u, replied, strides⟩ := step?_passage step fun i eq => stop ⟨i, eq⟩
    have hu : u.Normal := by
      obtain ⟨rfl, -⟩ | ⟨_, _, -, reply⟩ := replied
      · exact h
      · exact h.reply reply
    exact strides.keep (fun _ _ h stride => h.stride stride) hu

/-- Along a run all links that are shown are in normal form. -/
theorem normal_of_run {config : Config} {clock : Time} (run : Run (new config clock) events c) :
    c.work.Normal := by
  refine run.invariant (p := fun c => c.work.Normal) (fun _ _ _ h step => normal_step? h step) ?_
  constructor <;> simp [work, new, fetch?, stage?]

/-- The links that an entry shows are the last that it has told. -/
theorem hasTold_of_run {config : Config} {clock : Time} (run : Run (new config clock) events c)
    {e : Entry} (he : c.entries[id]? = some e) : e.HasTold := by
  obtain ⟨kind, path, scope, turned⟩ := (ages_of_run run).new he rfl
  exact turned.hasTold (.inl rfl)

/-- A link of a document is looked up for itself. -/
theorem mem_distinct_of_normal {links : List Path} (normal : AreNormal links) (mem : link ∈ links) :
    link ∈ distinct links := by
  obtain ⟨kept, among, same⟩ := exists_same_in_distinct mem
  obtain rfl := Path.eq_of_same (normal link mem) (normal kept (mem_of_mem_distinct among)) same
  exact among

/-! ## The last event of a document is heard -/

/-- A catalogue that is held was held before. -/
theorem Move.held {may : JobId → Act → Prop} (h : Move may c d) (up : d.held = true) :
    c.held = true := by
  cases h with
  | ambient _ _ _ _ _ _ held => exact held up
  | conclude => rwa [concluded_held] at up
  | enlist | stage | join | entries | standalone | claim | evict | hear | leave | retire => exact up

/-- A catalogue that is held has been held all the time. -/
theorem held_of_run (run : Run c events d) (up : d.held = true) : c.held = true := by
  induction run with
  | nil => exact up
  | @cons c c' d event events step _ ih =>
      by_cases stop : ∃ i, event = .stopChecker i
      · obtain ⟨i, rfl⟩ := stop
        cases step
        have up := ih up
        rw [stopChecker] at up
        split at up <;> exact up
      · have back := (step?_moves step fun i eq => stop ⟨i, eq⟩).keep
          (p := fun b => b.held = true → c.held = true)
          (fun _ _ back move up => back (move.held up)) id
        exact back (ih up)

/-- When nothing is under way, the listener of a registered entry has heard all that the entry has
told. -/
theorem Sound.seen_of_quiet (sound : Sound c) (quiet : c.isQuiet = true) (held : c.held = true)
    {i : SlotId} (mem : i ∈ c.registered) {l : Listener} {e : Entry}
    (hl : c.listeners[i]? = some l) (he : c.entries[l.entry]? = some e) :
    l.seen = e.sent.length := by
  refine Nat.le_antisymm (sound.heard.seen_le hl he) (Nat.le_of_not_lt fun lt => ?_)
  exact (sound.heard.ended hl (closed_of_quiet quiet hl he lt) held he).2 mem

/-! ## What a link leads to -/

/-- A file that is asked for is registered after that, as whatever it may be, unless it is discarded
or was found disposed of. -/
theorem find?_of_ask (sound : Sound x) (supervised : Supervised x)
    (waits : x.stage? job = some (.resolving kind path))
    (step : x.step? (.answer job (.resolved (.ok file))) = some y) (run : Run y late c) :
    (∃ i s, c.find? file = some (i, s)) ∨
      x.discarded file (.answer job (.resolved (.ok file)) :: late) = true ∨
      x.isStaleAt file = true := by
  cases found : x.find? file with
  | some found' =>
      obtain ⟨i, s⟩ := found'
      rcases find?_of_run (.cons step run) sound supervised found with ⟨t, found, -⟩ | lost
      · exact .inl ⟨i, t, found⟩
      · exact .inr lost
  | none =>
      have sound_y := supervised.sound_step? sound step
      have eq : y = x.opened job kind file := by
        rw [step?_resolved waits step]
        exact createAt_of_none found job kind true
      have opened : y.find? file = some (x.slots.length, ⟨file, kind, none⟩) := by
        refine sound_y.find? ?_ ?_ (Path.same_iff.mpr rfl)
        · rw [eq]
          exact List.mem_append_right _ (List.mem_singleton.mpr rfl)
        · rw [eq]
          exact List.getElem?_concat_length
      rw [discarded_cons step]
      rcases find?_of_run run sound_y (supervised.step? sound step) opened with
        ⟨t, found, -⟩ | lost | stale
      · exact .inl ⟨_, t, found⟩
      · exact .inr (.inl (by rw [lost, Bool.or_true]))
      · rcases isStaleAt_step? sound supervised step stale with stale | now
        · exact .inr (.inr stale)
        · exact .inr (.inl (by rw [now]; rfl))

/-- What is registered when nothing is under way is there as a stylesheet or as a document. -/
theorem Sound.entryOf?_of_find? (sound : Sound c) (quiet : c.isQuiet = true) (held : c.held = true)
    {i : SlotId} {s : Slot} (found : c.find? path = some (i, s)) :
    (c.entryOf? .css path).isSome ∨ (c.entryOf? .html path).isSome := by
  obtain ⟨mem, hs, -⟩ := find?_some found
  obtain ⟨t, id, e, ht, filled, -⟩ := sound.live_of_registered quiet held mem
  obtain rfl := Option.some.inj (hs.symm.trans ht)
  cases kind : s.kind with
  | css => exact .inl (by simp [entryOf?, found, kind, filled])
  | html => exact .inr (by simp [entryOf?, found, kind, filled])

/-- A path that a job has set about looking up is answered by the time that nothing is under way. -/
theorem registered_of_lookup (run : Run c events d) (sound : Sound c) (supervised : Supervised c)
    (quiet : d.isQuiet = true) (held : d.held = true)
    (waits : c.stage? job = some (.resolving kind path)) {files : Path → Except Error Path}
    (steady : ∀ p ∈ c.lookups events, p.2 = files p.1) (leads : files path = .ok file) :
    (d.entryOf? .css file).isSome ∨ (d.entryOf? .html file).isSome ∨
      c.discarded file events = true ∨ c.isStaleAt file = true := by
  rcases answered_of_run run sound supervised waits with
    still | ⟨early, result, late, x, y, rfl, first, hx, step, rest⟩
  · obtain ⟨t, ht, stage⟩ := Option.map_eq_some_iff.mp still
    have ended := (isQuiet_iff.mp quiet).1 t (List.mem_of_getElem? ht)
    rw [Job.isDone, Job.outcome?, stage] at ended
    cases ended
  · have answer := steady (path, result) (mem_lookups first step (by simp [lookup?, hx]))
    obtain rfl : result = .ok file := answer.trans leads
    obtain ⟨sound_x, supervised_x⟩ := sound_along first sound supervised
    rw [discarded_append first]
    rcases find?_of_ask sound_x supervised_x hx step rest with ⟨i, s, found⟩ | lost | stale
    · have sound_d := (sound_along run sound supervised).1
      exact (sound_d.entryOf?_of_find? quiet held found).imp_right .inl
    · exact .inr (.inr (.inl (by rw [lost, Bool.or_true])))
    · rcases isStaleAt_of_run first sound supervised stale with stale | before
      · exact .inr (.inr (.inr stale))
      · exact .inr (.inr (.inl (by rw [before]; rfl)))

/-- Any run that comes to rest while paths lead where `files` says, and any registered document that
shows links by then. Its listener has come to the last event that the document has told, which
brings just these links, however many events it has lost before. Each link that leads to a file is
registered at the end as a stylesheet or a document, unless it is removed or disposed of after the
listener has set about this event, or is registered by then with an entry that was disposed of
before, whose own listener has yet to hear of it. -/
theorem links_are_registered {config : Config} {clock : Time}
    {files : Path → Except Error Path} {e : Entry} (run : Run (new config clock) events c)
    (steady : ∀ p ∈ (new config clock).lookups events, p.2 = files p.1)
    (quiet : c.isQuiet = true) (held : c.held = true)
    (found : c.entryOf? .html document = some id) (he : c.entries[id]? = some e)
    (links : e.dependencies ≠ []) :
    ∃ early n late x y, events = early ++ .listen n :: late ∧ Run (new config clock) early x ∧
      x.listen? n = some y ∧ Run y late c ∧
      x.upcoming? n = some (id, .fetchComplete e.dependencies, e.sent.length) ∧
      ∀ link ∈ e.dependencies, ∀ file, files link = .ok file →
        (c.entryOf? .css file).isSome ∨ (c.entryOf? .html file).isSome ∨
          y.discarded file late = true ∨ y.isStaleAt file = true := by
  -- the last event of the entry tells of these links, and at rest its listener has heard all
  obtain ⟨sound, -⟩ := sound_of_run run
  obtain ⟨i, s, at_, -, filled⟩ := find?_of_entryOf? found
  obtain ⟨mem, hs, -⟩ := find?_some at_
  obtain ⟨l, e', hl, rfl, he', -⟩ := sound.filled hs filled
  obtain rfl := Option.some.inj (he.symm.trans he')
  have told : e.sent.getLast? = some (.fetchComplete e.dependencies) :=
    (hasTold_of_run run he).resolve_left links
  have seen := sound.seen_of_quiet quiet held mem hl he
  have pos : 0 < l.seen := by
    rw [seen]
    exact List.length_pos_of_mem (List.mem_of_getLast? told)
  obtain ⟨early, late, x, y, event, rfl, first, listens, rest, next⟩ :=
    heard_of_run run rfl hl pos
  have step : x.step? (.listen i) = some y := listens
  obtain ⟨sound_x, supervised_x⟩ := sound_of_run first
  -- the listener has heard it as the last event of the entry
  obtain rfl : event = .fetchComplete e.dependencies := by
    obtain ⟨m, hm, next⟩ := Option.bind_eq_some_iff.mp next
    obtain ⟨b, hb, next⟩ := Option.bind_eq_some_iff.mp next
    obtain ⟨⟨heard, count⟩, received, eq⟩ := Option.bind_eq_some_iff.mp next
    simp only [Option.pure_def, Option.some.injEq, Prod.mk.injEq] at eq
    obtain ⟨same, rfl, rfl⟩ := eq
    obtain ⟨e', he', turned⟩ := (ages_of_run (.cons step rest)).old hb
    rw [same] at he'
    obtain rfl := Option.some.inj (he.symm.trans he')
    rw [seen] at received
    exact Option.some.inj ((turned.last_of_receive? received).symm.trans told)
  refine ⟨early, i, late, x, y, rfl, first, listens, rest, seen ▸ next,
    fun link among file leads => ?_⟩
  have alive : x.isAlive = true := by
    rw [isAlive, held_of_run (.cons step rest) held]
    rfl
  -- the listener looks up each of the links, and what it finds is registered
  obtain ⟨job, -, waits⟩ := listen?_looks_up listens next alive
    (mem_distinct_of_normal ((normal_of_run run).shown he) among)
  refine registered_of_lookup rest (supervised_x.sound_step? sound_x step)
    (supervised_x.step? sound_x step) quiet held waits (fun p mem => steady p ?_) leads
  refine mem_lookups_append first ?_
  rw [lookups, step]
  exact List.mem_append_right _ mem

/-- A document is fetched that links one stylesheet. -/
def linkFetched (job : JobId) (name : String) : List Event :=
  [.answer job (.stat (.ok ⟨0, 31⟩)),
    .answer job (.text (.ok ("<link rel=stylesheet href=" ++ name ++ ">"))), .answer job .built]

/-- The only file that a link of the document leads to. -/
def onlyB (path : Path) : Except Error Path :=
  if path = ⟨"/b.css"⟩ then .ok path else .error (.notFound path)

/-- The listener of a document looks a first link up while the document is fetched seventeen times:
one event more than are kept. Only the last of them brings a link that leads to a file. -/
def fallsBehind : List Event :=
  .call (.create .html ⟨"/i.html"⟩ false) :: linkFetched 0 "a.css" ++ .listen 0 ::
    (List.range' 3 16).flatMap (fun job => .call (.fetch 0) :: linkFetched job "a.css") ++
    .call (.fetch 0) :: linkFetched 19 "b.css"

/-- The listener receives what has been kept for it. -/
def catchesUp : List Event :=
  .answer 2 (.resolved (onlyB ⟨"/a.css"⟩)) ::
    (List.range' 21 15 2).flatMap
      (fun job => [.listen 0, .answer job (.resolved (onlyB ⟨"/a.css"⟩))]) ++
    [.listen 0, .answer 51 (.resolved (onlyB ⟨"/b.css"⟩))] ++ emptyFile 51

/-- The link of the last event is attached, though an event before it was lost. -/
theorem fallsBehind_loses_no_link :
    ∃ c e, Run (new {} 0) (fallsBehind ++ catchesUp) c ∧ c.entries[0]? = some e ∧
      e.sent.length = 18 ∧
      ∃ early n late x y, fallsBehind ++ catchesUp = early ++ .listen n :: late ∧
        Run (new {} 0) early x ∧ x.listen? n = some y ∧ Run y late c ∧
        x.upcoming? n = some (0, .fetchComplete [⟨"/b.css"⟩], 18) ∧
        ((c.entryOf? .css ⟨"/b.css"⟩).isSome ∨ (c.entryOf? .html ⟨"/b.css"⟩).isSome ∨
          y.discarded ⟨"/b.css"⟩ late = true ∨ y.isStaleAt ⟨"/b.css"⟩ = true) := by
  -- what is looked up leads to the same file each time
  have steady : ((new {} 0).lookups (fallsBehind ++ catchesUp)).all
      (fun p => p.2 == onlyB p.1) = true := by
    decide +kernel
  have facts : ((new {} 0).replay? (fallsBehind ++ catchesUp)).bind (fun c =>
      (c.entries[0]?).map fun e => (c.isQuiet, c.held, c.entryOf? .html ⟨"/i.html"⟩,
        e.dependencies, e.sent.length)) =
      some (true, true, some 0, [⟨"/b.css"⟩], 18) := by
    decide +kernel
  obtain ⟨c, hc, facts⟩ := Option.bind_eq_some_iff.mp facts
  obtain ⟨e, he, eq⟩ := Option.map_eq_some_iff.mp facts
  simp only [Prod.mk.injEq] at eq
  obtain ⟨quiet, held, found, links, told⟩ := eq
  have run := run_iff_replay?.mpr hc
  -- the general theorem, with the event that told of the links
  obtain ⟨early, n, late, x, y, eq, first, listens, rest, next, closed⟩ :=
    links_are_registered run (fun p mem => eq_of_beq (List.all_eq_true.mp steady p mem)) quiet held
      found he (by simp [links])
  rw [links, told] at next
  exact ⟨c, e, run, he, told, early, n, late, x, y, eq, first, listens, rest, next,
    closed ⟨"/b.css"⟩ (by simp [links]) ⟨"/b.css"⟩ rfl⟩

/-- A stylesheet and a document that links it are fetched, and then the stylesheet is disposed of.
-/
def disposedBeforeLinked : List Event :=
  .call (.create .css ⟨"/a.css"⟩ false) :: emptyFile 0 ++
    .call (.create .html ⟨"/i.html"⟩ false) :: linkFetched 1 "a.css" ++ [.disposeEntry 0]

/-- The link is looked up and leads to the stylesheet, whose own listener hears of the disposal only
after that. -/
def unregistersLinked : List Event :=
  [.answer 3 (.resolved (.ok ⟨"/a.css"⟩)), .listen 0]

/-- A linked file is not registered in the end, though it is not removed, and was disposed of before
the listener has set about the links. -/
theorem stale_link_is_lost :
    ∃ x y c e, Run (new {} 0) disposedBeforeLinked x ∧ x.listen? 1 = some y ∧
      Run y unregistersLinked c ∧
      (∀ p ∈ (new {} 0).lookups (disposedBeforeLinked ++ .listen 1 :: unregistersLinked),
        p.2 = .ok p.1) ∧
      c.isQuiet = true ∧ c.held = true ∧ c.entryOf? .html ⟨"/i.html"⟩ = some 1 ∧
      c.entries[1]? = some e ∧ e.dependencies = [⟨"/a.css"⟩] ∧
      x.upcoming? 1 = some (1, .fetchComplete e.dependencies, e.sent.length) ∧
      c.entryOf? .css ⟨"/a.css"⟩ = none ∧ c.entryOf? .html ⟨"/a.css"⟩ = none ∧
      y.discarded ⟨"/a.css"⟩ unregistersLinked = false := by
  -- every lookup names its own path, so it is no link that leads elsewhere
  have looked : ((new {} 0).lookups (disposedBeforeLinked ++ .listen 1 :: unregistersLinked)).all
      (fun p => p.2 == .ok p.1) = true := by
    decide +kernel
  have facts : ((new {} 0).replay? disposedBeforeLinked).bind (fun x => (x.listen? 1).bind fun y =>
      (y.replay? unregistersLinked).bind fun c => (c.entries[1]?).map fun e =>
        ((c.isQuiet && c.held, c.entryOf? .html ⟨"/i.html"⟩, e.dependencies),
          x.upcoming? 1 == some (1, .fetchComplete e.dependencies, e.sent.length),
          c.entryOf? .css ⟨"/a.css"⟩, c.entryOf? .html ⟨"/a.css"⟩,
          y.discarded ⟨"/a.css"⟩ unregistersLinked)) =
      some ((true, some 1, [⟨"/a.css"⟩]), true, none, none, false) := by
    decide +kernel
  obtain ⟨x, hx, facts⟩ := Option.bind_eq_some_iff.mp facts
  obtain ⟨y, hy, facts⟩ := Option.bind_eq_some_iff.mp facts
  obtain ⟨c, hc, facts⟩ := Option.bind_eq_some_iff.mp facts
  obtain ⟨e, he, eq⟩ := Option.map_eq_some_iff.mp facts
  simp only [Prod.mk.injEq, Bool.and_eq_true] at eq
  obtain ⟨⟨⟨quiet, held⟩, document, links⟩, heard, css, html, kept⟩ := eq
  exact ⟨x, y, c, e, run_iff_replay?.mpr hx, hy, run_iff_replay?.mpr hc,
    fun p mem => eq_of_beq (List.all_eq_true.mp looked p mem), quiet, held, document, he, links,
    eq_of_beq heard, css, html, kept⟩

end SelectorCatalog.Catalog
