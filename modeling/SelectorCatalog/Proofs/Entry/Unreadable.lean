import SelectorCatalog.Proofs.Entry.Pairing

/-!
# A document that cannot be read any more

A document is emptied when a fetch of it is started. If that fetch ends without a text, it leaves
the document empty but does nothing else: a fetch that was started earlier is not held up by it, and
brings names and links in again when it ends well afterwards.

`unread_leaves_what_lands_late` says what a document holds when the fetch that was started last has
not got a text: what the last of the earlier fetches to land has found, and nothing when none of
them lands any more. `refilled` is a run in which one does.
-/

namespace SelectorCatalog

namespace Flight

/-- Whether a fetch has ended without a text: the file could not be asked for its size, was too
large, or could not be read. -/
def isUnread (x : Flight) : Bool :=
  match x.result, x.fetch.stage with
  | some (.error _), .stat | some (.error _), .read _ => true
  | _, _ => false

/-- A fetch that has ended without a text has found nothing. -/
theorem finding?_of_isUnread {x : Flight} (h : x.isUnread = true) : x.finding? = none := by
  rw [isUnread] at h
  split at h
  · next failed _ => rw [finding?, failed]
  · next failed _ => rw [finding?, failed]
  · cases h

end Flight

namespace Overlap

/-- Whether an event is an answer to a fetch. -/
def Event.isAnswer : Event → Bool
  | answer .. => true
  | start _ | clear | dispose => false

/-- Whether a document has neither names nor links. -/
def IsBare (e : Entry) : Prop :=
  e.index = .empty ∧ e.dependencies = []

instance (e : Entry) : Decidable (IsBare e) :=
  inferInstanceAs (Decidable (_ ∧ _))

/-- What a document holds that was bare a while ago: of the fetches `ends` that have ended well
since, those count that no later-started fetch has come before, be it one of them or one of the
fetches up to number `base`. The last of these has brought in what is there. -/
structure Refilled (base : Nat) (ends : List (Nat × Entry.Finding)) (o : Overlap) : Prop where
  bare : unsuperseded base ends = [] → IsBare o.entry
  holds : ∀ n found, (unsuperseded base ends).getLast? = some (n, found) → Holds o.entry found

variable {path : Path} {scope : Scope} {id : EntryId} {limit : Nat} {o o' : Overlap}
  {early ends : List (Nat × Entry.Finding)}

/-- What was not superseded was in the list. -/
theorem mem_of_mem_unsuperseded {latest : Nat} {xs : List (Nat × α)} {p : Nat × α}
    (h : p ∈ unsuperseded latest xs) : p ∈ xs := by
  induction xs generalizing latest with
  | nil => cases h
  | cons q rest ih =>
      rw [unsuperseded] at h
      split at h
      · rcases List.mem_cons.mp h with rfl | h
        · exact List.mem_cons_self
        · exact List.mem_cons_of_mem _ (ih h)
      · exact List.mem_cons_of_mem _ (ih h)

/-- A fetch that is started leaves a document bare. -/
theorem Pairs.bare_of_start (h : Pairs ends o) {now : Time}
    (step : o.step? id limit (.start now) = some o') : IsBare o'.entry := by
  simp only [Overlap.step?, Fetch.start, h.live, Bool.false_eq_true, if_false] at step
  cases step
  show IsBare o.entry.beginFetch
  rw [Entry.beginFetch, h.html]
  exact ⟨clear_of_live h.live, rfl⟩

/-- An answer on which a document tells nothing leaves it as it is. -/
theorem Pairs.entry_of_silent (h : Pairs ends o) {i : Nat} {root : Option Path} {a : Answer}
    (step : o.step? id limit (.answer i root a) = some o')
    (silent : o'.entry.sent = o.entry.sent) : o'.entry = o.entry := by
  obtain ⟨x, -, -, rfl⟩ := step?_answer_some step
  obtain ⟨same, -⟩ | ⟨stat, links, sources, -, -, installs⟩ :=
    resume_entry x.fetch o.entry limit root a
  · exact same
  · rw [install_html h.html h.live, Except.ok.injEq] at installs
    split at installs
    · exact installs.symm
    · -- links that are taken over are told
      rw [← installs] at silent
      simp at silent

/-- The fetch that an event has brought to a good end has a number above zero. -/
theorem Pairs.success_pos (h : Pairs ends o) {event : Event} {n : Nat} {found : Entry.Finding}
    (success : o.success? event = some (n, found)) : 0 < n := by
  cases event with
  | start | clear | dispose => cases success
  | answer i root a =>
      obtain ⟨x, hx, landed⟩ := Option.bind_eq_some_iff.mp success
      obtain ⟨_, -, eq⟩ := Option.map_eq_some_iff.mp landed
      rw [h.numbered i x hx] at eq
      cases eq
      exact Nat.succ_pos i

/-- One answer: the document goes on to hold what it held, or it holds what a fetch has just found
that was started later than all that have ended well before. -/
theorem Refilled.step? (h : Refilled (top 0 early) ends o) (pairs : Pairs (early ++ ends) o)
    {event : Event} (answers : event.isAnswer = true) (step : o.step? id limit event = some o') :
    Refilled (top 0 early) (ends ++ (o'.success? event).toList) o' := by
  cases event with
  | start | clear | dispose => cases answers
  | answer i root a =>
      have latest : top (top 0 early) ends = top 0 (early ++ ends) := List.foldl_append.symm
      obtain ⟨pairs', tells⟩ := pairs.step? (by simp) step
      cases tells with
      -- the flight has told of its links, so it is later than all before
      | links n found success later _ holds =>
          have lt : top (top 0 early) ends < n := by
            rw [latest]
            obtain none | ⟨p, mem, eq⟩ := top_mem 0 (early ++ ends)
            · rw [none]
              exact pairs'.success_pos success
            · exact eq ▸ later p mem
          have more : unsuperseded (top 0 early) (ends ++ [(n, found)]) =
              unsuperseded (top 0 early) ends ++ [(n, found)] := by
            rw [unsuperseded_append, if_pos lt]
          rw [success, Option.toList_some]
          refine ⟨fun none => ?_, fun m found' last => ?_⟩
          · rw [more] at none
            simp at none
          · rw [more, List.getLast?_concat] at last
            cases last
            exact holds.1
      -- nothing was told, so the entry is as it was
      | nothing superseded silent =>
          have same : o'.entry = o.entry := pairs.entry_of_silent step silent
          have skipped :
              unsuperseded (top 0 early) (ends ++ (o'.success? (.answer i root a)).toList) =
                unsuperseded (top 0 early) ends := by
            cases success : o'.success? (.answer i root a) with
            | none => rw [Option.toList_none, List.append_nil]
            | some landed =>
                obtain ⟨p, mem, lt⟩ := superseded landed.1 landed.2 success
                have le : p.1 ≤ top 0 (early ++ ends) := le_top_of_mem mem
                rw [Option.toList_some, unsuperseded_append, latest,
                  if_neg (Nat.not_lt.mpr (Nat.le_trans (Nat.le_of_lt lt) le)), List.append_nil]
          refine ⟨fun none => ?_, fun m found last => ?_⟩
          · rw [same]
            exact h.bare (skipped ▸ none)
          · rw [same]
            exact h.holds m found (skipped ▸ last)

/-- Any number of answers. -/
theorem Refilled.run? {start : Overlap} (h : Refilled (top 0 early) [] start)
    (pairs : Pairs early start) {after : List Event} (run : start.run? id limit after = some o)
    (answers : ∀ event ∈ after, event.isAnswer = true) :
    Refilled (top 0 early) (successes id limit start after) o := by
  have stays : .dispose ∉ after := fun mem => nomatch answers _ mem
  induction after using List.reverseRecOn generalizing o with
  | nil =>
      cases run
      exact h
  | append_singleton events event ih =>
      rw [run?_append, Option.bind_eq_some_iff] at run
      obtain ⟨m, hm, last⟩ := run
      have step : m.step? id limit event = some o := by simpa [Overlap.run?] using last
      have stays' : .dispose ∉ events := fun mem => stays (List.mem_append_left _ mem)
      have before := ih hm (fun e mem => answers e (List.mem_append_left _ mem)) stays'
      rw [successes_append hm, step]
      exact before.step? (pairs.run? hm stays') (answers event (by simp)) step

/-- A document with any number of fetches, mixed in any way, of which the one that was started last
ends without a text. Let `late` be the fetches that end well after the start of that one and that no
later-started fetch has come before. All of them were started earlier, and the document holds what
the last of them found; when there is none it has neither names nor links. -/
theorem unread_leaves_what_lands_late {before after : List Event} {now : Time} {m : Overlap}
    {late : List (Nat × Entry.Finding)}
    (launch : (fresh .html path scope).run? id limit (before ++ [.start now]) = some m)
    (run : m.run? id limit after = some o) (stays : .dispose ∉ before)
    (answers : ∀ event ∈ after, event.isAnswer = true)
    (unread : o.flights.getLast?.any Flight.isUnread = true)
    (landed : unsuperseded (top 0 (successes id limit (fresh .html path scope) before))
      (successes id limit m after) = late) :
    (∀ p ∈ late, p.1 < o.flights.length) ∧ (late = [] → IsBare o.entry) ∧
      ∀ n found, late.getLast? = some (n, found) → Holds o.entry found := by
  subst landed
  rw [run?_append, Option.bind_eq_some_iff] at launch
  obtain ⟨l, hl, last⟩ := launch
  have step : l.step? id limit (.start now) = some m := by simpa [Overlap.run?] using last
  have earlier := pairs_of_run hl stays
  obtain ⟨started, -⟩ := earlier.start step
  have bare : Refilled (top 0 (successes id limit (fresh .html path scope) before)) [] m :=
    ⟨fun _ => earlier.bare_of_start step, fun _ _ none => by cases none⟩
  have refilled := bare.run? started run answers
  refine ⟨fun p mem => ?_, refilled.bare, refilled.holds⟩
  -- the fetch that was started last is the only one of its number, and it has found nothing
  have settled := started.run? run fun mem => absurd (answers _ mem) (by decide)
  obtain ⟨x, hx, number, found⟩ := (settled.mem_ends p.1 p.2).mp
    (List.mem_append_right _ (mem_of_mem_unsuperseded mem))
  obtain ⟨i, hi⟩ := List.getElem?_of_mem hx
  obtain ⟨lt, -⟩ := List.getElem?_eq_some_iff.mp hi
  have ne : i ≠ o.flights.length - 1 := by
    rintro rfl
    rw [List.getLast?_eq_getElem?, hi] at unread
    cases (Flight.finding?_of_isUnread unread).symm.trans found
  rw [← number, settled.numbered i x hi]
  omega

/-- Four fetches of a document: the first three have asked for the text when the second ends well,
and the fourth is started. -/
def overtaken : List Event :=
  [.start 1, .start 2, .start 3, .answer 0 none (.stat (.ok ⟨10, 4⟩)),
    .answer 1 none (.stat (.ok ⟨20, 4⟩)), .answer 2 none (.stat (.ok ⟨30, 4⟩)),
    .answer 1 none (.text (.ok "<link rel=stylesheet href=b.css>")), .answer 1 none .built]

/-- The fourth fetch finds the file too large, and the first one ends well, which is of no account
after the second. -/
def tooLarge : List Event :=
  [.answer 3 none (.stat (.ok ⟨40, 101⟩)),
    .answer 0 none (.text (.ok "<link rel=stylesheet href=a.css>")), .answer 0 none .built]

/-- The third fetch ends well. -/
def landsLast : List Event :=
  [.answer 2 none (.text (.ok "<link rel=stylesheet href=c.css>")), .answer 2 none .built]

/-- The document is bare until the third fetch ends, and has what that one found then. -/
theorem overtaken_lands_late :
    ∃ m o o' found,
      (fresh .html ⟨"/a.html"⟩ .registry).run? 0 100 (overtaken ++ [.start 4]) = some m ∧
      m.run? 0 100 tooLarge = some o ∧ IsBare o.entry ∧
      m.run? 0 100 (tooLarge ++ landsLast) = some o' ∧ Holds o'.entry found ∧
      found.dependencies = [⟨"/c.css"⟩] := by
  have facts : ((fresh .html ⟨"/a.html"⟩ .registry).run? 0 100 (overtaken ++ [.start 4])).bind
      (fun m => (m.run? 0 100 tooLarge).bind fun o =>
      (m.run? 0 100 (tooLarge ++ landsLast)).map fun o' =>
        (o.flights.getLast?.any Flight.isUnread && o'.flights.getLast?.any Flight.isUnread,
          (unsuperseded (top 0 (successes 0 100 (fresh .html ⟨"/a.html"⟩ .registry) overtaken))
            (successes 0 100 m tooLarge)).map (·.1),
          ((unsuperseded (top 0 (successes 0 100 (fresh .html ⟨"/a.html"⟩ .registry) overtaken))
            (successes 0 100 m (tooLarge ++ landsLast))).map fun p => (p.1, p.2.dependencies)))) =
      some (true, [], [(3, [⟨"/c.css"⟩])]) := by
    decide +kernel
  obtain ⟨m, hm, facts⟩ := Option.bind_eq_some_iff.mp facts
  obtain ⟨o, ho, facts⟩ := Option.bind_eq_some_iff.mp facts
  obtain ⟨o', ho', eq⟩ := Option.map_eq_some_iff.mp facts
  simp only [Prod.mk.injEq, Bool.and_eq_true, List.map_eq_nil_iff] at eq
  obtain ⟨⟨unread, unread'⟩, none, one⟩ := eq
  obtain ⟨⟨n, found⟩, landed, eq⟩ := List.map_eq_singleton_iff.mp one
  have stays : .dispose ∉ overtaken := by simp [overtaken]
  have answers : ∀ event ∈ tooLarge ++ landsLast, event.isAnswer = true := by
    simp [tooLarge, landsLast, Event.isAnswer]
  -- before the overtaken one lands there is nothing to show
  obtain ⟨-, bare, -⟩ := unread_leaves_what_lands_late hm ho stays
    (fun event mem => answers event (List.mem_append_left _ mem)) unread none
  obtain ⟨-, -, holds⟩ := unread_leaves_what_lands_late hm ho' stays answers unread' landed
  exact ⟨m, o, o', found, hm, ho, bare rfl, ho', holds n found rfl, congrArg Prod.snd eq⟩

/-- Two fetches of a document: the first waits for the text when the second is told that there is
no file, and then ends well. -/
def refilled : List Event :=
  [.start 1, .answer 0 none (.stat (.ok ⟨10, 38⟩)), .start 2,
    .answer 1 none (.stat (.error (.notFound ⟨"/a.html"⟩))),
    .answer 0 none (.text (.ok "<style>.one\x7b\x7d</style><link href=x.css>")),
    .answer 0 none (.parsed 0 (.ok [.style ".one"])), .answer 0 none .built]

/-- All fetches are over and the one that was started last has ended without a text, but the
document has names and links. -/
theorem unread_is_refilled :
    ∃ o, (fresh .html ⟨"/a.html"⟩ .standalone).run? 0 100 refilled = some o ∧
      .dispose ∉ refilled ∧ (∀ x ∈ o.flights, x.result.isSome) ∧
      o.flights.getLast?.any Flight.isUnread = true ∧
      o.entry.dependencies = [⟨"/x.css"⟩] ∧ o.entry.index.searchClass "" "" [] = ["one"] := by
  have facts : ((fresh .html ⟨"/a.html"⟩ .standalone).run? 0 100 refilled).map (fun o =>
      (o.flights.all (·.result.isSome), o.flights.getLast?.any Flight.isUnread,
        o.entry.dependencies, o.entry.index.searchClass "" "" [])) =
      some (true, true, [⟨"/x.css"⟩], ["one"]) := by
    decide +kernel
  obtain ⟨o, ho, eq⟩ := Option.map_eq_some_iff.mp facts
  simp only [Prod.mk.injEq, List.all_eq_true] at eq
  exact ⟨o, ho, by simp [refilled], eq⟩

end Overlap
end SelectorCatalog
