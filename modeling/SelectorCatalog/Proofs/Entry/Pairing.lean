import Mathlib.Data.List.Induction
import Mathlib.Data.List.Nodup
import SelectorCatalog.Proofs.Entry.Overlap

/-!
# The names and the links of a document

A document forgets its names and links when a fetch of it is started, and has both again when a
fetch ends well. With any number of fetches on their way these are several places to write to, in
any order. Still what a document holds is of one piece: its names and its links were found by one
fetch, or it has neither.

As in an overlap of any kind, an event is all that happens between two moments of waiting: the
names, the links, the times and the event that tells of them are written under different locks,
without waiting in between. So what is said here holds whenever some task waits, not between two of
these writes.

Of the fetches that end well (`successes`), in the order of their ends, those count that no
later-started one has come before (`unsuperseded`). `Pairs` says what a document makes of them after
every run in which it is not disposed of, and `index_and_links_pair` draws the conclusions.
-/

namespace SelectorCatalog.Overlap

/-- The fetch that an event has brought to a good end, by its number, and what it found. -/
def success? (o : Overlap) : Event → Option (Nat × Entry.Finding)
  | .answer i _ _ => (o.flights[i]?).bind fun x =>
    x.finding?.map fun found => (x.fetch.generation, found)
  | _ => none

/-- All fetches that end well along a run, oldest end first. -/
def successes (id : EntryId) (limit : Nat) (o : Overlap) : List Event → List (Nat × Entry.Finding)
  | [] => []
  | event :: events =>
    match o.step? id limit event with
    | some o' => (o'.success? event).toList ++ successes id limit o' events
    | none => []

/-- Of numbered things those with a larger number than all before them, and than `latest`. -/
def unsuperseded (latest : Nat) : List (Nat × α) → List (Nat × α)
  | [] => []
  | (n, x) :: rest =>
    if latest < n then (n, x) :: unsuperseded n rest else unsuperseded latest rest

/-- The largest number of numbered things, and `latest` if that is larger. -/
def top (latest : Nat) (xs : List (Nat × α)) : Nat :=
  xs.foldl (fun n p => max n p.1) latest

/-- Whether a document has the names and links that a fetch found. -/
def Holds (e : Entry) (found : Entry.Finding) : Prop :=
  e.index = found.index ∧ e.dependencies = found.dependencies

/-- Whether a document has all that a fetch found, the times included. -/
def HoldsAll (e : Entry) (found : Entry.Finding) : Prop :=
  Holds e found ∧ e.timestamp = some found.modified ∧ e.indexedAt = some found.started

/-- What an event tells, where the fetches `ends` have ended well before: the links of a fetch that
ends well and is the latest, which the document takes over on the spot, or nothing. -/
inductive Tells (ends : List (Nat × Entry.Finding)) (o : Overlap) (event : Event) (o' : Overlap) :
    Prop where
  | links (n : Nat) (found : Entry.Finding) : o'.success? event = some (n, found) →
      (∀ p ∈ ends, p.1 < n) →
      o'.entry.sent = o.entry.sent ++ [.fetchComplete found.dependencies] →
      HoldsAll o'.entry found → Tells ends o event o'
  | nothing : (∀ n found, o'.success? event = some (n, found) → ∃ p ∈ ends, n < p.1) →
      o'.entry.sent = o.entry.sent → Tells ends o event o'

/-- What holds of a document after every run in which it is not disposed of: the fetches `ends` are
those that have ended well, and what it tells, and holds if anything, is what the unsuperseded ones
of them have found. -/
structure Pairs (ends : List (Nat × Entry.Finding)) (o : Overlap) : Prop where
  html : o.entry.kind = .html
  live : o.entry.isDisposed = false
  fetches_eq : o.entry.fetches = o.flights.length
  numbered : ∀ i x, o.flights[i]? = some x → x.fetch.generation = i + 1
  mem_ends : ∀ n found, (n, found) ∈ ends ↔
    ∃ x ∈ o.flights, x.fetch.generation = n ∧ x.finding? = some found
  nodup : (ends.map Prod.fst).Nodup
  installed_eq : o.entry.installed = top 0 ends
  sent_eq : o.entry.sent = (unsuperseded 0 ends).map fun p => .fetchComplete p.2.dependencies
  holds : (o.entry.index = .empty ∧ o.entry.dependencies = []) ∨
    ∃ n found, (unsuperseded 0 ends).getLast? = some (n, found) ∧ Holds o.entry found

/-! ## Numbered things -/

/-- The top of a list takes the first number in. -/
theorem top_cons (latest : Nat) (p : Nat × α) (rest : List (Nat × α)) :
    top latest (p :: rest) = top (max latest p.1) rest := rfl

/-- It takes the last number in. -/
theorem top_append (latest : Nat) (xs : List (Nat × α)) (p : Nat × α) :
    top latest (xs ++ [p]) = max (top latest xs) p.1 := by
  simp [top, List.foldl_append]

/-- The top is not below where it starts. -/
theorem le_top (latest : Nat) (xs : List (Nat × α)) : latest ≤ top latest xs := by
  induction xs generalizing latest with
  | nil => exact Nat.le_refl _
  | cons p rest ih => exact Nat.le_trans (Nat.le_max_left _ _) (ih _)

/-- The top is not below any number of the list. -/
theorem le_top_of_mem {latest : Nat} {xs : List (Nat × α)} {p : Nat × α} (h : p ∈ xs) :
    p.1 ≤ top latest xs := by
  induction xs generalizing latest with
  | nil => cases h
  | cons q rest ih =>
      rcases List.mem_cons.mp h with rfl | h
      · exact Nat.le_trans (Nat.le_max_right _ _) (le_top _ _)
      · exact ih h

/-- The top is where it starts or a number of the list. -/
theorem top_mem (latest : Nat) (xs : List (Nat × α)) :
    top latest xs = latest ∨ ∃ p ∈ xs, p.1 = top latest xs := by
  induction xs using List.reverseRecOn with
  | nil => exact .inl rfl
  | append_singleton xs p ih =>
      rw [top_append]
      rcases Nat.le_total p.1 (top latest xs) with le | le
      · rw [Nat.max_eq_left le]
        exact ih.imp_right fun ⟨q, hq, eq⟩ => ⟨q, List.mem_append_left _ hq, eq⟩
      · rw [Nat.max_eq_right le]
        exact .inr ⟨p, by simp, rfl⟩

/-- One more is unsuperseded when its number is larger than all before. -/
theorem unsuperseded_append (latest : Nat) (xs : List (Nat × α)) (p : Nat × α) :
    unsuperseded latest (xs ++ [p]) =
      unsuperseded latest xs ++ if top latest xs < p.1 then [p] else [] := by
  induction xs generalizing latest with
  | nil =>
      show (if latest < p.1 then _ else _) = if latest < p.1 then _ else _
      split <;> rfl
  | cons q rest ih =>
      obtain ⟨n, x⟩ := q
      rw [List.cons_append, unsuperseded, ih, ih, unsuperseded, top_cons]
      by_cases lt : latest < n
      · rw [if_pos lt, if_pos lt, Nat.max_eq_right (Nat.le_of_lt lt), List.cons_append]
      · rw [if_neg lt, if_neg lt, Nat.max_eq_left (Nat.le_of_not_lt lt)]

theorem lt_of_mem_unsuperseded {latest : Nat} {xs : List (Nat × α)} {p : Nat × α}
    (h : p ∈ unsuperseded latest xs) : latest < p.1 := by
  induction xs generalizing latest with
  | nil => cases h
  | cons q rest ih =>
      obtain ⟨n, x⟩ := q
      rw [unsuperseded] at h
      split at h
      · next lt =>
          rcases List.mem_cons.mp h with rfl | h
          · exact lt
          · exact Nat.lt_trans lt (ih h)
      · exact ih h

theorem pairwise_unsuperseded (latest : Nat) (xs : List (Nat × α)) :
    (unsuperseded latest xs).Pairwise fun p q => p.1 < q.1 := by
  induction xs generalizing latest with
  | nil => exact .nil
  | cons q rest ih =>
      obtain ⟨n, x⟩ := q
      rw [unsuperseded]
      split
      · exact .cons (fun p h => lt_of_mem_unsuperseded h) (ih n)
      · exact ih latest

/-! ## One event -/

variable {path : Path} {scope : Scope} {id : EntryId} {limit : Nat} {o o' : Overlap}
  {ends : List (Nat × Entry.Finding)}

/-- What a live document makes of what a fetch found: it is taken over whole and told, unless a
later fetch came first. -/
theorem install_html {e : Entry} (html : e.kind = .html) (live : e.isDisposed = false)
    (generation : Nat) (found : Entry.Finding) :
    e.install generation found = .ok (if generation < e.installed then e else
      { e with
        index := found.index
        installed := generation
        timestamp := some found.modified
        indexedAt := some found.started
        dependencies := found.dependencies
        sent := e.sent ++ [.fetchComplete found.dependencies] }) := by
  by_cases h : generation < e.installed <;> simp [Entry.install, html, live, h, Entry.send]

/-- An index that is cleared is empty, unless it is disposed of. -/
theorem clear_of_live {index : SelectorIndex} (live : index.isDisposed = false) :
    index.clear = .empty := by
  cases index with
  | live names => rfl
  | disposed => cases live

/-- An answer is for a fetch that is not over, and may lead the fetch on and touch the entry. -/
theorem step?_answer_some {i : Nat} {root : Option Path} {a : Answer}
    (h : o.step? id limit (.answer i root a) = some o') :
    ∃ x, o.flights[i]? = some x ∧ x.result = none ∧
      o' = ⟨(x.fetch.resume o.entry limit root a).1,
        o.flights.set i (x.follow (x.fetch.resume o.entry limit root a).2.2)⟩ := by
  simp only [step?] at h
  split at h
  · next x hx =>
      split at h
      · next ha =>
          simp only [Flight.expects, Bool.and_eq_true, Option.isNone_iff_eq_none] at ha
          exact ⟨x, hx, ha.1, (Option.some.inj h).symm⟩
      · cases h
  · cases h

/-- An answer is a success when its flight has found something with it. -/
theorem success?_answer {i : Nat} {root : Option Path} {a : Answer} {e : Entry} {x y : Flight}
    (hx : o.flights[i]? = some x) :
    (⟨e, o.flights.set i y⟩ : Overlap).success? (.answer i root a) =
      y.finding?.map fun found => (y.fetch.generation, found) := by
  have there : (o.flights.set i y)[i]? = some y :=
    List.getElem?_set_self (List.getElem?_eq_some_iff.mp hx).1
  rw [success?, there]
  rfl

/-- The fetches that have ended well when one of them has moved on. -/
theorem mem_set_flights {i : Nat} {x y : Flight} (hx : o.flights[i]? = some x)
    (nothing : x.finding? = none) {n : Nat} {found : Entry.Finding} :
    (∃ z ∈ o.flights.set i y, z.fetch.generation = n ∧ z.finding? = some found) ↔
      (∃ z ∈ o.flights, z.fetch.generation = n ∧ z.finding? = some found) ∨
        y.fetch.generation = n ∧ y.finding? = some found := by
  have lt := (List.getElem?_eq_some_iff.mp hx).1
  constructor
  · rintro ⟨z, mem, eq, hz⟩
    rcases List.mem_or_eq_of_mem_set mem with mem | rfl
    · exact .inl ⟨z, mem, eq, hz⟩
    · exact .inr ⟨eq, hz⟩
  · rintro (⟨z, mem, eq, hz⟩ | ⟨eq, hy⟩)
    · -- a fetch that has ended well is not the one that moves on
      obtain ⟨j, hj⟩ := List.getElem?_of_mem mem
      have ne : i ≠ j := by
        rintro rfl
        obtain rfl := Option.some.inj (hx.symm.trans hj)
        cases nothing.symm.trans hz
      exact ⟨z, List.mem_of_getElem? ((List.getElem?_set_ne ne).trans hj), eq, hz⟩
    · exact ⟨y, List.mem_of_getElem? (List.getElem?_set_self lt), eq, hy⟩

namespace Pairs

/-- At first no flight has ended. -/
theorem of_fresh (path : Path) (scope : Scope) : Pairs [] (fresh .html path scope) where
  html := rfl
  live := rfl
  fetches_eq := rfl
  numbered := by simp [fresh]
  mem_ends := by simp [fresh]
  nodup := .nil
  installed_eq := rfl
  sent_eq := rfl
  holds := .inl ⟨rfl, rfl⟩

/-- A document that is cleared has neither names nor links. -/
theorem clear (h : Pairs ends o) : Pairs ends { o with entry := o.entry.clear } where
  html := h.html
  live := by
    show o.entry.index.clear.isDisposed = false
    rw [clear_of_live h.live]
    rfl
  fetches_eq := h.fetches_eq
  numbered := h.numbered
  mem_ends := h.mem_ends
  nodup := h.nodup
  installed_eq := h.installed_eq
  sent_eq := h.sent_eq
  holds := .inl ⟨clear_of_live h.live, rfl⟩

/-- A fetch that is started clears the document, and has found nothing yet. -/
theorem start (h : Pairs ends o) {now : Time} (step : o.step? id limit (.start now) = some o') :
    Pairs ends o' ∧ o'.entry.sent = o.entry.sent := by
  have begun : o.entry.beginFetch = ({ o.entry with fetches := o.flights.length + 1 }).clear := by
    simp [Entry.beginFetch, h.html, h.fetches_eq]
  simp only [step?, Fetch.start, h.live, Bool.false_eq_true, if_false, begun] at step
  cases step
  have cleared := h.clear
  refine ⟨⟨h.html, cleared.live, by simp [Entry.clear], ?_, ?_, h.nodup, h.installed_eq, h.sent_eq,
    cleared.holds⟩, rfl⟩
  · intro i x hx
    rw [List.getElem?_append] at hx
    split at hx
    · exact h.numbered i x hx
    · obtain ⟨lt, rfl⟩ := List.getElem?_eq_some_iff.mp hx
      simp only [List.length_singleton, Nat.lt_one_iff] at lt
      simp only [List.getElem_singleton, Entry.clear]
      omega
  · intro n found
    simp [h.mem_ends, Flight.finding?]

/-- A fetch that has not ended well yet is not among those that have. -/
theorem number_not_mem (h : Pairs ends o) {i : Nat} {x : Flight} (hx : o.flights[i]? = some x)
    (nothing : x.finding? = none) {p : Nat × Entry.Finding} (mem : p ∈ ends) : p.1 ≠ i + 1 := by
  obtain ⟨z, hz, number, found⟩ := (h.mem_ends p.1 p.2).mp mem
  obtain ⟨j, hj⟩ := List.getElem?_of_mem hz
  rintro eq
  obtain rfl : j = i := by
    have := h.numbered j z hj
    omega
  obtain rfl := Option.some.inj (hx.symm.trans hj)
  cases nothing.symm.trans found

/-- The document with a fetch that moves on, as far as the fetches go. -/
theorem set_flight (h : Pairs ends o) {i : Nat} {x y : Flight} (hx : o.flights[i]? = some x)
    (same : y.fetch.generation = x.fetch.generation) :
    (∀ j z, (o.flights.set i y)[j]? = some z → z.fetch.generation = j + 1) ∧
      o.entry.fetches = (o.flights.set i y).length := by
  refine ⟨fun j z hz => ?_, by rw [List.length_set, h.fetches_eq]⟩
  rw [List.getElem?_set] at hz
  split at hz
  · next eq =>
      subst eq
      split at hz
      · cases hz
        exact same.trans (h.numbered i x hx)
      · cases hz
  · exact h.numbered j z hz

/-- An answer that does not bring a fetch to a good end leaves the document alone. -/
theorem unended (h : Pairs ends o) {i : Nat} {x y : Flight} (hx : o.flights[i]? = some x)
    (same : y.fetch.generation = x.fetch.generation) (nothing : x.finding? = none)
    (still : y.finding? = none) : Pairs ends ⟨o.entry, o.flights.set i y⟩ where
  html := h.html
  live := h.live
  fetches_eq := (h.set_flight hx same).2
  numbered := (h.set_flight hx same).1
  mem_ends n found := by
    rw [mem_set_flights hx nothing, h.mem_ends, still]
    simp
  nodup := h.nodup
  installed_eq := h.installed_eq
  sent_eq := h.sent_eq
  holds := h.holds

/-- A fetch ends well: the document takes over what it found and tells its links, unless a fetch
that was started later has ended well before. -/
theorem ended (h : Pairs ends o) {i : Nat} {x y : Flight} (hx : o.flights[i]? = some x)
    (same : y.fetch.generation = x.fetch.generation) (nothing : x.finding? = none)
    {found : Entry.Finding} (hy : y.finding? = some found) {e : Entry}
    (installs : o.entry.install (i + 1) found = .ok e) :
    Pairs (ends ++ [(i + 1, found)]) ⟨e, o.flights.set i y⟩ ∧
      ((∃ p ∈ ends, i + 1 < p.1) ∧ e.sent = o.entry.sent ∨
        (∀ p ∈ ends, p.1 < i + 1) ∧ HoldsAll e found ∧
          e.sent = o.entry.sent ++ [.fetchComplete found.dependencies]) := by
  obtain ⟨numbered, fetches_eq⟩ := h.set_flight hx same
  have number : y.fetch.generation = i + 1 := same.trans (h.numbered i x hx)
  have mem_ends : ∀ n f, (n, f) ∈ ends ++ [(i + 1, found)] ↔
      ∃ z ∈ o.flights.set i y, z.fetch.generation = n ∧ z.finding? = some f := by
    intro n f
    rw [mem_set_flights hx nothing, List.mem_append, h.mem_ends, List.mem_singleton, hy, number]
    simp only [Prod.mk.injEq, Option.some.injEq, eq_comm]
  have nodup : ((ends ++ [(i + 1, found)]).map Prod.fst).Nodup := by
    rw [List.map_append, List.nodup_append]
    refine ⟨h.nodup, List.nodup_singleton _, ?_⟩
    rintro n mem _ mem' rfl
    obtain ⟨p, hp, rfl⟩ := List.mem_map.mp mem
    exact h.number_not_mem hx nothing hp (List.mem_singleton.mp mem')
  rw [install_html h.html h.live, Except.ok.injEq] at installs
  by_cases late : i + 1 < o.entry.installed
  · -- the document holds something later, and keeps it
    rw [if_pos late] at installs
    subst installs
    rw [h.installed_eq] at late
    have skipped : unsuperseded 0 (ends ++ [(i + 1, found)]) = unsuperseded 0 ends := by
      rw [unsuperseded_append, if_neg (Nat.lt_asymm late), List.append_nil]
    refine ⟨⟨h.html, h.live, fetches_eq, numbered, mem_ends, nodup, ?_, ?_, ?_⟩, .inl ⟨?_, rfl⟩⟩
    · rw [top_append, h.installed_eq, Nat.max_eq_left (Nat.le_of_lt late)]
    · rw [skipped, h.sent_eq]
    · rw [skipped]
      exact h.holds
    · obtain none | ⟨p, mem, eq⟩ := top_mem 0 ends
      · rw [none] at late
        cases late
      · exact ⟨p, mem, eq ▸ late⟩
  · rw [if_neg late] at installs
    subst installs
    -- no two fetches have one number
    have lt : top 0 ends < i + 1 := by
      rw [h.installed_eq] at late
      refine Nat.lt_of_le_of_ne (Nat.le_of_not_lt late) fun eq => ?_
      obtain none | ⟨p, mem, eq'⟩ := top_mem 0 ends
      · rw [none] at eq
        cases eq
      · exact h.number_not_mem hx nothing mem (eq'.trans eq)
    have more : unsuperseded 0 (ends ++ [(i + 1, found)]) =
        unsuperseded 0 ends ++ [(i + 1, found)] := by
      rw [unsuperseded_append, if_pos lt]
    have live : found.index.isDisposed = false := Flight.isDisposed_of_finding? hy
    refine ⟨⟨h.html, live, fetches_eq, numbered, mem_ends, nodup, ?_, ?_,
      .inr ⟨i + 1, found, ?_, rfl, rfl⟩⟩, .inr ⟨?_, ⟨⟨rfl, rfl⟩, rfl, rfl⟩, rfl⟩⟩
    · rw [top_append, Nat.max_eq_right (Nat.le_of_lt lt)]
    · rw [more, List.map_append, ← h.sent_eq]
      rfl
    · rw [more]
      exact List.getLast?_concat
    · exact fun p mem => Nat.lt_of_le_of_lt (le_top_of_mem mem) lt

/-- One event. -/
theorem step? (h : Pairs ends o) {event : Event} (stays : event ≠ .dispose)
    (step : o.step? id limit event = some o') :
    Pairs (ends ++ (o'.success? event).toList) o' ∧ Tells ends o event o' := by
  cases event with
  | start now =>
      obtain ⟨pairs, sent⟩ := h.start step
      exact ⟨by simpa [success?] using pairs, .nothing nofun sent⟩
  | clear =>
      cases step
      exact ⟨by simpa [success?] using h.clear, .nothing nofun rfl⟩
  | dispose => exact absurd rfl stays
  | answer i root a =>
      obtain ⟨x, hx, waiting, rfl⟩ := step?_answer_some step
      have nothing : x.finding? = none := by simp [Flight.finding?, waiting]
      have same := Flight.generation_follow x (x.fetch.resume o.entry limit root a).2.2
      rw [success?_answer hx]
      -- the answer leaves the entry alone, or the flight has come to its end
      obtain ⟨he, hp⟩ | ⟨stat, links, sources, at_, hp, installs⟩ :=
        resume_entry x.fetch o.entry limit root a
      · have still := Flight.finding?_follow waiting hp
        rw [he, still]
        refine ⟨by simpa using h.unended hx same nothing still, .nothing ?_ rfl⟩
        simp [success?_answer hx, still]
      · let found : Entry.Finding :=
          ⟨Fetch.indexOf sources, links, stat.modified, x.fetch.started⟩
        have hy : (x.follow (x.fetch.resume o.entry limit root a).2.2).finding? = some found := by
          rw [hp]
          simp [Flight.follow, Flight.finding?, at_, found]
        have number : x.fetch.generation = i + 1 := h.numbered i x hx
        rw [number] at installs same
        -- the flight was overtaken, or what it has found is shown and told
        obtain ⟨pairs, superseded | told⟩ := h.ended hx (same.trans number.symm) nothing hy installs
        · rw [hy, Option.map_some, same]
          refine ⟨pairs, .nothing ?_ superseded.2⟩
          rw [success?_answer hx, hy, same]
          rintro n f ⟨⟩
          exact superseded.1
        · obtain ⟨latest, holds, sent⟩ := told
          have ends' : (⟨(x.fetch.resume o.entry limit root a).1, o.flights.set i
              (x.follow (x.fetch.resume o.entry limit root a).2.2)⟩ : Overlap).success?
                (.answer i root a) = some (i + 1, found) := by
            rw [success?_answer hx, hy, Option.map_some, same]
          rw [hy, Option.map_some, same]
          exact ⟨pairs, .links (i + 1) found ends' latest sent holds⟩

end Pairs

/-! ## All events -/

theorem successes_append {events : List Event} {start : Overlap}
    (run : start.run? id limit events = some o) (event : Event) :
    successes id limit start (events ++ [event]) = successes id limit start events ++
      match o.step? id limit event with
      | some o' => (o'.success? event).toList
      | none => [] := by
  induction events generalizing start with
  | nil =>
      cases run
      simp only [List.nil_append, successes, List.append_nil]
  | cons first rest ih =>
      rw [run?, List.foldlM_cons] at run
      obtain ⟨m, step, run⟩ := Option.bind_eq_some_iff.mp run
      simp only [List.cons_append, successes, step, List.append_assoc]
      rw [ih run]

/-- All events. -/
theorem Pairs.run? {events : List Event} {start : Overlap} (h : Pairs ends start)
    (run : start.run? id limit events = some o) (stays : .dispose ∉ events) :
    Pairs (ends ++ successes id limit start events) o := by
  induction events using List.reverseRecOn generalizing o with
  | nil =>
      cases run
      simpa [successes] using h
  | append_singleton events event ih =>
      rw [run?_append, Option.bind_eq_some_iff] at run
      obtain ⟨m, hm, last⟩ := run
      have step : m.step? id limit event = some o := by simpa [Overlap.run?] using last
      have before := ih hm fun mem => stays (List.mem_append_left _ mem)
      rw [successes_append hm, step, ← List.append_assoc]
      exact (before.step? (fun eq => stays (by simp [eq])) step).1

/-- Along a run the entry pairs with its successes. -/
theorem pairs_of_run {events : List Event}
    (run : (fresh .html path scope).run? id limit events = some o) (stays : .dispose ∉ events) :
    Pairs (successes id limit (fresh .html path scope) events) o :=
  (Pairs.of_fresh path scope).run? run stays

/-- No fetch is forgotten. -/
theorem length_le_of_step? {event : Event} (step : o.step? id limit event = some o') :
    o.flights.length ≤ o'.flights.length := by
  cases event with
  | start now =>
      simp only [step?] at step
      split at step <;> cases step <;> simp
  | answer i root a =>
      obtain ⟨x, -, -, rfl⟩ := step?_answer_some step
      simp
  | clear =>
      cases step
      exact Nat.le_refl _
  | dispose =>
      cases step
      exact Nat.le_refl _

/-- Flights are never taken away. -/
theorem length_le_of_run? {events : List Event} {start : Overlap}
    (run : start.run? id limit events = some o) : start.flights.length ≤ o.flights.length := by
  induction events generalizing start with
  | nil =>
      cases run
      exact Nat.le_refl _
  | cons event rest ih =>
      rw [run?, List.foldlM_cons] at run
      obtain ⟨m, step, run⟩ := Option.bind_eq_some_iff.mp run
      exact Nat.le_trans (length_le_of_step? step) (ih run)

/-- The fetch that was started last has landed, and the document holds all that it found. -/
structure Settled (count : Nat) (found : Entry.Finding) (o : Overlap) : Prop where
  ends : ∃ x, o.flights[count - 1]? = some x ∧ x.finding? = some found
  length_eq : o.flights.length = count
  holds : HoldsAll o.entry found

/-- Fetches that were started before the last one to land do not change the document any more. -/
theorem Settled.step? {count : Nat} {found : Entry.Finding} (h : Settled count found o)
    (pairs : Pairs ends o) {event : Event} (stays : event ≠ .dispose) (keeps : event ≠ .clear)
    (step : o.step? id limit event = some o') :
    Settled count found o' ∨ count < o'.flights.length := by
  cases event with
  | start now =>
      right
      obtain ⟨pairs', -⟩ := pairs.start step
      rw [← pairs'.fetches_eq]
      simp only [Overlap.step?, Fetch.start, pairs.live, Bool.false_eq_true, if_false] at step
      cases step
      show count < o.entry.beginFetch.fetches
      rw [Entry.beginFetch, pairs.html, ← h.length_eq, ← pairs.fetches_eq]
      exact Nat.lt_succ_self _
  | clear => exact absurd rfl keeps
  | dispose => exact absurd rfl stays
  | answer i root a =>
      left
      obtain ⟨x, hx, waiting, rfl⟩ := step?_answer_some step
      obtain ⟨z, hz, landed⟩ := h.ends
      have lt := (List.getElem?_eq_some_iff.mp hx).1
      have ne : i ≠ count - 1 := by
        rintro rfl
        obtain rfl := Option.some.inj (hx.symm.trans hz)
        simp [Flight.finding?, waiting] at landed
      refine ⟨⟨z, (List.getElem?_set_ne ne).trans hz, landed⟩,
        List.length_set.trans h.length_eq, ?_⟩
      -- the flight leaves the entry alone or comes to its end
      obtain ⟨he, -⟩ | ⟨stat, links, sources, -, -, installs⟩ :=
        resume_entry x.fetch o.entry limit root a
      · rw [he]
        exact h.holds
      · -- the document holds what the last fetch found, and refuses what an earlier one did
        have mem := (pairs.mem_ends (count - 1 + 1) found).mpr
          ⟨z, List.mem_of_getElem? hz, pairs.numbered _ _ hz, landed⟩
        have le : count - 1 + 1 ≤ o.entry.installed := by
          rw [pairs.installed_eq]
          exact le_top_of_mem mem
        rw [install_html pairs.html pairs.live, Except.ok.injEq, pairs.numbered i x hx,
          if_pos (by have := h.length_eq; omega)] at installs
        rw [← installs]
        exact h.holds

/-- Unless another fetch is started, the last one stays the last. -/
theorem Settled.run? {count : Nat} {found : Entry.Finding} {start : Overlap} {after : List Event}
    (h : Settled count found start) (pairs : Pairs ends start)
    (run : start.run? id limit after = some o) (stays : .dispose ∉ after) (keeps : .clear ∉ after) :
    Settled count found o ∨ count < o.flights.length := by
  induction after using List.reverseRecOn generalizing o with
  | nil =>
      cases run
      exact .inl h
  | append_singleton events event ih =>
      rw [run?_append, Option.bind_eq_some_iff] at run
      obtain ⟨m, hm, last⟩ := run
      have step : m.step? id limit event = some o := by simpa [Overlap.run?] using last
      have stays' : .dispose ∉ events := fun mem => stays (List.mem_append_left _ mem)
      rcases ih hm stays' fun mem => keeps (List.mem_append_left _ mem) with settled | more
      · exact settled.step? (pairs.run? hm stays') (fun eq => stays (by simp [eq]))
          (fun eq => keeps (by simp [eq])) step
      · exact .inr (Nat.lt_of_lt_of_le more (length_le_of_step? step))

/-- The good end of the fetch that was started last settles the document. -/
theorem Pairs.settled (h : Pairs ends o) {event : Event} (stays : event ≠ .dispose)
    (step : o.step? id limit event = some o') {found : Entry.Finding}
    (success : o'.success? event = some (o'.flights.length, found)) :
    Settled o'.flights.length found o' := by
  obtain ⟨pairs, tells⟩ := h.step? stays step
  rw [success, Option.toList_some] at pairs
  obtain ⟨x, hx, number, landed⟩ :=
    (pairs.mem_ends o'.flights.length found).mp (List.mem_append_right _ (by simp))
  obtain ⟨j, hj⟩ := List.getElem?_of_mem hx
  have last : j = o'.flights.length - 1 := by
    have := pairs.numbered j x hj
    omega
  refine ⟨⟨x, last ▸ hj, landed⟩, rfl, ?_⟩
  cases tells with
  | links n found' success' _ _ holds =>
      cases success.symm.trans success'
      exact holds
  | nothing superseded _ =>
      -- no fetch was started later
      obtain ⟨p, mem, lt⟩ := superseded _ _ success
      obtain ⟨y, hy, number', -⟩ := (pairs.mem_ends p.1 p.2).mp (List.mem_append_left _ mem)
      obtain ⟨k, hk⟩ := List.getElem?_of_mem hy
      have := pairs.numbered k y hk
      have := (List.getElem?_eq_some_iff.mp hk).1
      omega

/-- Any number of fetches of one document, mixed in any way with each other and with clearing, and
failing in any pattern. Let `ends` be the fetches that have ended well, in the order of their ends.

* They are told of by number, each once: fetch `n` is among them when it has found something.
* What the document has told is the links of those among them that no later-started fetch has come
  before, each once, with numbers that only grow.
* Its names and its links are those that the last of these has found, or it has neither.
* Each further event tells the links that a fetch brings in with this event, if it is the latest to
  end well, and nothing otherwise.
* Once the fetch that was started last has ended well, all that the document holds is what this
  fetch found, unless the document is cleared. -/
theorem index_and_links_pair {events : List Event} {ends : List (Nat × Entry.Finding)}
    (run : (fresh .html path scope).run? id limit events = some o) (stays : .dispose ∉ events)
    (ended : successes id limit (fresh .html path scope) events = ends) :
    ((ends.map Prod.fst).Nodup ∧ ∀ n found, (n, found) ∈ ends ↔
      ∃ i x, n = i + 1 ∧ o.flights[i]? = some x ∧ x.finding? = some found) ∧
    (o.entry.sent = (unsuperseded 0 ends).map (fun p => .fetchComplete p.2.dependencies) ∧
      (unsuperseded 0 ends).Pairwise fun p q => p.1 < q.1) ∧
    ((o.entry.index = .empty ∧ o.entry.dependencies = []) ∨
      ∃ n found, (unsuperseded 0 ends).getLast? = some (n, found) ∧ Holds o.entry found) ∧
    (∀ event o', event ≠ .dispose → o.step? id limit event = some o' → Tells ends o event o') ∧
    ∀ before event after m found, events = before ++ event :: after →
      (fresh .html path scope).run? id limit (before ++ [event]) = some m →
      m.success? event = some (o.flights.length, found) → .clear ∉ after →
      HoldsAll o.entry found := by
  subst ended
  have pairs := pairs_of_run run stays
  refine ⟨⟨pairs.nodup, fun n found => ?_⟩, ⟨pairs.sent_eq, pairwise_unsuperseded 0 _⟩, pairs.holds,
    fun event o' stays' step => (pairs.step? stays' step).2, ?_⟩
  · rw [pairs.mem_ends]
    constructor
    · rintro ⟨x, mem, number, landed⟩
      obtain ⟨i, hi⟩ := List.getElem?_of_mem mem
      exact ⟨i, x, number.symm.trans (pairs.numbered i x hi), hi, landed⟩
    · rintro ⟨i, x, rfl, hi, landed⟩
      exact ⟨x, List.mem_of_getElem? hi, pairs.numbered i x hi, landed⟩
  · rintro before event after m found rfl run' success keeps
    simp only [List.mem_append, List.mem_cons, not_or] at stays
    obtain ⟨stays, other, stays'⟩ := stays
    rw [List.append_cons, run?_append, run', Option.bind_some] at run
    rw [run?_append, Option.bind_eq_some_iff] at run'
    obtain ⟨l, hl, last⟩ := run'
    have step : l.step? id limit event = some m := by simpa [run?] using last
    have earlier := pairs_of_run hl stays
    have later := (earlier.step? (Ne.symm other) step).1
    -- nothing is started after the last fetch
    have same : o.flights.length = m.flights.length := by
      refine Nat.le_antisymm ?_ (length_le_of_run? run)
      obtain ⟨x, hx, number, -⟩ := (later.mem_ends (o.flights.length) found).mp
        (List.mem_append_right _ (by simp [success]))
      obtain ⟨i, hi⟩ := List.getElem?_of_mem hx
      have := later.numbered i x hi
      have := (List.getElem?_eq_some_iff.mp hi).1
      omega
    rw [same] at success
    rcases (earlier.settled (Ne.symm other) step success).run? later run stays' keeps with
      settled | more
    · exact settled.holds
    · omega

/-- Four fetches of a document: the second ends well first, the third cannot read the file, the
document is cleared, and the fourth ends well. -/
def cleared : List Event :=
  [.start 1, .start 2, .start 3,
    .answer 0 none (.stat (.ok ⟨10, 4⟩)), .answer 1 none (.stat (.ok ⟨20, 4⟩)),
    .answer 2 none (.stat (.ok ⟨30, 4⟩)), .answer 2 none (.text (.error (.notFound ⟨"/a.html"⟩))),
    .answer 0 none (.text (.ok "<link rel=stylesheet href=a.css>")),
    .answer 1 none (.text (.ok "<link rel=stylesheet href=b.css>")), .answer 1 none .built,
    .clear, .start 4, .answer 3 none (.stat (.ok ⟨40, 4⟩)),
    .answer 3 none (.text (.ok "<style>.c{}</style><link rel=stylesheet href=c.css>")),
    .answer 3 none (.parsed 0 (.ok []))]

/-- The fourth fetch ends, and the first one, last of all. -/
theorem cleared_settles :
    ∃ m o, (fresh .html ⟨"/a.html"⟩ .registry).run? 0 100
        (cleared ++ [.answer 3 none .built]) = some m ∧
      (fresh .html ⟨"/a.html"⟩ .registry).run? 0 100
        (cleared ++ .answer 3 none .built :: [.answer 0 none .built]) = some o ∧
      o.entry.sent = [.fetchComplete [⟨"/b.css"⟩], .fetchComplete [⟨"/c.css"⟩]] ∧
      ∃ found, m.success? (.answer 3 none .built) = some (o.flights.length, found) ∧
        HoldsAll o.entry found := by
  have stays : .dispose ∉ cleared ++ .answer 3 none .built :: [.answer 0 none .built] := by
    simp [cleared]
  have facts : ((fresh .html ⟨"/a.html"⟩ .registry).run? 0 100
        (cleared ++ [.answer 3 none .built])).bind (fun m =>
      ((fresh .html ⟨"/a.html"⟩ .registry).run? 0 100
        (cleared ++ .answer 3 none .built :: [.answer 0 none .built])).map fun o =>
        ((m.success? (.answer 3 none .built)).map (·.1), o.flights.length, o.entry.sent)) =
      some (some 4, 4, [.fetchComplete [⟨"/b.css"⟩], .fetchComplete [⟨"/c.css"⟩]]) := by
    decide +kernel
  obtain ⟨m, hm, facts⟩ := Option.bind_eq_some_iff.mp facts
  obtain ⟨o, ho, eq⟩ := Option.map_eq_some_iff.mp facts
  simp only [Prod.mk.injEq] at eq
  obtain ⟨number, length, sent⟩ := eq
  obtain ⟨⟨_, found⟩, success, rfl⟩ := Option.map_eq_some_iff.mp number
  obtain ⟨-, -, -, -, settled⟩ := index_and_links_pair ho stays rfl
  rw [← length] at success
  exact ⟨m, o, hm, ho, sent, found, success,
    settled cleared _ _ m found rfl hm success (by simp)⟩

end SelectorCatalog.Overlap
