import Mathlib.Data.List.Induction
import SelectorCatalog.Entry.Fetch

/-!
# Overlapping fetches of one entry

An `Overlap` is an entry together with every fetch ever started on it. Its events are the starts of
fetches and the answers that the host gives to any of them, in any order, besides clearing and
disposal. So a run of an overlap is one of the ways in which the stats, reads, parses and installs
of any number of fetches can mix.

An event is all that happens between two moments of waiting. The index, the links and the times of
an entry and what it tells are each behind a lock of their own, but an installation does not wait
between writing the one and the other, so all of them change in one step. What another thread may
see between two of these writes is not modelled.

For a stylesheet that is neither cleared nor disposed of:

* `records`: after every run the entry shows what the latest-started fetch that has succeeded found,
  and each fetch is where its own answers have led it.
* `run?_inStartOrder`: the same fetches, one after the other in the order of their starts and with
  the same answers, come to the same.
* `overlapping_fetches_linearize` puts the two together.
-/

namespace SelectorCatalog

/-- A fetch of an entry: where it stands, or stood last, and what it came to once it is over. -/
structure Flight where
  fetch : Fetch
  result : Option (Except Error Unit) := none

/-- An entry with all the fetches ever started on it, in the order of their starts. -/
structure Overlap where
  entry : Entry
  flights : List Flight

namespace Flight

/-- The index, the links and the times that a fetch brought in, once it has succeeded. -/
def finding? (x : Flight) : Option Entry.Finding :=
  match x.result, x.fetch.stage with
  | some (.ok _), .build stat dependencies sources =>
    some ⟨Fetch.indexOf sources, dependencies, stat.modified, x.fetch.started⟩
  | _, _ => none

/-- Where a fetch stands after an answer has led it on. -/
def follow (x : Flight) : Fetch.Progress → Flight
  | .waiting stage => { x with fetch := { x.fetch with stage := stage } }
  | .finished result => { x with result := some result }

/-- Whether a fetch waits for an answer of that form. -/
def expects (x : Flight) (a : Answer) : Bool :=
  x.result.isNone && x.fetch.expects a

end Flight

namespace Overlap

/-- Something that happens to an entry. -/
inductive Event where
  /-- A fetch is started. -/
  | start (now : Time)
  /-- The host answers the fetch of a number, while the project has that root. -/
  | answer (flight : Nat) (root : Option Path) (answer : Answer)
  | clear
  | dispose

/-- Whether an event belongs to a fetch. -/
def Event.isFetch : Event → Bool
  | start _ | answer .. => true
  | clear | dispose => false

/-- A new entry. -/
def fresh (kind : EntryKind) (path : Path) (scope : Scope) : Overlap :=
  ⟨{ kind := kind, path := path, scope := scope }, []⟩

/-- The state after an event; `none` when the event cannot happen now. A fetch of a disposed entry
is over as soon as it is started. -/
def step? (id : EntryId) (limit : Nat) (o : Overlap) : Event → Option Overlap
  | .start now =>
    match Fetch.start id o.entry now with
    | .ok (e, fetch) => some ⟨e, o.flights ++ [{ fetch := fetch }]⟩
    | .error error =>
      some { o with flights := o.flights ++
        [⟨⟨id, o.entry.fetches, now, .stat⟩, some (.error error)⟩] }
  | .answer i root a =>
    match o.flights[i]? with
    | some x =>
      if x.expects a then
        let (e, _, progress) := x.fetch.resume o.entry limit root a
        some ⟨e, o.flights.set i (x.follow progress)⟩
      else none
    | none => none
  | .clear => some { o with entry := o.entry.clear }
  | .dispose => some { o with entry := o.entry.dispose }

/-- The state after a list of events. -/
def run? (id : EntryId) (limit : Nat) (o : Overlap) (events : List Event) : Option Overlap :=
  events.foldlM (step? id limit) o

/-- What the latest-started fetch that succeeded has found, with its number. -/
def latest? (flights : List Flight) : Option (Nat × Entry.Finding) :=
  (flights.filterMap fun x => x.finding?.map fun found => (x.fetch.generation, found)).getLast?

/-- The starts among events. -/
def starts (events : List Event) : List Time :=
  events.filterMap fun
    | .start now => some now
    | _ => none

/-- The answers to one fetch among events. -/
def answersTo (i : Nat) (events : List Event) : List Event :=
  events.filter fun
    | .answer j _ _ => j == i
    | _ => false

/-- Each start followed by all answers to its fetch, in the order of the starts. -/
def inStartOrder (events : List Event) : List Event :=
  (starts events).zipIdx.flatMap fun (now, i) => .start now :: answersTo i events

/-! ## One answer -/

/-- An answer leaves the entry alone, or it ends the fetch well and installs what the fetch found.
-/
theorem resume_entry (f : Fetch) (e : Entry) (limit : Nat) (root : Option Path) (a : Answer) :
    ((f.resume e limit root a).1 = e ∧ (f.resume e limit root a).2.2 ≠ .finished (.ok ())) ∨
      ∃ stat dependencies sources, f.stage = .build stat dependencies sources ∧
        (f.resume e limit root a).2.2 = .finished (.ok ()) ∧
        e.install f.generation ⟨Fetch.indexOf sources, dependencies, stat.modified, f.started⟩
          = .ok (f.resume e limit root a).1 := by
  unfold Fetch.resume
  split
  case h_2 => split <;> simp
  case h_5 => simp only [Fetch.afterParse]; split <;> simp
  case h_6 stat dependencies sources hs =>
      -- only here is the entry touched
      split
      · next d h => exact Or.inr ⟨stat, dependencies, sources, hs, rfl, h⟩
      · exact Or.inl ⟨rfl, by simp⟩
  all_goals simp

/-- What a live stylesheet makes of what a fetch found: it is taken over whole, unless a later fetch
came first. -/
theorem install_css {e : Entry} (css : e.kind = .css) (live : e.isDisposed = false)
    (generation : Nat) (found : Entry.Finding) :
    e.install generation found = .ok (if generation < e.installed then e else
      { e with
        index := found.index
        installed := generation
        timestamp := some found.modified
        indexedAt := some found.started }) := by
  by_cases h : generation < e.installed <;> simp [Entry.install, css, live, h]

/-- How an answer leads a stylesheet's fetch on. The entry does not matter as long as it is live. -/
def progress (path : Path) (limit : Nat) (f : Fetch) (a : Answer) : Fetch.Progress :=
  (f.resume { kind := .css, path := path, scope := .standalone } limit none a).2.2

theorem resume_progress {e : Entry} (css : e.kind = .css) (live : e.isDisposed = false) (f : Fetch)
    (limit : Nat) (root : Option Path) (a : Answer) :
    (f.resume e limit root a).2.2 = progress e.path limit f a := by
  unfold progress Fetch.resume
  split
  case h_2 => split <;> rfl
  case h_4 => simp [Fetch.stageAfterText, css]
  case h_5 stat dependencies blocks i result hs =>
      cases result <;> simp [Fetch.afterParse, Fetch.fatal?, css]
  case h_6 =>
      rw [install_css css live,
        install_css (e := { kind := .css, path := e.path, scope := .standalone }) rfl rfl]
  all_goals rfl

/-! ## The entry -/

/-- An entry on which a number of fetches were started and which shows what one of them found, if
any. -/
def reflect (e : Entry) (count : Nat) : Option (Nat × Entry.Finding) → Entry
  | none => { e with fetches := count }
  | some (generation, found) =>
    { e with
      fetches := count
      installed := generation
      index := found.index
      timestamp := some found.modified
      indexedAt := some found.started }

/-- What holds of a stylesheet's overlap after every run in which it is neither cleared nor disposed
of: the fetches are numbered in the order of their starts, and the entry shows what the last of them
to succeed found. -/
structure Tracks (path : Path) (scope : Scope) (o : Overlap) : Prop where
  entry_eq : o.entry = reflect (fresh .css path scope).entry o.flights.length (latest? o.flights)
  numbered : ∀ i x, o.flights[i]? = some x → x.fetch.generation = i + 1

/-- What the last of several fetches to succeed has found, when one of them has moved on. -/
theorem latest?_set {flights : List Flight} {i : Nat} {x : Flight} (y : Flight)
    (h : flights[i]? = some x) :
    latest? (flights.set i y) =
      (latest? (flights.drop (i + 1))).or
        ((y.finding?.map fun found => (y.fetch.generation, found)).or
          (latest? (flights.take i))) := by
  have hi : i < flights.length := (List.getElem?_eq_some_iff.mp h).1
  rw [latest?, List.set_eq_take_append_cons_drop, if_pos hi, List.filterMap_append,
    List.getLast?_append, List.filterMap_cons]
  cases hy : y.finding? with
  | none => simp [latest?]
  | some found =>
      simp only [Option.map_some, latest?, Option.some_or]
      rw [List.getLast?_cons]
      cases (List.filterMap _ (List.drop (i + 1) flights)).getLast? <;> simp

/-- The same for the fetches as they are. -/
theorem latest?_eq {flights : List Flight} {i : Nat} {x : Flight} (h : flights[i]? = some x) :
    latest? flights =
      (latest? (flights.drop (i + 1))).or
        ((x.finding?.map fun found => (x.fetch.generation, found)).or
          (latest? (flights.take i))) := by
  have hi : i < flights.length := (List.getElem?_eq_some_iff.mp h).1
  have hx : flights.set i x = flights := by
    rw [List.getElem?_eq_some_iff] at h
    obtain ⟨_, rfl⟩ := h
    exact List.set_getElem_self hi
  rw [← latest?_set x h, hx]

/-- What was found last was found by one of the fetches. -/
theorem mem_of_latest? {flights : List Flight} {found : Nat × Entry.Finding}
    (h : latest? flights = some found) :
    ∃ x ∈ flights, x.fetch.generation = found.1 ∧ x.finding? = some found.2 := by
  obtain ⟨x, hx, hm⟩ := List.mem_filterMap.mp (List.mem_of_getLast? h)
  obtain ⟨_, hf, rfl⟩ := Option.map_eq_some_iff.mp hm
  exact ⟨x, hx, rfl, hf⟩

variable {path : Path} {scope : Scope} {id : EntryId} {limit : Nat} {o : Overlap}

/-- What a fetch found is a live index. -/
theorem Flight.isDisposed_of_finding? {x : Flight} {found : Entry.Finding}
    (h : x.finding? = some found) : found.index.isDisposed = false := by
  rw [Flight.finding?] at h
  split at h
  · cases h
    exact Fetch.isDisposed_indexOf _
  · cases h

namespace Tracks

/-- The entry is a stylesheet. -/
theorem kind_eq (t : Tracks path scope o) : o.entry.kind = .css := by
  rw [t.entry_eq]
  cases latest? o.flights <;> rfl

theorem path_eq (t : Tracks path scope o) : o.entry.path = path := by
  rw [t.entry_eq]
  cases latest? o.flights <;> rfl

/-- Each flight has a number. -/
theorem fetches_eq (t : Tracks path scope o) : o.entry.fetches = o.flights.length := by
  rw [t.entry_eq]
  cases latest? o.flights <;> rfl

/-- The entry is live. -/
theorem live (t : Tracks path scope o) : o.entry.isDisposed = false := by
  rw [t.entry_eq]
  cases h : latest? o.flights with
  | none => rfl
  | some found =>
      obtain ⟨x, -, -, hx⟩ := mem_of_latest? h
      exact Flight.isDisposed_of_finding? hx

/-- At first there are no flights. -/
theorem of_fresh (path : Path) (scope : Scope) : Tracks path scope (fresh .css path scope) where
  entry_eq := rfl
  numbered := by simp [fresh]

end Tracks

/-- A fetch that has just been started. -/
def launched (id : EntryId) (i : Nat) (now : Time) : Flight :=
  { fetch := ⟨id, i + 1, now, .stat⟩ }

/-- A start adds a fetch that waits for its first answer. -/
theorem step?_start (id : EntryId) (limit : Nat) (t : Tracks path scope o) (now : Time) :
    ∃ o', o.step? id limit (.start now) = some o' ∧
      o'.flights = o.flights ++ [launched id o.flights.length now] ∧ Tracks path scope o' := by
  have begun : o.entry.beginFetch = { o.entry with fetches := o.flights.length + 1 } := by
    simp [Entry.beginFetch, t.kind_eq, t.fetches_eq]
  refine ⟨⟨o.entry.beginFetch, o.flights ++ [launched id o.flights.length now]⟩, ?_, rfl, ?_, ?_⟩
  · simp [step?, Fetch.start, t.live, begun, launched]
  · have still : latest? (o.flights ++ [launched id o.flights.length now]) = latest? o.flights := by
      simp [latest?, launched, Flight.finding?]
    rw [begun, still, t.entry_eq]
    cases latest? o.flights <;> simp [reflect]
  · intro i x hx
    rw [List.getElem?_append] at hx
    split at hx
    · exact t.numbered i x hx
    · obtain ⟨h, rfl⟩ : i - o.flights.length = 0 ∧ launched id o.flights.length now = x := by
        cases h : i - o.flights.length with
        | zero => simpa [h] using hx
        | succ n => simp [h] at hx
      simp only [launched]
      omega

/-- A fetch that was not brought to a good end by an answer has found nothing. -/
theorem Flight.finding?_follow {x : Flight} {p : Fetch.Progress} (waiting : x.result = none)
    (h : p ≠ .finished (.ok ())) : (x.follow p).finding? = none := by
  cases p with
  | waiting stage => simp [Flight.follow, Flight.finding?, waiting]
  | finished result =>
      cases result with
      | ok _ => exact absurd rfl h
      | error error => simp [Flight.follow, Flight.finding?]

/-- The number of the fetch whose findings the entry shows is one of the fetches'. -/
theorem Tracks.installed_of_latest? (t : Tracks path scope o) {found : Nat × Entry.Finding}
    (h : latest? o.flights = some found) : o.entry.installed = found.1 := by
  rw [t.entry_eq, h]
  rfl

/-- When no later fetch has succeeded yet, the entry takes over what a fetch found. -/
theorem Tracks.installed_le (t : Tracks path scope o) {i : Nat}
    (h : latest? (o.flights.drop (i + 1)) = none) {x : Flight} (hx : o.flights[i]? = some x)
    (none : x.finding? = none) : o.entry.installed ≤ i := by
  have before : latest? o.flights = latest? (o.flights.take i) := by
    rw [latest?_eq hx, h, none]
    rfl
  cases hl : latest? (o.flights.take i) with
  | none =>
      rw [t.entry_eq, before, hl]
      exact Nat.zero_le _
  | some found =>
      rw [t.installed_of_latest? (before.trans hl)]
      obtain ⟨y, hy, hg, -⟩ := mem_of_latest? hl
      obtain ⟨j, hj⟩ := List.mem_iff_getElem?.mp hy
      rw [List.getElem?_take] at hj
      split at hj
      · have := t.numbered j y hj
        omega
      · cases hj

/-- When a later fetch has succeeded already, its number is larger. -/
theorem Tracks.lt_of_latest?_drop (t : Tracks path scope o) {i : Nat} {found : Nat × Entry.Finding}
    (h : latest? (o.flights.drop (i + 1)) = some found) : i + 1 < found.1 := by
  obtain ⟨y, hy, hg, -⟩ := mem_of_latest? h
  obtain ⟨j, hj⟩ := List.mem_iff_getElem?.mp hy
  rw [List.getElem?_drop] at hj
  have := t.numbered _ y hj
  omega

/-- What a fetch found is taken over, and shown unless a later fetch came first. -/
theorem Tracks.install_eq (t : Tracks path scope o) {i : Nat} {x y : Flight}
    (hx : o.flights[i]? = some x) (nothing : x.finding? = none) {found : Entry.Finding}
    (hy : y.finding? = some found) (number : y.fetch.generation = i + 1) :
    (if i + 1 < o.entry.installed then o.entry else
      { o.entry with
        index := found.index
        installed := i + 1
        timestamp := some found.modified
        indexedAt := some found.started }) =
      reflect (fresh .css path scope).entry o.flights.length (latest? (o.flights.set i y)) := by
  have shown := t.entry_eq
  rw [latest?_eq hx, nothing] at shown
  rw [latest?_set y hx, hy, number]
  cases hl : latest? (o.flights.drop (i + 1)) with
  -- a later fetch has landed, and this one is superseded
  | some later =>
      have lt := t.lt_of_latest?_drop hl
      have eq := t.installed_of_latest? (by rw [latest?_eq hx, hl]; rfl)
      rw [if_pos (by omega), shown, hl]
      rfl
  -- the latest that has landed, so far, is this one
  | none =>
      have le := t.installed_le hl hx nothing
      rw [if_neg (by omega), shown, hl]
      cases latest? (o.flights.take i) <;> rfl

/-- How far a fetch is says nothing about its number. -/
theorem Flight.generation_follow (x : Flight) (p : Fetch.Progress) :
    (x.follow p).fetch.generation = x.fetch.generation := by
  cases p <;> rfl

theorem step?_answer (id : EntryId) (limit : Nat) (t : Tracks path scope o) {i : Nat} {x : Flight}
    (hx : o.flights[i]? = some x) (root : Option Path) {a : Answer} (ha : x.expects a = true) :
    ∃ o', o.step? id limit (.answer i root a) = some o' ∧
      o'.flights = o.flights.set i (x.follow (progress path limit x.fetch a)) ∧
      Tracks path scope o' := by
  have waiting : x.result = none := by
    simp only [Flight.expects, Bool.and_eq_true, Option.isNone_iff_eq_none] at ha
    exact ha.1
  have nothing : x.finding? = none := by simp [Flight.finding?, waiting]
  have along : (x.fetch.resume o.entry limit root a).2.2 = progress path limit x.fetch a := by
    rw [resume_progress t.kind_eq t.live, t.path_eq]
  let y := x.follow (progress path limit x.fetch a)
  have number : y.fetch.generation = i + 1 := by
    rw [Flight.generation_follow, t.numbered i x hx]
  refine ⟨⟨(x.fetch.resume o.entry limit root a).1, o.flights.set i y⟩, ?_, rfl, ?_, ?_⟩
  · simp [step?, hx, ha, along, y]
  · rw [List.length_set]
    -- the answer leaves the entry alone, or installs what the flight has found
    obtain ⟨he, hp⟩ | ⟨stat, dependencies, sources, hs, hp, he⟩ :=
      resume_entry x.fetch o.entry limit root a
    · -- the entry is left alone, and shows what it showed
      rw [latest?_set y hx, Flight.finding?_follow waiting (along ▸ hp), he, t.entry_eq,
        latest?_eq hx, nothing]
      rfl
    · have found : y.finding?
          = some ⟨Fetch.indexOf sources, dependencies, stat.modified, x.fetch.started⟩ := by
        show (x.follow (progress path limit x.fetch a)).finding? = _
        rw [← along, hp]
        simp [Flight.follow, Flight.finding?, hs]
      rw [install_css t.kind_eq t.live, Except.ok.injEq, t.numbered i x hx] at he
      rw [← he]
      exact t.install_eq hx nothing found number
  -- the flight keeps its number
  · intro j z hz
    rw [List.getElem?_set] at hz
    split at hz
    · next h =>
        split at hz
        · subst h
          cases hz
          exact number
        · cases hz
    · exact t.numbered j z hz

/-! ## The order of the events -/

/-- How an answer leads one fetch on, whatever happens to the others. -/
def advance (path : Path) (limit : Nat) (x : Flight) : Event → Option Flight
  | .answer _ _ a => if x.expects a then some (x.follow (progress path limit x.fetch a)) else none
  | _ => none

/-- What a run's events tell about its fetches: each came to what its own answers lead to. -/
structure Records (path : Path) (scope : Scope) (id : EntryId) (limit : Nat) (events : List Event)
    (o : Overlap) : Prop where
  tracks : Tracks path scope o
  length_eq : o.flights.length = (starts events).length
  flight_eq : ∀ i now, (starts events)[i]? = some now →
    (answersTo i events).foldlM (advance path limit) (launched id i now) = o.flights[i]?
  answersTo_eq_nil : ∀ i, o.flights.length ≤ i → answersTo i events = []

/-- A run of two parts is a run of the one after the other. -/
theorem run?_append (o : Overlap) (events later : List Event) :
    o.run? id limit (events ++ later) = (o.run? id limit events).bind (·.run? id limit later) := by
  simp only [run?, List.foldlM_append]
  rfl

/-- The record goes on with a new flight. -/
theorem Records.start {events : List Event} (r : Records path scope id limit events o) {now : Time}
    {o' : Overlap} (h : o.step? id limit (.start now) = some o') :
    Records path scope id limit (events ++ [.start now]) o' := by
  obtain ⟨_, h', hf, t⟩ := step?_start id limit r.tracks now
  obtain rfl := Option.some.inj (h'.symm.trans h)
  have same : ∀ i, answersTo i (events ++ [.start now]) = answersTo i events := by simp [answersTo]
  have more : starts (events ++ [.start now]) = starts events ++ [now] := by simp [starts]
  refine ⟨t, ?_, ?_, ?_⟩
  · rw [hf, more, List.length_append, List.length_append, r.length_eq]
    rfl
  · intro i now' hi
    rw [more, List.getElem?_append] at hi
    rw [same, hf, List.getElem?_append, r.length_eq]
    split at hi
    · next lt => rw [if_pos lt, r.flight_eq i now' hi]
    -- the flight just started has no answers yet
    · next ge =>
        obtain ⟨hz, rfl⟩ : i - (starts events).length = 0 ∧ now = now' := by
          cases h : i - (starts events).length with
          | zero => simpa [h] using hi
          | succ n => simp [h] at hi
        have hi' : i = (starts events).length := by omega
        rw [if_neg ge, r.answersTo_eq_nil i (by rw [r.length_eq]; omega), hi']
        simp
  · intro i hi
    rw [hf, List.length_append] at hi
    rw [same, r.answersTo_eq_nil i (by omega)]

theorem Records.answer {events : List Event} (r : Records path scope id limit events o) {i : Nat}
    {root : Option Path} {a : Answer} {o' : Overlap}
    (h : o.step? id limit (.answer i root a) = some o') :
    Records path scope id limit (events ++ [.answer i root a]) o' := by
  -- a step was taken, so the flight was there and expected the answer
  obtain ⟨x, hx, ha⟩ : ∃ x, o.flights[i]? = some x ∧ x.expects a = true := by
    simp only [step?] at h
    split at h
    · next x hx =>
        split at h
        · next ha => exact ⟨x, hx, ha⟩
        · cases h
    · cases h
  obtain ⟨_, h', hf, t⟩ := step?_answer id limit r.tracks hx root ha
  obtain rfl := Option.some.inj (h'.symm.trans h)
  have hi : i < o.flights.length := (List.getElem?_eq_some_iff.mp hx).1
  have same : starts (events ++ [.answer i root a]) = starts events := by simp [starts]
  have own : answersTo i (events ++ [.answer i root a]) = answersTo i events ++
      [.answer i root a] := by
    simp [answersTo]
  -- the other flights have the answers they had
  have others : ∀ j, i ≠ j → answersTo j (events ++ [.answer i root a]) = answersTo j events := by
    intro j hj
    simp [answersTo, hj]
  refine ⟨t, by rw [hf, same, List.length_set, r.length_eq], ?_, ?_⟩
  · intro j now hj
    rw [same] at hj
    rw [hf, List.getElem?_set]
    by_cases hij : i = j
    · subst hij
      rw [own, List.foldlM_append, r.flight_eq i now hj, hx, if_pos rfl, if_pos hi]
      simp [advance, ha]
    · rw [others j hij, if_neg hij, r.flight_eq j now hj]
  · intro j hj
    rw [hf, List.length_set] at hj
    rw [others j (by omega), r.answersTo_eq_nil j hj]

theorem records {events : List Event} (run : (fresh .css path scope).run? id limit events = some o)
    (fetching : ∀ event ∈ events, event.isFetch = true) : Records path scope id limit events o := by
  induction events using List.reverseRecOn generalizing o with
  | nil =>
      cases run
      exact ⟨.of_fresh path scope, rfl, by simp [starts], by simp [answersTo]⟩
  | append_singleton events event ih =>
      rw [run?_append, Option.bind_eq_some_iff] at run
      obtain ⟨m, hm, last⟩ := run
      have r := ih hm fun event h => fetching event (by simp [h])
      have step : m.step? id limit event = some o := by simpa [run?] using last
      have one : event.isFetch = true := fetching event (by simp)
      cases event with
      | start now => exact r.start step
      | answer i root a => exact r.answer step
      | clear => cases one
      | dispose => cases one

/-- The answers to the fetch started last, one after the other. -/
theorem run?_answers (id : EntryId) {block : List Event} {flights : List Flight} {x y : Flight}
    (t : Tracks path scope o) (h : o.flights = flights ++ [x])
    (own : ∀ event ∈ block, ∃ root a, event = .answer flights.length root a)
    (hy : block.foldlM (advance path limit) x = some y) :
    ∃ o', o.run? id limit block = some o' ∧ o'.flights = flights ++ [y] ∧ Tracks path scope o' := by
  induction block generalizing o x with
  | nil =>
      cases hy
      exact ⟨o, rfl, h, t⟩
  | cons event block ih =>
      obtain ⟨root, a, rfl⟩ := own event (by simp)
      rw [List.foldlM_cons, Option.bind_eq_bind, Option.bind_eq_some_iff] at hy
      obtain ⟨z, hz, rest⟩ := hy
      simp only [advance] at hz
      split at hz
      -- each answer of the block is expected when it comes
      · next ha =>
          cases hz
          obtain ⟨m, hm, hf, tm⟩ := step?_answer id limit t (i := flights.length) (x := x)
            (by simp [h]) root ha
          rw [h, List.set_append_right _ _ (Nat.le_refl _), Nat.sub_self, List.set_cons_zero] at hf
          obtain ⟨o', ho', hf', t'⟩ := ih tm hf (fun event he => own event (by simp [he])) rest
          exact ⟨o', by simpa [run?, hm] using ho', hf', t'⟩
      · cases hz

/-- Fetches one after the other, each with answers of its own. -/
theorem run?_blocks (times : List Time) (blocks : Nat → List Event) (flights : List Flight)
    (length_eq : flights.length = times.length)
    (own : ∀ i, ∀ event ∈ blocks i, ∃ root a, event = .answer i root a)
    (flight_eq : ∀ i now, times[i]? = some now →
      (blocks i).foldlM (advance path limit) (launched id i now) = flights[i]?) :
    ∃ o', (fresh .css path scope).run? id limit
    (times.zipIdx.flatMap fun (now, i) => .start now :: blocks i) = some o' ∧
      o'.flights = flights ∧ Tracks path scope o' := by
  -- the fetch that is started last is run last
  induction times using List.reverseRecOn generalizing flights with
  | nil =>
      obtain rfl := List.eq_nil_of_length_eq_zero length_eq
      exact ⟨_, rfl, rfl, .of_fresh path scope⟩
  | append_singleton times now ih =>
      obtain ⟨before, x, rfl⟩ : ∃ before x, flights = before ++ [x] := by
        rcases List.eq_nil_or_concat flights with rfl | ⟨before, x, rfl⟩
        · simp at length_eq
        · exact ⟨before, x, List.concat_eq_append⟩
      have length_eq' : before.length = times.length := by simpa using length_eq
      obtain ⟨m, hm, hf, tm⟩ := ih before length_eq' fun i now' hi => by
        have lt : i < times.length := (List.getElem?_eq_some_iff.mp hi).1
        rw [flight_eq i now' (by rw [List.getElem?_append_left lt, hi]),
          List.getElem?_append_left (by omega)]
      obtain ⟨n, hn, hnf, tn⟩ := step?_start id limit tm now
      have last : (blocks times.length).foldlM (advance path limit) (launched id times.length now) =
          some x := by
        rw [flight_eq times.length now (by simp), ← length_eq']
        simp
      rw [hf, length_eq'] at hnf
      obtain ⟨o', ho', hf', t'⟩ := run?_answers id tn hnf (length_eq' ▸ own times.length) last
      refine ⟨o', ?_, hf', t'⟩
      rw [List.zipIdx_append, List.flatMap_append, run?_append, hm]
      simpa [run?, hn] using ho'

/-- What is kept of the events are the answers to one flight. -/
theorem mem_answersTo {i : Nat} {events : List Event} {event : Event}
    (h : event ∈ answersTo i events) : ∃ root a, event = .answer i root a := by
  obtain ⟨-, he⟩ := List.mem_filter.mp h
  cases event with
  | answer j root a => exact ⟨root, a, by rw [beq_iff_eq.mp he]⟩
  | start now => cases he
  | clear => cases he
  | dispose => cases he

/-- **Fetches linearize to the order of their starts.** -/
theorem run?_inStartOrder {events : List Event} (r : Records path scope id limit events o) :
    ∃ o', (fresh .css path scope).run? id limit (inStartOrder events) = some o' ∧
      o'.flights = o.flights ∧ o'.entry = o.entry := by
  obtain ⟨o', ho', hf, t⟩ := run?_blocks (starts events) (answersTo · events) o.flights r.length_eq
    (fun _ _ h => mem_answersTo h) r.flight_eq
  exact ⟨o', ho', hf, by rw [t.entry_eq, r.tracks.entry_eq, hf]⟩

/-- Whether the index and both times of an entry are those that a fetch brought in, or those of a
new entry. -/
def Shows (e : Entry) : Option (Nat × Entry.Finding) → Prop
  | none => e.index = .empty ∧ e.timestamp = none ∧ e.indexedAt = none
  | some (_, found) =>
    e.index = found.index ∧ e.timestamp = some found.modified ∧ e.indexedAt = some found.started

theorem Tracks.shows (t : Tracks path scope o) : Shows o.entry (latest? o.flights) := by
  rw [t.entry_eq]
  cases latest? o.flights <;> exact ⟨rfl, rfl, rfl⟩

/-- Only the success of a fetch changes what the entry shows: neither its start nor a failure does.
-/
theorem Tracks.step?_of_isFetch (t : Tracks path scope o) {event : Event} {o' : Overlap}
    (fetch : event.isFetch = true) (step : o.step? id limit event = some o') :
    (o'.entry.index = o.entry.index ∧ o'.entry.timestamp = o.entry.timestamp ∧
        o'.entry.indexedAt = o.entry.indexedAt) ∨
      ∃ i root a, event = .answer i root a ∧ (o'.flights[i]?).bind (·.result) = some (.ok ()) := by
  cases event with
  | start now =>
      obtain ⟨_, h, hf, t'⟩ := step?_start id limit t now
      obtain rfl := Option.some.inj (h.symm.trans step)
      have still : latest? (o.flights ++ [launched id o.flights.length now]) =
          latest? o.flights := by
        simp [latest?, launched, Flight.finding?]
      left
      rw [t'.entry_eq, t.entry_eq, hf, still]
      cases latest? o.flights <;> exact ⟨rfl, rfl, rfl⟩
  | answer i root a =>
      simp only [step?] at step
      split at step
      · next x hx =>
          split at step
          · cases step
            rcases resume_entry x.fetch o.entry limit root a with ⟨he, -⟩ | ⟨_, _, _, -, hp, -⟩
            · exact Or.inl ⟨by rw [he], by rw [he], by rw [he]⟩
            · have hi : i < o.flights.length := (List.getElem?_eq_some_iff.mp hx).1
              exact Or.inr ⟨i, root, a, rfl, by simp [hp, hi, Flight.follow]⟩
          · cases step
      · cases step
  | clear => cases fetch
  | dispose => cases fetch

/-- Any number of fetches of one stylesheet, mixed in any way and failing in any pattern: the index
and both times always come from one and the same fetch, the latest-started of those that have
succeeded; nothing but a success changes them; and the same fetches one after the other, in the
order of their starts, come to the same. -/
theorem overlapping_fetches_linearize {path : Path} {scope : Scope} {id : EntryId} {limit : Nat}
    {events : List Event} {o : Overlap}
    (run : (fresh .css path scope).run? id limit events = some o)
    (fetching : ∀ event ∈ events, event.isFetch = true) :
    Shows o.entry (latest? o.flights) ∧
    (∀ event o', event.isFetch = true → o.step? id limit event = some o' →
      (o'.entry.index = o.entry.index ∧ o'.entry.timestamp = o.entry.timestamp ∧
          o'.entry.indexedAt = o.entry.indexedAt) ∨
        ∃ i root a, event = .answer i root a ∧ (o'.flights[i]?).bind (·.result) = some (.ok ())) ∧
    ∃ o', (fresh .css path scope).run? id limit (inStartOrder events) = some o' ∧
      o'.flights = o.flights ∧ o'.entry = o.entry := by
  have r := records run fetching
  exact ⟨r.tracks.shows, fun _ _ fetch step => r.tracks.step?_of_isFetch fetch step,
    run?_inStartOrder r⟩

/-- Three fetches: the second succeeds first, the third cannot read the file, the first succeeds
last of all. -/
def lateFirst : List Event :=
  [.start 1, .start 2, .start 3,
    .answer 0 none (.stat (.ok ⟨10, 4⟩)), .answer 1 none (.stat (.ok ⟨20, 4⟩)),
    .answer 2 none (.stat (.ok ⟨30, 4⟩)),
    .answer 2 none (.text (.error (.notFound ⟨"/a.css"⟩))), .answer 1 none (.text (.ok ".b{}")),
    .answer 0 none (.text (.ok ".a{}")), .answer 1 none (.parsed 0 (.ok [])), .answer 1 none .built,
    .answer 0 none (.parsed 0 (.ok [])), .answer 0 none .built]

theorem lateFirst_linearizes :
    (∀ event ∈ lateFirst, event.isFetch = true) ∧
    ∃ o, (fresh .css ⟨"/a.css"⟩ .registry).run? 0 100 lateFirst = some o ∧
      o.entry.timestamp = some 20 ∧
      Shows o.entry (latest? o.flights) ∧
      ∃ o', (fresh .css ⟨"/a.css"⟩ .registry).run? 0 100 (inStartOrder lateFirst) = some o' ∧
        o'.entry = o.entry := by
  have fetching : ∀ event ∈ lateFirst, event.isFetch = true := by decide
  have shown : ((fresh .css ⟨"/a.css"⟩ .registry).run? 0 100 lateFirst).map (·.entry.timestamp) =
      some (some 20) := by
    decide +kernel
  obtain ⟨o, run, time⟩ := Option.map_eq_some_iff.mp shown
  obtain ⟨shows, -, o', run', -, same⟩ := overlapping_fetches_linearize run fetching
  exact ⟨fetching, o, run, time, shows, o', run', same⟩

end Overlap

end SelectorCatalog
