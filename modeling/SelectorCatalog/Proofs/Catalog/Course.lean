import SelectorCatalog.Proofs.Catalog.Check
import SelectorCatalog.Proofs.Catalog.Refetch
import SelectorCatalog.Proofs.Entry.Course

/-!
# What fetches were told

Each fetch is known by its entry and its number. `Tells` says that a fetch was given an answer along
a run, and at which stage it was then; `Work.Follows` that all fetches are where their answers have
led them, and that entries show what follows from the answers to one of their fetches, or nothing.
Every event keeps that (`follows_step?`), so it holds after every run (`follows_of_run`), whatever
the host and the parser answer, in whatever order.

Of a document it follows that its style elements are merged in their order
(`styles_are_merged_in_order`).
-/

namespace SelectorCatalog.Catalog

open Job (Purpose Stage)

/-- Along a list of events the fetch of a number of an entry is given an answer, at a stage. -/
def Tells (c : Catalog) (events : List Event) (id : EntryId) (number : Nat) (stage : Fetch.Stage)
    (a : Answer) : Prop :=
  ∃ early job late b f, events = early ++ .answer job a :: late ∧ Run c early b ∧
    b.fetch? job = some f ∧ f.entry = id ∧ f.generation = number ∧ f.stage = stage

/-- An entry shows what follows from what the fetch of its number was told: the rules of each text
that the parser took, one text after the other. -/
def ShowsTold (limit : Nat) (told : EntryId → Nat → Fetch.Stage → Answer → Prop) (id : EntryId)
    (e : Entry) : Prop :=
  ∃ stat text outcomes, Fetch.HasText limit (told id e.installed) stat text ∧
    outcomes.length = (Fetch.parsedTexts e.kind text).length ∧
    (∀ i result, outcomes[i]? = some result → ∃ s, told id e.installed s (.parsed i result)) ∧
    e.index = SelectorIndex.empty.addTaken (Fetch.parsedTexts e.kind text) outcomes

/-- Fetches are where what they were told has led them, and entries show what follows from that, or
nothing. -/
structure Work.Follows (told : EntryId → Nat → Fetch.Stage → Answer → Prop) (w : Work) : Prop where
  fetch : ∀ {j f}, w.fetch? j = some f → ∃ e : Entry, w.entries[f.entry]? = some e ∧
    f.stage.Follows w.limit e.kind (told f.entry f.generation)
  known : ∀ {id number s a}, told id number s a →
    ∃ e : Entry, w.entries[id]? = some e ∧ number ≤ e.fetches
  shown : ∀ {id : EntryId} {e : Entry}, w.entries[id]? = some e →
    e.index = .disposed ∨ e.index = .empty ∨ ShowsTold w.limit told id e

variable {event : Event} {events : List Event} {v w : Work} {b c d : Catalog} {id : EntryId}
  {number limit : Nat} {job : JobId} {a : Answer} {f : Fetch} {e : Entry} {stage : Fetch.Stage}
  {told told' : EntryId → Nat → Fetch.Stage → Answer → Prop}

/-! ## What is told along a run -/

/-- Without events a fetch is told nothing. -/
theorem not_tells_nil : ¬Tells c [] id number stage a := by
  rintro ⟨early, job, late, b, f, eq, -⟩
  simp at eq

/-- One more event tells what it brings to the fetch of its job. -/
theorem tells_append_iff (run : Run c events d) :
    Tells c (events ++ [event]) id number stage a ↔ Tells c events id number stage a ∨
      ∃ job f, event = .answer job a ∧ d.fetch? job = some f ∧ f.entry = id ∧
        f.generation = number ∧ f.stage = stage := by
  constructor
  · rintro ⟨early, job, late, b, f, eq, first, rest⟩
    rcases List.eq_nil_or_concat late with rfl | ⟨late, last, rfl⟩
    · obtain ⟨rfl, last⟩ := List.append_inj' eq rfl
      obtain rfl : b = d := by
        rw [run_iff_replay?] at first run
        exact Option.some.inj (first.symm.trans run)
      exact .inr ⟨job, f, List.head_eq_of_cons_eq last, rest⟩
    · have eq : events ++ [event] = (early ++ .answer job a :: late) ++ [last] := by
        simpa using eq
      obtain ⟨rfl, -⟩ := List.append_inj' eq rfl
      exact .inl ⟨early, job, late, b, f, rfl, first, rest⟩
  · rintro (⟨early, job, late, b, f, rfl, first, rest⟩ | ⟨job, f, rfl, rest⟩)
    · exact ⟨early, job, late ++ [event], b, f, by simp, first, rest⟩
    · exact ⟨events, job, [], d, f, rfl, run, rest⟩

/-! ## What an entry shows -/

/-- What an entry shows stays told. -/
theorem ShowsTold.mono (h : ShowsTold limit told id e)
    (more : ∀ s x, told id e.installed s x → told' id e.installed s x) :
    ShowsTold limit told' id e := by
  obtain ⟨stat, text, outcomes, has, length_eq, parsed, index⟩ := h
  refine ⟨stat, text, outcomes, has.mono more, length_eq, fun i result at_ => ?_, index⟩
  obtain ⟨s, old⟩ := parsed i result at_
  exact ⟨s, more _ _ old⟩

/-- An entry shows what the fetch that it has taken over was told. -/
theorem showsTold_of_build {kind : EntryKind} {stat : FileStat} {links : List Path}
    {sources : List (String × List Rule)}
    (follows : (Fetch.Stage.build stat links sources).Follows limit kind (told id number))
    (same : e.kind = kind) (installed : e.installed = number)
    (index : e.index = Fetch.indexOf sources) : ShowsTold limit told id e := by
  subst same installed
  cases follows with
  | build outcomes has length_eq parsed merged =>
      exact ⟨stat, _, outcomes, has, length_eq, fun i result => (parsed i result).mpr,
        index.trans merged⟩

/-! ## Other changes than answers -/

/-- A cleared index is empty or disposed. -/
theorem clear_index_cases (index : SelectorIndex) :
    index.clear = .empty ∨ index.clear = .disposed := by
  cases index with
  | live names => exact .inl rfl
  | disposed => exact .inr rfl

theorem dispose_index (e : Entry) : e.dispose.index = .disposed := by
  rw [Entry.dispose]
  split
  · next gone =>
      rw [Entry.isDisposed] at gone
      cases h : e.index with
      | live names =>
          rw [h] at gone
          cases gone
      | disposed => rfl
  · rfl

/-- But for answers, an entry keeps its index and the number of its fetch, or shows nothing. -/
theorem Stride.index (h : Stride event v w) {d : Entry} (hd : w.entries[id]? = some d) :
    (∃ e : Entry, v.entries[id]? = some e ∧ d.kind = e.kind ∧ d.index = e.index ∧
      d.installed = e.installed) ∨ d.index = .empty ∨ d.index = .disposed := by
  cases h with
  | time | root => exact .inl ⟨d, hd, rfl, rfl, rfl⟩
  -- a new entry is empty
  | add =>
      rcases getElem?_concat hd with hd | ⟨-, rfl⟩
      · exact .inl ⟨d, hd, rfl, rfl, rfl⟩
      · exact .inr (.inl rfl)
  | dispose disposals =>
      obtain ⟨e, he, -⟩ := disposals.turns.origin hd
      rcases disposals.2 id e he with same | gone
      · obtain rfl := Option.some.inj (hd.symm.trans same)
        exact .inl ⟨d, he, rfl, rfl, rfl⟩
      · obtain rfl := Option.some.inj (hd.symm.trans gone)
        exact .inr (.inr (dispose_index e))
  | clear entry =>
      rw [List.getElem?_modify] at hd
      obtain ⟨e, he, rfl⟩ := Option.map_eq_some_iff.mp hd
      split
      · exact .inr (clear_index_cases e.index)
      · exact .inl ⟨e, he, rfl, rfl, rfl⟩
  -- a stylesheet keeps its index while it is fetched, a document loses it
  | @begin _ entry e _ he =>
      rcases getElem?_set_cases hd with ⟨rfl, rfl⟩ | ⟨-, hd⟩
      · cases kind : e.kind with
        | css =>
            rw [Entry.beginFetch_css kind]
            exact .inl ⟨e, he, rfl, rfl, rfl⟩
        | html =>
            rw [Entry.beginFetch, kind]
            exact .inr (clear_index_cases e.index)
      · exact .inl ⟨d, hd, rfl, rfl, rfl⟩

/-- The limit on the size of a file is part of the config, which never changes. -/
theorem Stride.limit_eq (h : Stride event v w) : w.limit = v.limit := by
  cases h <;> rfl

namespace Work.Follows

/-- What entries are there and how many fetches they count may only grow. -/
theorem grows (h : v.Follows told) (ages : Ages v.entries w.entries) {s : Fetch.Stage}
    (tells : told id number s a) :
    ∃ e : Entry, w.entries[id]? = some e ∧ number ≤ e.fetches := by
  obtain ⟨e, he, le⟩ := h.known tells
  obtain ⟨d, hd, turned⟩ := ages.old he
  exact ⟨d, hd, Nat.le_trans le turned.fetches_le⟩

theorem stride (h : v.Follows told) (stride : Stride event v w) : w.Follows told where
  fetch {j f} hf := by
    rw [stride.limit_eq]
    rcases stride.fetch hf with hf | ⟨at_, e, he, new⟩
    · obtain ⟨e, he, follows⟩ := h.fetch hf
      obtain ⟨d, hd, turned⟩ := stride.ages.old he
      exact ⟨d, hd, (lasts_of_turned turned).kind ▸ follows⟩
    · -- no fetch of that number was told anything
      obtain ⟨d, hd, -⟩ := stride.ages.old he
      refine ⟨d, hd, at_ ▸ .stat fun s a tells => ?_⟩
      obtain ⟨x, hx, le⟩ := h.known tells
      obtain rfl := Option.some.inj (hx.symm.trans he)
      rw [new] at le
      exact Nat.not_succ_le_self _ le
  known tells := h.grows stride.ages tells
  shown {id d} hd := by
    rw [stride.limit_eq]
    obtain ⟨e, he, kind, index, installed⟩ | empty | gone := stride.index hd
    · rw [ShowsTold, kind, index, installed]
      exact h.shown he
    · exact .inr (.inl empty)
    · exact .inl gone

/-- Fetches may be given up. -/
theorem giveUp (h : v.Follows told) {fetches : JobId → Option Fetch}
    (given : ∀ j, fetches j = v.fetch? j ∨ fetches j = none) :
    ({ v with fetch? := fetches } : Work).Follows told where
  fetch {j f} hf := by
    rcases given j with same | none
    · exact h.fetch (same.symm.trans hf)
    · cases none.symm.trans hf
  known := h.known
  shown := h.shown

/-! ## Answers -/

/-- The other fetches are told nothing by the answer to one, and entries show what they showed. -/
theorem besides (h : v.Follows told) (orderly : v.Orderly) (under : v.fetch? job = some f)
    (tells : ∀ id n s x, told' id n s x ↔ told id n s x ∨
      x = a ∧ f.entry = id ∧ f.generation = n ∧ f.stage = s) :
    ({ v with fetch? := Function.update v.fetch? job none } : Work).Follows told' where
  fetch {j g} hg := by
    obtain ⟨ne, hg⟩ := update_none_some hg
    obtain ⟨e, he, follows⟩ := h.fetch hg
    refine ⟨e, he, follows.congr fun s x => (tells ..).trans (or_iff_left ?_)⟩
    rintro ⟨-, entry, generation, -⟩
    exact ne (orderly.apart hg under entry.symm generation.symm)
  known {id n s x} told := by
    rcases (tells ..).mp told with old | ⟨-, rfl, rfl, -⟩
    · exact h.known old
    · exact orderly.known under
  shown {id e} he := by
    refine (h.shown he).imp_right (Or.imp_right ?_)
    exact fun shows => shows.mono fun s x old => (tells ..).mpr (.inl old)

theorem reply (h : v.Follows told) (orderly : v.Orderly) (reply : Reply job a v w)
    (expected : ∀ f, v.fetch? job = some f → f.expects a = true)
    (tells : ∀ id n s x, told' id n s x ↔ told id n s x ∨ x = a ∧ ∃ f, v.fetch? job = some f ∧
      f.entry = id ∧ f.generation = n ∧ f.stage = s) :
    w.Follows told' := by
  -- only the fetch that is answered is told something new
  have tells : ∀ f, v.fetch? job = some f → ∀ id n s x, told' id n s x ↔ told id n s x ∨
      x = a ∧ f.entry = id ∧ f.generation = n ∧ f.stage = s := by
    intro f under id n s x
    rw [tells]
    simp [under]
  cases reply with
  | @advance f e notices stage under he hr =>
      have others := h.besides orderly under (tells f under)
      obtain ⟨y, hy, follows⟩ := h.fetch under
      obtain rfl := Option.some.inj (hy.symm.trans he)
      refine ⟨fun {j g} hg => ?_, others.known, others.shown⟩
      rcases update_some_cases hg with ⟨-, rfl⟩ | ⟨ne, hg⟩
      · refine ⟨y, he, follows.advance (expected f under) hr fun s x => ?_⟩
        rw [tells f under]
        simp [and_comm, eq_comm]
      · exact others.fetch ((Function.update_of_ne ne ..).trans hg)
  | fail under => exact h.besides orderly under (tells _ under)
  | @land f e e' stat links sources built under at_ he installs =>
      have others := h.besides orderly under (tells f under)
      obtain ⟨y, hy, follows⟩ := h.fetch under
      obtain rfl := Option.some.inj (hy.symm.trans he)
      have turn : y.Turn e' := .install _ _ (Fetch.isDisposed_indexOf _) installs
      have ages : Ages v.entries (v.entries.set f.entry e') := .of_turns (.set he turn)
      refine ⟨fun {j g} hg => ?_, fun told => others.grows ages told, fun {id x} hx => ?_⟩
      · obtain ⟨z, hz, follows⟩ := others.fetch hg
        obtain ⟨x, hx, turned⟩ := ages.old hz
        -- the other fetches rely on the kind of their entry alone, which lasts
        exact ⟨x, hx, (lasts_of_turned turned).kind ▸ follows⟩
      · rcases getElem?_set_cases hx with ⟨rfl, rfl⟩ | ⟨-, hx⟩
        · obtain ⟨-, -, ⟨-, rfl⟩ | ⟨-, installed, index, -⟩⟩ := Entry.install_ok installs
          · exact others.shown he
          · -- the entry shows what follows from what this fetch was told
            rw [at_] at follows
            have shows := showsTold_of_build follows turn.file.1 installed index
            exact .inr (.inr (shows.mono fun s x old => (tells f under ..).mpr (.inl old)))
        · exact others.shown hx

end Work.Follows

/-! ## Runs -/

/-- A job that fetches expects the answers that its fetch expects. -/
theorem expects_of_fetch? (hf : c.fetch? job = some f) : c.expects job a = f.expects a := by
  obtain ⟨s, hs, under⟩ := Option.bind_eq_some_iff.mp hf
  cases s with
  | fetching g purpose =>
      obtain rfl := Option.some.inj under
      simp [expects, hs]
  | starting | resolving | awaiting | checking | scanning | joining | done => cases under

/-- Every event keeps fetches where what they were told has led them. -/
theorem follows_step? (h : c.work.Follows told) (orderly : c.work.Orderly)
    (step : c.step? event = some d)
    (tells : ∀ id n s x, told' id n s x ↔ told id n s x ∨ ∃ job f, event = .answer job x ∧
      c.fetch? job = some f ∧ f.entry = id ∧ f.generation = n ∧ f.stage = s) :
    d.work.Follows told' := by
  -- an event that brings no fetch its answer tells nothing
  have silent : (∀ job a f, event = .answer job a → c.fetch? job ≠ some f) → told' = told := by
    intro nobody
    funext id n s x
    refine propext ((tells ..).trans (or_iff_left ?_))
    rintro ⟨job, f, eq, hf, -⟩
    exact nobody job x f eq hf
  by_cases stop : ∃ i, event = .stopChecker i
  · obtain ⟨i, rfl⟩ := stop
    cases step
    obtain ⟨fetches, work, given⟩ := stopChecker_work c i
    rw [work, silent (by simp)]
    exact h.giveUp given
  · obtain ⟨u, replied, strides⟩ := step?_passage step fun i eq => stop ⟨i, eq⟩
    refine strides.keep (fun _ _ h stride => h.stride stride) ?_
    obtain ⟨rfl, no⟩ | ⟨job, a, rfl, reply⟩ := replied
    · rw [silent fun job a f eq hf => ?_]
      · exact h
      · obtain ⟨e, he, -⟩ := orderly.known hf
        cases he.symm.trans (no job a f eq hf)
    · have expected : c.expects job a = true := by
        rw [Catalog.step?] at step
        split at step
        · assumption
        · cases step
      refine h.reply orderly reply (fun f hf => ?_) fun id n s x => (tells ..).trans ?_
      · rwa [← expects_of_fetch? hf]
      · refine or_congr_right ⟨?_, ?_⟩
        · rintro ⟨_, f, ⟨⟩, rest⟩
          exact ⟨rfl, f, rest⟩
        · rintro ⟨rfl, f, rest⟩
          exact ⟨job, f, rfl, rest⟩

/-- After every run fetches are where what they were told along it has led them. -/
theorem follows_of_run {config : Config} {clock : Time} (run : Run (new config clock) events c) :
    c.work.Follows (Tells (new config clock) events) := by
  induction events using List.reverseRecOn generalizing c with
  | nil =>
      cases run
      constructor
      · intro j f hf
        simp [work, new, fetch?, stage?] at hf
      · exact fun tells => absurd tells not_tells_nil
      · intro id e he
        simp [work, new] at he
  | append_singleton events event ih =>
      obtain ⟨b, first, step⟩ := run.split_last
      exact follows_step? (ih first) (orderly_of_run first) step fun _ _ _ _ =>
        tells_append_iff first

/-! ## The end of a fetch -/

/-- What follows a fetch disposes of entries at most. -/
theorem afterFetch_entries (c : Catalog) (job : JobId) (entry : EntryId)
    (result : Except Error Unit) (purpose : Purpose) :
    Entry.Disposals c.entries (c.afterFetch job entry result purpose).entries := by
  have ends : ∀ ns outcome,
      Entry.Disposals c.entries ((c.notify ns).complete job outcome).entries :=
    fun ns outcome => complete_entries (c.notify ns) job outcome
  cases purpose with
  | construct slot =>
      let told := c.notify (fetchNotices (c.pathOf entry) result)
      show Entry.Disposals c.entries (if (told.fill slot entry).isRegistered slot then
        (told.fill slot entry).complete job (.entry (some entry))
        else ((told.fill slot entry).disposeEntry entry).complete job (.entry none)).entries
      split
      · exact complete_entries (told.fill slot entry) job _
      -- a slot removed meanwhile: the entry is disposed of before the job ends
      · have gone : Entry.Disposals c.entries
            ((told.fill slot entry).disposeEntry entry).entries := .modify _ entry
        exact gone.trans (complete_entries _ job _)
  | refresh | saved => exact ends _ _
  | update =>
      cases result with
      | ok => exact ends _ _
      | error => exact complete_entries c job _
  | opened =>
      cases result with
      | ok => exact complete_entries c job _
      | error => exact ends _ _
  | direct => exact complete_entries c job _

/-- The answer that a fetch waits for, as its job takes it in. -/
theorem step?_of_fetch (hf : c.fetch? job = some f) (expected : f.expects a = true) :
    ∃ purpose, c.stage? job = some (.fetching f purpose) ∧
      c.step? (.answer job a) = some (c.resumeFetch job f purpose a) := by
  obtain ⟨s, hs, under⟩ := Option.bind_eq_some_iff.mp hf
  cases s with
  | fetching g purpose =>
      obtain rfl := Option.some.inj under
      have resumes : c.resume job a = c.resumeFetch job g purpose a := by simp [resume, hs]
      exact ⟨purpose, hs, by rw [step?, expects_of_fetch? hf, if_pos expected, resumes]⟩
  | starting | resolving | awaiting | checking | scanning | joining | done => cases under

/-- A fetch that lands hands over the index that it has built, unless its entry holds a later one.
Beyond that the event disposes of the entry at most. -/
theorem entry_of_landing {l : Landing} (he : c.entries[id]? = some e)
    (lands : c.landing? id event = some l) (step : c.step? event = some d) :
    ∃ job f stat links sources e', event = .answer job .built ∧ c.fetch? job = some f ∧
      f.entry = id ∧ f.generation = l.generation ∧ f.stage = .build stat links sources ∧
      e.install f.generation ⟨Fetch.indexOf sources, links, stat.modified, f.started⟩ = .ok e' ∧
      (d.entries[id]? = some e' ∨ d.entries[id]? = some e'.dispose) := by
  -- only the end of a build lands
  have built : ∃ job, event = .answer job .built := by
    cases event with
    | answer job a =>
        cases a with
        | built => exact ⟨job, rfl⟩
        | resolved | stat | text | listing | parsed => cases lands
    | _ => cases lands
  obtain ⟨job, rfl⟩ := built
  obtain ⟨f, hf, lands⟩ := Option.bind_eq_some_iff.mp lands
  split at lands
  · next stat links sources at_ =>
      obtain ⟨ok, eq⟩ := Option.ite_none_right_eq_some.mp lands
      simp only [he, Option.any_some, Bool.and_eq_true, beq_iff_eq, Bool.not_eq_true'] at ok
      obtain ⟨rfl, live⟩ := ok
      obtain ⟨e', installs⟩ := install_of_live live f.generation
        ⟨Fetch.indexOf sources, links, stat.modified, f.started⟩
      refine ⟨job, f, stat, links, sources, e', rfl, hf, rfl,
        congrArg Landing.generation (Option.some.inj eq), at_, installs, ?_⟩
      -- the same answer, seen from the fetch that receives it
      have resumes : f.resume e c.config.maxFileBytes (c.rootOf e.scope) .built =
          (e', [], .finished (.ok ())) := by
        simp only [Fetch.resume, at_, installs]
      have expected : f.expects .built = true := by simp [Fetch.expects, at_]
      obtain ⟨purpose, -, next⟩ := step?_of_fetch hf expected
      rw [next, resumeFetch, he] at step
      simp only [resumes] at step
      obtain rfl := Option.some.inj step
      have there : ((c.setEntry f.entry e').notify []).entries[f.entry]? = some e' :=
        List.getElem?_set_self (List.getElem?_eq_some_iff.mp he).1
      exact (afterFetch_entries _ job f.entry (.ok ()) purpose).2 _ _ there
  · cases lands

/-- The parser's answer for a text of a document ends no fetch, whether the text is taken or
refused. -/
theorem step?_parsed (hf : c.fetch? job = some f) (he : c.entries[f.entry]? = some e)
    (html : e.kind = .html) {i : Nat} {result : Except Error (List Rule)}
    (expected : f.expects (.parsed i result) = true) :
    ∃ d stage, c.step? (.answer job (.parsed i result)) = some d ∧
      d.fetch? job = some { f with stage := stage } := by
  obtain ⟨purpose, hs, next⟩ := step?_of_fetch hf expected
  obtain ⟨-, r, eq⟩ | ⟨st, -, r, eq⟩ | ⟨st, links, blocks, j, r, block, at_, eq, -⟩ |
    ⟨st, links, sources, -, eq⟩ := Fetch.expects_cases expected
  · cases eq
  · cases eq
  · obtain ⟨rfl, rfl⟩ := Answer.parsed.inj eq
    have taken : Fetch.fatal? e result = none := by
      cases result <;> simp [Fetch.fatal?, html]
    rw [resumeFetch, he] at next
    simp only [Fetch.resume, at_, Fetch.afterParse, taken] at next
    have stage := stage?_setStage_self
      (c := (c.setEntry f.entry e).notify (Fetch.refusal e result)) hs
    exact ⟨_, _, next, by rw [fetch?, stage]; rfl⟩
  · cases eq

/-! ## Documents -/

/-- An index is merged from the style elements of a text that the fetch of a number was told: each
of them was taken or refused by the parser in an answer to that fetch, and the rules of those that
were taken are added in their order to an empty index, each with its own text. -/
structure MergedFrom (start : Catalog) (events : List Event) (id : EntryId) (number : Nat)
    (text : String) (outcomes : List (Except Error (List Rule))) (index : SelectorIndex) :
    Prop where
  read : ∃ s, Tells start events id number s (.text (.ok text))
  length_eq : outcomes.length = (Html.Document.styles text).length
  parsed : ∀ i result, outcomes[i]? = some result ↔
    ∃ s, Tells start events id number s (.parsed i result)
  index_eq : index = SelectorIndex.empty.addTaken (Html.Document.styles text) outcomes
  /-- What one style element contributes is there, whatever becomes of the others. -/
  holds_iff : ∀ candidate, index.names.Holds candidate ↔
    SelectorIndex.Contributes (Html.Document.styles text) outcomes candidate

/-- Any run, and any document in it. As long as a fetch of it waits for the parser, each style
element that is not parsed may be answered for next, taken or refused, and the fetch goes on. When a
fetch lands, the index that it installs is merged from all style elements of the text that it read,
in their order, whatever the parser made of each of them and in whichever order it answered. -/
theorem styles_are_merged_in_order {config : Config} {clock : Time}
    (run : Run (new config clock) events c) (he : c.entries[id]? = some e) (html : e.kind = .html) :
    (∀ job f i result, c.fetch? job = some f → f.entry = id →
      f.expects (.parsed i result) = true →
      ∃ d stage, c.step? (.answer job (.parsed i result)) = some d ∧
        d.fetch? job = some { f with stage := stage }) ∧
    ∀ event l d, c.landing? id event = some l → e.installed ≤ l.generation →
      c.step? event = some d → ∃ text outcomes e',
        MergedFrom (new config clock) events id l.generation text outcomes e'.index ∧
        e'.installed = l.generation ∧
        (d.entries[id]? = some e' ∨ d.entries[id]? = some e'.dispose) := by
  refine ⟨fun job f i result hf entry => ?_, fun event l d lands latest step => ?_⟩
  · subst entry
    exact step?_parsed hf he html
  · obtain ⟨job, f, stat, links, sources, e', rfl, hf, rfl, number, at_, installs, after⟩ :=
      entry_of_landing he lands step
    -- an older fetch is shut out by its number
    obtain ⟨-, -, ⟨late, -⟩ | ⟨-, installed, index, -⟩⟩ := Entry.install_ok installs
    · exact absurd latest (by rw [← number]; exact Nat.not_le_of_lt late)
    obtain ⟨x, hx, follows⟩ := (follows_of_run run).fetch hf
    obtain rfl := Option.some.inj (hx.symm.trans he)
    -- the course of this fetch says how its index came about
    rw [at_, html] at follows
    cases follows with
    | @build _ text _ _ outcomes has length_eq parsed merged =>
        refine ⟨text, outcomes, e', ⟨⟨_, number ▸ has.read⟩, length_eq, fun i result => ?_,
          index.trans merged, fun candidate => ?_⟩, installed.trans number, after⟩
        · rw [← number]
          exact (parsed i result).symm
        · rw [index.trans merged]
          exact SelectorIndex.holds_addTaken_empty_iff

/-- A document with three style elements is read. The parser answers for them from the last to the
first, and refuses the second. -/
def threeStyles : List Event :=
  [.call (.create .html ⟨"/i.html"⟩ false), .answer 0 (.stat (.ok ⟨0, 70⟩)),
    .answer 0 (.text (.ok "<style>.A{}</style><style>.b(</style><style>.a{} p.B{} #c{}</style>")),
    .answer 0 (.parsed 2 (.ok [.style ".a", .style "p.B", .style "#c"])),
    .answer 0 (.parsed 1 (.error (.parseFailed "unclosed"))),
    .answer 0 (.parsed 0 (.ok [.style ".A"]))]

/-- The class of the first style element comes first, each is spelled as its own style element has
it, and nothing of the third is lost to the second. -/
theorem threeStyles_are_merged_in_order :
    ∃ c d text outcomes e, Run (new {} 0) threeStyles c ∧ c.step? (.answer 0 .built) = some d ∧
      d.entries[0]? = some e ∧ e.index = .live ⟨[("", ["A", "a"]), ("p", ["B"])], ["c"]⟩ ∧
      MergedFrom (new {} 0) threeStyles 0 1 text outcomes e.index := by
  have facts : ((new {} 0).replay? threeStyles).bind (fun c => (c.entries[0]?).bind fun e =>
      (c.landing? 0 (.answer 0 .built)).bind fun l => (c.step? (.answer 0 .built)).map fun d =>
        (e.kind, e.installed, l.generation, (d.entries[0]?).map (·.index))) =
      some (.html, 0, 1, some (.live ⟨[("", ["A", "a"]), ("p", ["B"])], ["c"]⟩)) := by
    decide +kernel
  obtain ⟨c, hc, facts⟩ := Option.bind_eq_some_iff.mp facts
  obtain ⟨e, he, facts⟩ := Option.bind_eq_some_iff.mp facts
  obtain ⟨l, lands, facts⟩ := Option.bind_eq_some_iff.mp facts
  obtain ⟨d, step, eq⟩ := Option.map_eq_some_iff.mp facts
  simp only [Prod.mk.injEq] at eq
  obtain ⟨html, installed, number, index⟩ := eq
  obtain ⟨x, hx, index⟩ := Option.map_eq_some_iff.mp index
  have run := run_iff_replay?.mpr hc
  obtain ⟨text, outcomes, e', merged, -, same | gone⟩ :=
    (styles_are_merged_in_order run he html).2 _ l d lands (by simp [installed]) step
  · obtain rfl := Option.some.inj (hx.symm.trans same)
    exact ⟨c, d, text, outcomes, x, run, step, hx, index, number ▸ merged⟩
  · obtain rfl := Option.some.inj (hx.symm.trans gone)
    cases (dispose_index e').symm.trans index

end SelectorCatalog.Catalog
