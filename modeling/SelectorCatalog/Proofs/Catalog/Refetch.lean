import SelectorCatalog.Proofs.Catalog.Disposal
import SelectorCatalog.Proofs.Catalog.Search
import SelectorCatalog.Proofs.Catalog.Source
import SelectorCatalog.Proofs.Entry.Links

/-!
# Searches while a document is fetched again

A document forgets its links when a fetch of it starts, and has links again when a fetch is
installed. In between its links are not known, and it is searched with all stylesheets. So what a
document is searched with depends on whether a fetch was installed after the last one had started
(`Refilled`): if so, on the links of one version of the document that was read, and else on all that
is registered (`document_is_searched_as_read`).

What an event may make of the entry of a document is said once (`Alters`): it keeps its links, or
has those of a version that was read, or has none.
-/

namespace SelectorCatalog

namespace Fetch

variable {f : Fetch} {e d : Entry} {limit : Nat} {root : Option Path} {a : Answer}
  {notices : List Notice} {stage : Stage}

/-- The stage after a text carries the links of that text. -/
theorem links_stageAfterText (e : Entry) (root : Option Path) (stat : FileStat) (text : String) :
    (stageAfterText e root stat text).links = linksIn e.kind e.path root text := by
  rw [stageAfterText]
  cases e.kind with
  | css => rfl
  | html =>
      dsimp only
      split <;> rfl

/-- A fetch that goes on has the links that it had, or those of the text that it has just read. -/
theorem links_resume (h : f.resume e limit root a = (d, notices, .waiting stage)) :
    stage.isUnread = true ∨ f.stage.isUnread = false ∧ stage.links = f.stage.links ∨
      ∃ text, a = .text (.ok text) ∧ stage.links = linksIn e.kind e.path root text := by
  unfold resume at h
  split at h
  case h_1 => cases h
  -- the size is told, and the text has still to be read
  case h_2 =>
      split at h
      · cases h
      · cases h
        exact .inl rfl
  case h_3 => cases h
  -- the text is told; this is where links are found
  case h_4 text at_ =>
      cases h
      exact .inr (.inr ⟨text, rfl, links_stageAfterText e root _ text⟩)
  -- the parser's answers leave the links as they are
  case h_5 stat links blocks i result at_ =>
      rw [afterParse] at h
      cases hf : fatal? e result with
      | some error =>
          rw [hf] at h
          cases h
      | none =>
          rw [hf] at h
          cases h
          exact .inr (.inl ⟨by rw [at_]; rfl, by rw [links_stageAfterBlock, at_]; rfl⟩)
  case h_6 => split at h <;> cases h
  case h_7 =>
      cases h
      cases unread : f.stage.isUnread with
      | true => exact .inl rfl
      | false => exact .inr (.inl ⟨rfl, rfl⟩)

end Fetch

namespace Entry

variable {e d : Entry}

/-- No turn takes a fetch back that was counted. -/
theorem Turn.fetches_le (h : e.Turn d) : e.fetches ≤ d.fetches := by
  cases h with
  | same | clear => exact Nat.le_refl _
  | fetch =>
      rw [fetches_beginFetch]
      exact Nat.le_succ _
  | install _ _ _ installs => exact Nat.le_of_eq (install_ok installs).2.1.symm
  | dispose => exact Nat.le_of_eq (fetches_dispose e).symm

/-- Fetches are counted up alone. -/
theorem Turned.fetches_le (h : e.Turned d) : e.fetches ≤ d.fetches := by
  induction h with
  | refl => exact Nat.le_refl _
  | tail _ turn ih => exact Nat.le_trans ih turn.fetches_le

end Entry

namespace Catalog

/-- The links in a text that an event brings to a fetch of an entry. -/
def version? (c : Catalog) (id : EntryId) : Event → Option (List Path)
  | .answer job (.text (.ok text)) =>
    match c.fetch? job, c.entries[id]? with
    | some f, some e =>
      if f.entry = id then some (Fetch.linksIn e.kind e.path (c.rootOf e.scope) text) else none
    | _, _ => none
  | _ => none

/-- The links of each version of an entry's file that is read along a list of events. -/
def versions (c : Catalog) (id : EntryId) : List Event → List (List Path)
  | [] => []
  | event :: events =>
    match c.step? event with
    | some d => (c.version? id event).toList ++ d.versions id events
    | none => []

/-- How many fetches of an entry have started. -/
def fetchesOf (c : Catalog) (id : EntryId) : Nat :=
  (c.entries[id]?).elim 0 (·.fetches)

/-- Between two catalogues an entry tells that a fetch was installed. -/
def Installs (c d : Catalog) (id : EntryId) : Prop :=
  ∃ e e' links, c.entries[id]? = some e ∧ d.entries[id]? = some e' ∧
    e'.sent = e.sent ++ [.fetchComplete links]

/-- After a list of events an entry is live, and one of the events has installed a fetch of it. No
fetch of it starts with this event or after it, and it is not cleared. -/
def Refilled (c : Catalog) (events : List Event) (id : EntryId) (d : Catalog) : Prop :=
  d.isLive id = true ∧ ∃ early event late x y, events = early ++ event :: late ∧ Run c early x ∧
    x.step? event = some y ∧ x.Installs y id ∧ d.fetchesOf id = x.fetchesOf id ∧
    .clearEntry id ∉ event :: late

/-- The links that an entry shows, and those that its fetches have found, are known. -/
structure Work.LinksAmong (id : EntryId) (known : List Path → Prop) (w : Work) : Prop where
  found : ∀ {j f}, w.fetch? j = some f → f.entry = id →
    f.stage.isUnread = true ∨ known f.stage.links
  shown : ∀ {e : Entry}, w.entries[id]? = some e → e.dependencies = [] ∨ known e.dependencies

/-- What an event makes of an entry: it leaves the links alone, brings known ones, or empties the
entry since a fetch starts or the entry is cleared. -/
inductive Alters (event : Event) (id : EntryId) (known : List Path → Prop) (e d : Entry) : Prop
    where
  | keeps : d.dependencies = e.dependencies → d.sent = e.sent → d.fetches = e.fetches →
    Alters event id known e d
  | refills : d.sent = e.sent ++ [.fetchComplete d.dependencies] → d.fetches = e.fetches →
    known d.dependencies → Alters event id known e d
  | empties : d.dependencies = [] → e.fetches < d.fetches ∨ event = .clearEntry id →
    Alters event id known e d

variable {event : Event} {events late : List Event} {v w : Work} {b c d : Catalog} {id : EntryId}
  {e e' x : Entry} {known : List Path → Prop} {document : Path} {job : JobId} {a : Answer}

/-! ## Versions -/

/-- The versions that a longer run reads are those of its parts. -/
theorem versions_append {more : List Event} (run : Run c events d) :
    c.versions id (events ++ more) = c.versions id events ++ d.versions id more := by
  induction run with
  | nil => rfl
  | cons step _ ih =>
      simp only [List.cons_append, versions, step, List.append_assoc]
      rw [ih]

namespace Work.LinksAmong

theorem stride (h : v.LinksAmong id known) (stride : Stride event v w) : w.LinksAmong id known := by
  cases stride with
  -- time and the root concern no entry
  | time | root => exact { h with }
  | add kind path scope =>
      refine ⟨h.found, fun he => ?_⟩
      rcases getElem?_concat he with he | ⟨-, rfl⟩
      · exact h.shown he
      · exact .inl rfl
  -- a disposal keeps the links of a document or drops them
  | dispose disposals =>
      refine ⟨h.found, fun {d} hd => ?_⟩
      obtain ⟨e, he, -⟩ := disposals.turns.origin hd
      have same := disposals.2 id e he
      rw [hd] at same
      rcases same with same | gone
      · exact Option.some.inj same ▸ h.shown he
      · obtain rfl : d = e.dispose := Option.some.inj gone
        rcases e.dependencies_dispose with none | keep
        · exact .inl none
        · exact keep.symm ▸ h.shown he
  | clear entry =>
      refine ⟨h.found, fun {d} hd => ?_⟩
      rw [List.getElem?_modify] at hd
      obtain ⟨e, he, rfl⟩ := Option.map_eq_some_iff.mp hd
      split
      · exact .inl rfl
      · exact h.shown he
  -- so does the begin of a fetch
  | begin _ there =>
      constructor
      · intro j f hf entry
        rcases update_some_cases hf with ⟨-, rfl⟩ | ⟨-, hf⟩
        · exact .inl rfl
        · exact h.found hf entry
      · intro d hd
        rcases getElem?_set_cases hd with ⟨rfl, rfl⟩ | ⟨-, hd⟩
        · rcases Entry.dependencies_beginFetch _ with none | same
          · exact .inl none
          · exact same ▸ h.shown there
        · exact h.shown hd

theorem reply (h : v.LinksAmong id known) (reply : Reply job a v w)
    (reads : ∀ (f : Fetch) (e : Entry) text, v.fetch? job = some f → f.entry = id →
      v.entries[id]? = some e → a = .text (.ok text) →
      known (Fetch.linksIn e.kind e.path (v.rootOf e.scope) text)) : w.LinksAmong id known := by
  cases reply with
  | @advance f e _ stage under there resumes =>
      refine ⟨fun {j g} hg entry => ?_, h.shown⟩
      rcases update_some_cases hg with ⟨-, rfl⟩ | ⟨-, hg⟩
      · have entry : f.entry = id := entry
        obtain unread | ⟨read, same⟩ | ⟨text, answer, links⟩ := Fetch.links_resume resumes
        · exact .inl unread
        -- the links this fetch had found already
        · refine .inr ?_
          show known stage.links
          rw [same]
          rcases h.found under entry with unread | known
          · cases read.symm.trans unread
          · exact known
        -- the links of the text that was just read
        · refine .inr ?_
          show known stage.links
          rw [links]
          exact reads f e text under entry (entry ▸ there) answer
      · exact h.found hg entry
  | fail => exact ⟨fun hg => h.found (update_none_some hg).2, h.shown⟩
  | land _ under at_ there installs =>
      -- what is installed are the links that the fetch had found
      refine ⟨fun hg => h.found (update_none_some hg).2, fun hd => ?_⟩
      rcases getElem?_set_cases hd with ⟨rfl, rfl⟩ | ⟨-, hd⟩
      · have found := h.found under rfl
        rw [at_] at found
        rcases Entry.dependencies_install installs with ⟨same, -⟩ | ⟨new, -⟩
        · rw [same]
          exact h.shown there
        · rw [new]
          exact .inr (found.resolve_left nofun)
      · exact h.shown hd

end Work.LinksAmong

/-- An event keeps the links among the known ones, if the versions that it reads are known. -/
theorem linksAmong_step? (h : c.work.LinksAmong id known) (step : c.step? event = some d)
    (reads : ∀ links ∈ c.version? id event, known links) : d.work.LinksAmong id known := by
  by_cases stop : ∃ i, event = .stopChecker i
  · obtain ⟨i, rfl⟩ := stop
    cases step
    obtain ⟨fetches, work, given⟩ := stopChecker_work c i
    rw [work]
    refine ⟨fun {j f} hf => ?_, h.shown⟩
    rcases given j with same | none
    · exact h.found (same.symm.trans hf)
    · cases none.symm.trans hf
  · obtain ⟨u, replied, strides⟩ := step?_passage step fun i eq => stop ⟨i, eq⟩
    have hu : u.LinksAmong id known := by
      obtain ⟨rfl, -⟩ | ⟨job, a, rfl, reply⟩ := replied
      · exact h
      · refine h.reply reply fun f e text hf entry he answer => reads _ ?_
        have hf : c.fetch? job = some f := hf
        have he : c.entries[id]? = some e := he
        rw [answer]
        simp only [version?, hf, he, if_pos entry]
        rfl
    exact strides.keep (fun _ _ h stride => h.stride stride) hu

/-- At first there are no links at all. -/
theorem linksAmong_new (config : Config) (clock : Time) :
    (new config clock).work.LinksAmong id known := by
  constructor <;> simp [work, new, fetch?, Catalog.stage?]

/-- The links of a document are those of a version that was read. -/
theorem linksAmong_of_run (run : Run c events d) (h : c.work.LinksAmong id known)
    (reads : ∀ links ∈ c.versions id events, known links) : d.work.LinksAmong id known := by
  induction run with
  | nil => exact h
  | cons step _ ih =>
      rw [versions, step] at reads
      exact ih (linksAmong_step? h step fun links mem =>
          reads links (List.mem_append_left _ (Option.mem_toList.mpr mem)))
        fun links mem => reads links (List.mem_append_right _ mem)

/-! ## What an event makes of a document -/

theorem Alters.refl (event : Event) (id : EntryId) (known : List Path → Prop) (e : Entry) :
    Alters event id known e e :=
  .keeps rfl rfl rfl

/-- Links that are brought may be lost in the same event. -/
theorem Alters.trans (h : Alters event id known e x) (h' : Alters event id (fun _ => False) x e') :
    Alters event id known e e' := by
  cases h with
  | keeps links sent fetches =>
      cases h' with
      | keeps links' sent' fetches' =>
          exact .keeps (links'.trans links) (sent'.trans sent) (fetches'.trans fetches)
      | refills _ _ no => exact no.elim
      | empties none since => exact .empties none (fetches ▸ since)
  | refills sent fetches among =>
      cases h' with
      | keeps links' sent' fetches' =>
          refine .refills ?_ (fetches'.trans fetches) (links'.symm ▸ among)
          rw [sent', sent, links']
      | refills _ _ no => exact no.elim
      | empties none since => exact .empties none (fetches ▸ since)
  | empties none since =>
      cases h' with
      | keeps links' sent' fetches' => exact .empties (links'.trans none) (fetches'.symm ▸ since)
      | refills _ _ no => exact no.elim
      | empties none' since' =>
          refine .empties none' ?_
          rcases since with less | cleared
          · exact since'.imp_left (Nat.lt_trans less)
          · exact .inr cleared

/-- The answer to a fetch leaves the links of a document alone or brings those that were found. -/
theorem Reply.alters (h : Reply job a v w) (among : v.LinksAmong id known)
    (he : v.entries[id]? = some e) (event : Event) :
    ∃ d : Entry, w.entries[id]? = some d ∧ Alters event id known e d := by
  cases h with
  | advance | fail => exact ⟨e, he, .refl ..⟩
  | @land f y d _ links _ _ under at_ there installs =>
      by_cases eq : f.entry = id
      · subst eq
        obtain rfl := Option.some.inj (he.symm.trans there)
        refine ⟨d, List.getElem?_set_self (List.getElem?_eq_some_iff.mp he).1, ?_⟩
        obtain ⟨-, fetches, -⟩ := Entry.install_ok installs
        rcases Entry.dependencies_install installs with ⟨same, sent⟩ | ⟨new, sent⟩
        · exact .keeps same sent fetches
        · refine .refills (by rw [sent, new]) fetches ?_
          rw [new]
          have found := among.found under rfl
          rw [at_] at found
          exact found.resolve_left nofun
      · exact ⟨e, (List.getElem?_set_ne eq).trans he, .refl ..⟩

/-- Other than by answers, a document that stays live has its links taken at most. -/
theorem Stride.alters (h : Stride event v w) (he : v.entries[id]? = some e)
    (html : e.kind = .html) :
    ∃ d : Entry, w.entries[id]? = some d ∧
      (d.isDisposed = true ∨ Alters event id (fun _ => False) e d) := by
  cases h with
  | time | root => exact ⟨e, he, .inr (.refl ..)⟩
  | add => exact ⟨e, getElem?_append_some _ he, .inr (.refl ..)⟩
  | dispose disposals =>
      -- disposed of on the way, or left alone
      rcases disposals.2 id e he with same | gone
      · exact ⟨e, same, .inr (.refl ..)⟩
      · exact ⟨_, gone, .inl (Entry.isDisposed_dispose e)⟩
  | clear entry cleared =>
      refine ⟨_, by rw [List.getElem?_modify, he]; rfl, .inr ?_⟩
      dsimp only
      split
      · next eq => exact .empties rfl (.inr (eq ▸ cleared))
      · exact .refl ..
  -- a fetch that begins empties a document; it is one more fetch of it
  | @begin job entry y none there live =>
      by_cases eq : entry = id
      · subst eq
        obtain rfl := Option.some.inj (he.symm.trans there)
        refine ⟨_, List.getElem?_set_self (List.getElem?_eq_some_iff.mp he).1,
          .inr (.empties ?_ ?_)⟩
        · rw [Entry.beginFetch, html]
          rfl
        · rw [Entry.fetches_beginFetch]
          exact .inl (Nat.lt_succ_self _)
      · exact ⟨e, (List.getElem?_set_ne eq).trans he, .inr (.refl ..)⟩

/-- What an event makes of a document that stays live. -/
theorem alters_step? (step : c.step? event = some d) (among : c.work.LinksAmong id known)
    (he : c.entries[id]? = some e) (html : e.kind = .html) (he' : d.entries[id]? = some e')
    (live : e'.isDisposed = false) : Alters event id known e e' := by
  by_cases stop : ∃ i, event = .stopChecker i
  · obtain ⟨i, rfl⟩ := stop
    cases step
    obtain ⟨fetches, work, -⟩ := stopChecker_work c i
    have same : (c.stopChecker i).entries = c.entries := congrArg Work.entries work
    rw [same] at he'
    obtain rfl := Option.some.inj (he.symm.trans he')
    exact .refl ..
  · obtain ⟨u, replied, strides⟩ := step?_passage step fun i eq => stop ⟨i, eq⟩
    -- first the answer does its part, and then everything that follows from it
    have first : ∃ x : Entry, u.entries[id]? = some x ∧ Alters event id known e x ∧
        x.kind = .html := by
      obtain ⟨rfl, -⟩ | ⟨job, a, -, reply⟩ := replied
      · exact ⟨e, he, .refl .., html⟩
      · obtain ⟨x, hx, alters⟩ := reply.alters among he event
        obtain ⟨y, hy, turned⟩ := reply.ages.old he
        obtain rfl := Option.some.inj (hx.symm.trans hy)
        exact ⟨x, hx, alters, (lasts_of_turned turned).kind.trans html⟩
    have last : ∃ x : Entry, d.work.entries[id]? = some x ∧ x.kind = .html ∧
        (x.isDisposed = true ∨ Alters event id known e x) := by
      obtain ⟨x, hx, alters, kind⟩ := first
      refine strides.keep (p := fun w => ∃ x : Entry, w.entries[id]? = some x ∧ x.kind = .html ∧
        (x.isDisposed = true ∨ Alters event id known e x)) ?_ ⟨x, hx, kind, .inr alters⟩
      rintro v w ⟨x, hx, kind, so_far⟩ stride
      obtain ⟨y, hy, next⟩ := stride.alters hx kind
      obtain ⟨z, hz, turned⟩ := stride.ages.old hx
      obtain rfl := Option.some.inj (hy.symm.trans hz)
      have lasts := lasts_of_turned turned
      refine ⟨y, hy, lasts.kind.trans kind, ?_⟩
      rcases so_far with gone | alters
      · exact .inl (lasts.disposed gone)
      · exact next.imp_right alters.trans
    obtain ⟨x, hx, -, gone | alters⟩ := last
    · obtain rfl := Option.some.inj (he'.symm.trans hx)
      cases live.symm.trans gone
    · obtain rfl := Option.some.inj (he'.symm.trans hx)
      exact alters

/-- An entry that is new after an event has no links. -/
theorem unlinked_step? (step : c.step? event = some d) (orderly : c.work.Orderly)
    (new : c.entries[id]? = none) (he : d.entries[id]? = some e) : e.dependencies = [] := by
  have nothing : c.work.LinksAmong id fun _ => False := by
    refine ⟨fun hf entry => ?_, fun he => ?_⟩
    · obtain ⟨x, hx, -⟩ := orderly.known hf
      cases new.symm.trans (entry ▸ hx)
    · cases new.symm.trans he
  have unread : ∀ links ∈ c.version? id event, False := by
    intro links mem
    rw [version?.eq_def] at mem
    split at mem
    · split at mem
      · next there => cases new.symm.trans there
      · cases mem
    · cases mem
  exact ((linksAmong_step? nothing step unread).shown he).resolve_right fun no => no

/-! ## What a document shows -/

/-- The fetches of an entry are counted in the entry. -/
theorem fetchesOf_eq (he : c.entries[id]? = some e) : c.fetchesOf id = e.fetches := by
  rw [fetchesOf, he, Option.elim_some]

/-- After an event a document has links if it had some or was told of new ones, unless a fetch of it
starts or it is cleared. -/
theorem linked_step? (step : c.step? event = some d) (among : c.work.LinksAmong id (· ≠ []))
    (he : c.entries[id]? = some e) (html : e.kind = .html) (he' : d.entries[id]? = some e')
    (live : e'.isDisposed = false) (same : e'.fetches = e.fetches) (other : event ≠ .clearEntry id)
    (shown : e.dependencies ≠ [] ∨ e'.sent ≠ e.sent) : e'.dependencies ≠ [] := by
  cases alters_step? step among he html he' live with
  | keeps links sent =>
      rw [links]
      exact shown.resolve_right fun told => told sent
  | refills _ _ found => exact found
  | empties _ since =>
      rcases since with less | cleared
      · exact absurd same (Nat.ne_of_gt less)
      · exact absurd cleared other

/-- A document with links has links, until a fetch starts or it is cleared. -/
theorem linked_of_run (run : Run c events d) (among : c.work.LinksAmong id (· ≠ []))
    (reads : ∀ links ∈ c.versions id events, links ≠ []) (he : c.entries[id]? = some e)
    (html : e.kind = .html) (shown : e.dependencies ≠ []) (he' : d.entries[id]? = some e')
    (live : e'.isDisposed = false) (same : e'.fetches = e.fetches)
    (uncleared : .clearEntry id ∉ events) : e'.dependencies ≠ [] := by
  induction run generalizing e with
  | nil =>
      obtain rfl := Option.some.inj (he.symm.trans he')
      exact shown
  | @cons c b d event events step run ih =>
      rw [versions, step] at reads
      obtain ⟨other, uncleared⟩ := List.ne_and_not_mem_of_not_mem_cons uncleared
      obtain ⟨x, hx, turned⟩ := (ages_step? step).old he
      obtain ⟨y, hy, more⟩ := (ages_of_run run).old hx
      obtain rfl := Option.some.inj (hy.symm.trans he')
      have between : x.fetches = e.fetches :=
        Nat.le_antisymm (same ▸ more.fetches_le) turned.fetches_le
      have shown' : x.dependencies ≠ [] := linked_step? step among he html hx
        (live_of_run run hx hy live) between other.symm (.inl shown)
      exact ih (linksAmong_step? among step fun links mem =>
          reads links (List.mem_append_left _ (Option.mem_toList.mpr mem)))
        (fun links mem => reads links (List.mem_append_right _ mem)) hx
        ((lasts_of_turned turned).kind.trans html) shown' he' (same.trans between.symm) uncleared

/-- An entry that is cleared has no links. -/
theorem unlinked_of_clear (step : c.step? (.clearEntry id) = some d)
    (he : d.entries[id]? = some e) :
    e.dependencies = [] := by
  cases step
  have at_ : (c.entries.modify id Entry.clear)[id]? = some e := he
  rw [List.getElem?_modify_eq] at at_
  obtain ⟨x, -, rfl⟩ := Option.map_eq_some_iff.mp at_
  rfl

/-- A live document with links had a fetch installed after which none has started. -/
theorem refilled_of_linked {config : Config} {clock : Time} (run : Run (new config clock) events d)
    (he : d.entries[id]? = some e) (html : e.kind = .html) (live : e.isDisposed = false)
    (shown : e.dependencies ≠ []) : (new config clock).Refilled events id d := by
  refine ⟨isLive_iff.mpr ⟨e, he, live⟩, ?_⟩
  induction events using List.reverseRecOn generalizing d e with
  | nil =>
      cases run
      cases he
  | append_singleton events event ih =>
      obtain ⟨b, first, step⟩ := run.split_last
      -- a cleared entry shows no links
      have other : event ≠ .clearEntry id := by
        rintro rfl
        exact shown (unlinked_of_clear step he)
      cases hx : b.entries[id]? with
      | none => exact absurd (unlinked_step? step (orderly_of_run first) hx he) shown
      | some x =>
          obtain ⟨y, hy, turned⟩ := (ages_step? step).old hx
          obtain rfl := Option.some.inj (hy.symm.trans he)
          have html' : x.kind = .html := (lasts_of_turned turned).kind.symm.trans html
          have live' := live_of_run (.cons step (.nil d)) hx hy live
          have any : b.work.LinksAmong id fun _ => True :=
            ⟨fun _ _ => .inr trivial, fun _ => .inr trivial⟩
          cases alters_step? step any hx html' hy live with
          | keeps links _ fetches =>
              -- what was installed before is still shown
              obtain ⟨early, at_, late, v, w, rfl, before, happens, installs, same, uncleared⟩ :=
                ih first hx html' live' (links ▸ shown)
              refine ⟨early, at_, late ++ [event], v, w, by simp, before, happens, installs, ?_, ?_⟩
              · rw [fetchesOf_eq hy, fetches, ← fetchesOf_eq hx, same]
              · intro mem
                rcases List.mem_append.mp (List.cons_append ▸ mem) with mem | mem
                · exact uncleared mem
                · exact other (List.mem_singleton.mp mem).symm
          | refills sent fetches _ =>
              refine ⟨events, event, [], b, d, rfl, first, step, ⟨x, y, _, hx, hy, sent⟩, ?_, ?_⟩
              · rw [fetchesOf_eq hy, fetches, fetchesOf_eq hx]
              · exact fun mem => other (List.mem_singleton.mp mem).symm
          | empties none => exact absurd none shown

/-- A live document that had a fetch installed after which none has started has links, if all its
versions have some. -/
theorem linked_of_refilled {config : Config} {clock : Time} (run : Run (new config clock) events d)
    (reads : ∀ links ∈ (new config clock).versions id events, links ≠ [])
    (he : d.entries[id]? = some e) (html : e.kind = .html)
    (refilled : (new config clock).Refilled events id d) : e.dependencies ≠ [] := by
  obtain ⟨lives, early, event, late, x, y, rfl, first, step, ⟨e₀, e₁, links, h₀, h₁, tells⟩, same,
    uncleared⟩ := refilled
  have live : e.isDisposed = false := by
    obtain ⟨e', he', live⟩ := isLive_iff.mp lives
    rwa [Option.some.inj (he.symm.trans he')]
  rw [fetchesOf_eq he, fetchesOf_eq h₀] at same
  have rest : Run y late d := (run.rest first).rest (.cons step (.nil y))
  have split : (new config clock).versions id (early ++ event :: late) =
      (new config clock).versions id early ++
        ((x.version? id event).toList ++ y.versions id late) := by
    rw [versions_append first, versions, step]
  simp only [split, List.mem_append, Option.mem_toList] at reads
  obtain ⟨other, uncleared⟩ := List.ne_and_not_mem_of_not_mem_cons uncleared
  have among : x.work.LinksAmong id (· ≠ []) :=
    linksAmong_of_run first (linksAmong_new config clock) fun links mem => reads links (.inl mem)
  have among' : y.work.LinksAmong id (· ≠ []) :=
    linksAmong_step? among step fun links mem => reads links (.inr (.inl mem))
  -- no fetch has started from before the event to the end
  obtain ⟨e', he', turned⟩ := (ages_step? step).old h₀
  obtain rfl := Option.some.inj (he'.symm.trans h₁)
  obtain ⟨e'', he'', more⟩ := (ages_of_run rest).old h₁
  obtain rfl := Option.some.inj (he''.symm.trans he)
  have between : e'.fetches = e₀.fetches :=
    Nat.le_antisymm (same ▸ more.fetches_le) turned.fetches_le
  have kind : e₀.kind = .html :=
    (lasts_of_turned turned).kind.symm.trans ((lasts_of_turned more).kind.symm.trans html)
  have linked : e'.dependencies ≠ [] :=
    linked_step? step among h₀ kind h₁ (live_of_run rest h₁ he live) between other.symm
      (.inr (by simp [tells]))
  exact linked_of_run rest among' (fun links mem => reads links (.inr (.inr mem))) h₁
    ((lasts_of_turned turned).kind.trans kind) linked he live (same.trans between.symm) uncleared

/-! ## Searches -/

/-- What a document shows after a run: links of a version that was read, or nothing. -/
theorem linksOf_of_run {config : Config} {clock : Time} (run : Run (new config clock) events c)
    (at_ : c.entryOf? .html document = some id)
    (reads : ∀ links ∈ (new config clock).versions id events, links ≠ []) :
    ((new config clock).Refilled events id c →
      c.linksOf document ∈ (new config clock).versions id events) ∧
    (¬(new config clock).Refilled events id c → c.linksOf document = []) := by
  have sound := (sound_of_run run).1
  obtain ⟨i, s, found, kind, filled⟩ := find?_of_entryOf? at_
  have hs := (find?_some found).2.1
  obtain ⟨-, e, -, -, he, -, kind', -⟩ := sound.filled hs filled
  have html : e.kind = .html := kind'.trans kind
  have shows : c.linksOf document = e.dependencies := by simp [linksOf, at_, he]
  rw [shows]
  constructor
  · intro refilled
    exact ((linksAmong_of_run run (linksAmong_new config clock) fun _ mem => mem).shown
      he).resolve_left (linked_of_refilled run reads he html refilled)
  · intro lost
    cases live : e.isDisposed with
    | true => exact bare_of_run run he live
    | false =>
        by_contra shown
        exact lost (refilled_of_linked run he html live shown)

/-- Any run and any document in the registry all of whose versions that were read link a stylesheet.
A search finds what the index of the document and those of stylesheets find. The stylesheets are
those that one of the versions links if a fetch was installed after the last had started
(`Refilled`), and else all that are registered. -/
theorem document_is_searched_as_read {config : Config} {clock : Time}
    (run : Run (new config clock) events c) (at_ : c.entryOf? .html document = some id)
    (reads : ∀ links ∈ (new config clock).versions id events, links ≠ []) :
    ∃ sheets,
      (∀ query tag ignore, (c.searchClass document query tag ignore).general =
        c.findings ([id].filter c.isLive ++ sheets) fun index =>
          index.searchClass query anyTag ignore) ∧
      (∀ query tag ignore, tag ≠ "" → (c.searchClass document query (some tag) ignore).specific =
        c.findings ([id].filter c.isLive ++ sheets) fun index =>
          index.searchClass query tag ignore) ∧
      (∀ query, c.searchId document query =
        c.findings ([id].filter c.isLive ++ sheets) fun index => index.searchId query) ∧
      ((new config clock).Refilled events id c →
        ∃ links ∈ (new config clock).versions id events, c.linksOf document = links ∧
          ∀ sheet, sheet ∈ sheets ↔ ∃ link ∈ links, ∃ slot, c.HoldsLive .css link slot sheet) ∧
      (¬(new config clock).Refilled events id c →
        c.linksOf document = [] ∧
          ∀ sheet, sheet ∈ sheets ↔ ∃ path slot, c.HoldsLive .css path slot sheet) := by
  have consults := (sound_of_run run).1.consults document
  rw [at_, Option.toList_some] at consults
  obtain ⟨general, specific, ids⟩ := c.search_eq_findings document (by rw [at_, Option.toList_some])
  obtain ⟨read, lost⟩ := linksOf_of_run run at_ reads
  exact ⟨_, general, specific, ids,
    fun refilled => ⟨_, read refilled, rfl, consults.linked (reads _ (read refilled))⟩,
    fun none => ⟨lost none, consults.unlinked (lost none)⟩⟩

/-- A document that links one of two stylesheets, and the two stylesheets. -/
def oneOfTwo : List Event :=
  documentRead "<link rel=stylesheet href=a.css>" ++ sheetRead 1 "/a.css" "linked" ++
    sheetRead 2 "/b.css" "unlinked"

/-- A fetch of the document reads it as it was. -/
def readAlike : List Event :=
  [.answer 3 (.stat (.ok ⟨1, 68⟩)), .answer 3 (.text (.ok "<link rel=stylesheet href=a.css>")),
    .answer 3 .built]

/-- Once a saved document is read again, it is searched with what it links. -/
theorem saved_document_is_searched_as_read :
    ∃ c sheets, Run (new {} 0) (oneOfTwo ++ .call (.saved ⟨"/i.html"⟩) :: readAlike) c ∧
      c.entryOf? .html ⟨"/i.html"⟩ = some 0 ∧
      (new {} 0).versions 0 (oneOfTwo ++ .call (.saved ⟨"/i.html"⟩) :: readAlike) =
        [[⟨"/a.css"⟩], [⟨"/a.css"⟩]] ∧
      c.stylesheetPaths = [⟨"/a.css"⟩, ⟨"/b.css"⟩] ∧
      (c.searchClass ⟨"/i.html"⟩ "" none []).general =
        c.findings (0 :: sheets) (fun index => index.searchClass "" anyTag []) ∧
      ∀ sheet ∈ sheets, ∃ slot, c.HoldsLive .css ⟨"/a.css"⟩ slot sheet := by
  have facts : ((new {} 0).replay? (oneOfTwo ++ .call (.saved ⟨"/i.html"⟩) :: readAlike)).bind
      (fun c => (c.entries[0]?).map fun e => (c.entryOf? .html ⟨"/i.html"⟩, c.stylesheetPaths,
        e.dependencies, e.isDisposed, decide (e.kind = .html))) =
      some (some 0, [⟨"/a.css"⟩, ⟨"/b.css"⟩], [⟨"/a.css"⟩], false, true) := by
    decide +kernel
  have read : (new {} 0).versions 0 (oneOfTwo ++ .call (.saved ⟨"/i.html"⟩) :: readAlike) =
      [[⟨"/a.css"⟩], [⟨"/a.css"⟩]] := by
    decide +kernel
  obtain ⟨c, hc, facts⟩ := Option.bind_eq_some_iff.mp facts
  obtain ⟨e, he, eq⟩ := Option.map_eq_some_iff.mp facts
  simp only [Prod.mk.injEq, decide_eq_true_eq] at eq
  obtain ⟨at_, all, links, live, html⟩ := eq
  have run := run_iff_replay?.mpr hc
  -- the document has been read again, so its links are the ones searched
  have refilled := refilled_of_linked run he html live (by simp [links])
  obtain ⟨sheets, general, -, -, searched, -⟩ :=
    document_is_searched_as_read run at_ (by simp [read])
  refine ⟨c, sheets, run, at_, read, all, ?_, fun sheet mem => ?_⟩
  · rw [general "" none [], List.filter_cons_of_pos refilled.1]
    rfl
  · obtain ⟨links, among, -, held⟩ := searched refilled
    obtain rfl : links = [⟨"/a.css"⟩] := by simpa [read] using among
    obtain ⟨link, linked, holds⟩ := (held sheet).mp mem
    exact List.mem_singleton.mp linked ▸ holds

/-- From the moment that a document is saved until it is read again, it is searched with a
stylesheet that no version of it links. -/
theorem saved_document_finds_unlinked :
    ∃ b c d, Run (new {} 0) oneOfTwo b ∧ b.step? (.call (.saved ⟨"/i.html"⟩)) = some c ∧
      Run c readAlike d ∧
      (new {} 0).versions 0 (oneOfTwo ++ .call (.saved ⟨"/i.html"⟩) :: readAlike) =
        [[⟨"/a.css"⟩], [⟨"/a.css"⟩]] ∧
      b.linksOf ⟨"/i.html"⟩ = [⟨"/a.css"⟩] ∧
      "unlinked" ∈ (c.searchClass ⟨"/i.html"⟩ "" none []).general ∧
      ∀ id, (id = 0 ∨ ∃ slot, c.HoldsLive .css ⟨"/a.css"⟩ slot id) →
        "unlinked" ∉ c.findings [id] fun index => index.searchClass "" anyTag [] := by
  have facts : ((new {} 0).replay? oneOfTwo).bind (fun b =>
      (b.step? (.call (.saved ⟨"/i.html"⟩))).bind fun c => (c.replay? readAlike).map fun _ =>
        (b.linksOf ⟨"/i.html"⟩, c.entryOf? .css ⟨"/a.css"⟩,
          (c.searchClass ⟨"/i.html"⟩ "" none []).general,
          c.findings [0] fun index => index.searchClass "" anyTag [],
          c.findings [1] fun index => index.searchClass "" anyTag [])) =
      some ([⟨"/a.css"⟩], some 1, ["linked", "unlinked"], [], ["linked"]) := by
    decide +kernel
  have read : (new {} 0).versions 0 (oneOfTwo ++ .call (.saved ⟨"/i.html"⟩) :: readAlike) =
      [[⟨"/a.css"⟩], [⟨"/a.css"⟩]] := by
    decide +kernel
  obtain ⟨b, hb, facts⟩ := Option.bind_eq_some_iff.mp facts
  obtain ⟨c, hc, facts⟩ := Option.bind_eq_some_iff.mp facts
  obtain ⟨d, hd, eq⟩ := Option.map_eq_some_iff.mp facts
  simp only [Prod.mk.injEq] at eq
  obtain ⟨links, at_link, found, own, linked⟩ := eq
  have run := run_iff_replay?.mpr hb
  refine ⟨b, c, d, run, hc, run_iff_replay?.mpr hd, read, links, by simp [found], ?_⟩
  have sound := (sound_of_run (run.append (.cons hc (.nil c)))).1
  -- nothing unlinked is among the findings of the entries allowed
  rintro id (rfl | held)
  · simp [own]
  · obtain ⟨at_, -⟩ := sound.exists_holdsLive_iff.mp held
    obtain rfl := Option.some.inj (at_link.symm.trans at_)
    simp [linked]

end Catalog

end SelectorCatalog
