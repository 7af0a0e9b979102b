import SelectorCatalog.Proofs.Catalog.Steps

/-!
# What holds of every catalogue

`Sound` is what holds of a catalogue after every run from the empty one, whatever the order of its
events:

* every slot has an entry of its own, made for its path and kind, and no entry of the registry is
  without a slot;
* a slot is vacant as long as one job constructs its entry, and no longer;
* registered slots are in the order of their claims, and no two of them have the same path;
* what a slot holds is disposed of once the slot is not registered, and a listener ends only when
  its entry has been disposed of and its slot is gone.

Each of these is kept by every move, so all together are kept by every event (`Sound.step?`).
-/

namespace SelectorCatalog

/-- What is under construction: a slot, the entry made for it, and the number of the fetch. -/
structure Site where
  slot : SlotId
  entry : EntryId
  generation : Nat
deriving DecidableEq

/-- What a job at that stage constructs. -/
def Job.Stage.site? : Job.Stage → Option Site
  | .fetching f (.construct slot) => some ⟨slot, f.entry, f.generation⟩
  | _ => none

namespace Catalog

open Job (Stage Leads Act)

/-- What a job constructs. -/
def site? (c : Catalog) (id : JobId) : Option Site :=
  (c.stage? id).bind Stage.site?

/-- The entry made for each slot. -/
def owners (c : Catalog) : List EntryId :=
  c.listeners.map (·.entry)

/-- The path of each slot. -/
def keys (c : Catalog) : List Path :=
  c.slots.map (·.key)

/-- Every slot has an entry of its own, made for its path and kind. -/
structure Owned (es : List Entry) (ss : List Slot) (os : List EntryId) : Prop where
  length_eq : os.length = ss.length
  nodup : os.Nodup
  made : ∀ {i : SlotId} {id : EntryId} {s : Slot}, os[i]? = some id → ss[i]? = some s →
    ∃ e : Entry, es[id]? = some e ∧ e.scope = .registry ∧ e.kind = s.kind ∧ e.path = s.key
  mem : ∀ {id : EntryId} {e : Entry}, es[id]? = some e → e.scope = .registry → id ∈ os
  filled : ∀ {i : SlotId} {s : Slot} {id : EntryId}, ss[i]? = some s → s.entry = some id →
    os[i]? = some id

/-- A slot is vacant as long as one job constructs its entry, and no longer. -/
structure Built (site? : JobId → Option Site) (ss : List Slot) (os : List EntryId) : Prop where
  place : ∀ {j x}, site? j = some x →
    (∃ s, ss[x.slot]? = some s ∧ s.entry = none) ∧ os[x.slot]? = some x.entry ∧ x.generation = 1
  alone : ∀ {j k x y}, site? j = some x → site? k = some y → x.slot = y.slot → j = k
  vacant : ∀ {i : SlotId} {s : Slot}, ss[i]? = some s → s.entry = none →
    ∃ j x, site? j = some x ∧ x.slot = i

/-- Registered slots are in the order of their claims, and no two of them have the same path. -/
structure Registered (keys : List Path) (rs : List SlotId) : Prop where
  lt : ∀ i ∈ rs, i < keys.length
  sorted : rs.Pairwise (· < ·)
  apart : ∀ {i j : SlotId} {p q : Path}, i ∈ rs → j ∈ rs → keys[i]? = some p → keys[j]? = some q →
    p.same q = true → i = j

/-- What a slot holds is disposed of once the slot is not registered. -/
structure Evicted (es : List Entry) (ss : List Slot) (rs : List SlotId) : Prop where
  gone : ∀ {i : SlotId} {s : Slot} {id : EntryId} {e : Entry}, ss[i]? = some s → s.entry = some id →
    i ∉ rs → es[id]? = some e → e.isDisposed = true

/-- A listener has heard nothing that was not told. As long as it goes on it has the disposal of its
entry before it, and it ends only when that is heard and the slot is gone, unless the catalogue is
let go of. -/
structure Heard (es : List Entry) (rs : List SlotId) (ls : List Listener) (held : Bool) : Prop where
  slot_eq : ∀ {i : SlotId} {l : Listener}, ls[i]? = some l → l.slot = i
  seen_le : ∀ {i : SlotId} {l : Listener} {e : Entry}, ls[i]? = some l → es[l.entry]? = some e →
    l.seen ≤ e.sent.length
  before : ∀ {i : SlotId} {l : Listener} {e : Entry}, ls[i]? = some l → l.closed = false →
    es[l.entry]? = some e → e.isDisposed = true → l.seen < e.sent.length
  ended : ∀ {i : SlotId} {l : Listener} {e : Entry}, ls[i]? = some l → l.closed = true →
    held = true → es[l.entry]? = some e → e.isDisposed = true ∧ i ∉ rs

/-- What holds of a catalogue after every run. -/
structure Sound (c : Catalog) : Prop where
  honest : ∀ {id : EntryId} {e : Entry}, c.entries[id]? = some e → e.Honest
  owned : Owned c.entries c.slots c.owners
  built : Built c.site? c.slots c.owners
  registered : Registered c.keys c.registered
  evicted : Evicted c.entries c.slots c.registered
  heard : Heard c.entries c.registered c.listeners c.held

variable {may : JobId → Act → Prop} {c d : Catalog} {id : JobId}

/-! ## Lists -/

theorem getElem?_concat {xs : List α} {x y : α} {i : Nat} (h : (xs ++ [x])[i]? = some y) :
    xs[i]? = some y ∨ i = xs.length ∧ x = y := by
  rw [List.getElem?_append] at h
  split at h
  · exact .inl h
  · next ge =>
      obtain ⟨lt, h⟩ := List.getElem?_eq_some_iff.mp h
      simp only [List.length_singleton, Nat.lt_one_iff] at lt
      simp only [List.getElem_singleton] at h
      exact .inr ⟨by omega, h⟩

theorem getElem?_append_some {xs : List α} (ys : List α) {y : α} {i : Nat} (h : xs[i]? = some y) :
    (xs ++ ys)[i]? = some y := by
  rw [List.getElem?_append_left (List.getElem?_eq_some_iff.mp h).1, h]

/-! ## Sites -/

/-- What is constructed is a matter of the jobs. -/
theorem site?_congr (h : d.jobs = c.jobs) : d.site? = c.site? := by
  funext j
  rw [site?, site?, stage?_congr h]

/-- How a job goes on has nothing to do with what it constructs. -/
theorem site?_of_leads {slots : List Slot} {s t : Stage} (h : Leads slots s t) :
    t.site? = s.site? := by
  have none_of : ∀ t : Stage, t.isConstruct = false → t.site? = none := by
    intro t h
    cases t with
    | fetching f purpose =>
        cases purpose with
        | construct => cases h
        | _ => rfl
    | _ => rfl
  cases h with
  | ofOpen isOpen no =>
      rw [none_of t no]
      cases s with
      | fetching | awaiting | done => cases isOpen
      | _ => rfl
  | advance f purpose => cases purpose <;> rfl
  | finish f purpose result no => exact (none_of (.fetching f purpose) no).symm
  | refresh | share | miss => rfl

/-- What is constructed where one job has come to another stage. -/
theorem site?_of_stage? {s t : Stage} (hs : c.stage? id = some s) {j : JobId}
    (h : d.stage? j = if id = j then (c.stage? j).map fun _ => t else c.stage? j) :
    d.site? j = if id = j then t.site? else c.site? j := by
  rw [site?, h]
  by_cases eq : id = j
  · subst eq
    rw [if_pos rfl, if_pos rfl, hs]
    rfl
  · rw [if_neg eq, if_neg eq, site?]

/-- A job that goes on with its construction leaves all sites as they are. -/
theorem site?_setStage {s t : Stage} (hs : c.stage? id = some s) (same : t.site? = s.site?) :
    (c.setStage id t).site? = c.site? := by
  funext j
  rw [site?_of_stage? hs (stage?_setStage c id j t), same]
  split
  · next eq =>
      subst eq
      rw [site?, hs]
      rfl
  · rfl

/-- New jobs construct nothing. -/
theorem site?_enlist {ts : List Job} (starting : ∀ t ∈ ts, t.stage = .starting) :
    ({ c with jobs := c.jobs ++ ts } : Catalog).site? = c.site? := by
  funext j
  rw [site?, site?, stage?, stage?]
  by_cases lt : j < c.jobs.length
  · rw [List.getElem?_append_left lt]
  · have ge : c.jobs.length ≤ j := Nat.le_of_not_lt lt
    rw [List.getElem?_append_right ge, List.getElem?_eq_none ge]
    cases h : ts[j - c.jobs.length]? with
    | none => rfl
    | some t =>
        show t.stage.site? = none
        rw [starting t (List.mem_of_getElem? h)]
        rfl

/-- The job that opens a slot constructs its entry. -/
theorem site?_opened {s : Stage} (hs : c.stage? id = some s) (kind : EntryKind) (path : Path)
    (j : JobId) :
    (c.opened id kind path).site? j =
      if id = j then some ⟨c.slots.length, c.entries.length, 1⟩ else c.site? j :=
  site?_of_stage? hs (stage?_opened c id kind path j)

/-- The job that concludes constructs nothing any more. -/
theorem site?_concluded {s : Stage} (hs : c.stage? id = some s) (slot : SlotId) (entry : EntryId)
    (j : JobId) : (c.concluded id slot entry).site? j = if id = j then none else c.site? j :=
  site?_of_stage? hs (stage?_concluded c id slot entry j)

/-! ## Owned -/

variable {es ds : List Entry} {ss : List Slot} {os : List EntryId}

/-- Owners stay when entries take turns. -/
theorem Owned.turns (h : Owned es ss os) (turns : Entry.Turns es ds) : Owned ds ss os where
  length_eq := h.length_eq
  nodup := h.nodup
  made ho hs := by
    obtain ⟨e, he, scope, kind, path⟩ := h.made ho hs
    obtain ⟨d, hd, turn⟩ := turns.2 _ e he
    obtain ⟨kind', path', scope'⟩ := turn.file
    exact ⟨d, hd, scope'.trans scope, kind'.trans kind, path'.trans path⟩
  mem hd scope := by
    obtain ⟨e, he, turn⟩ := turns.origin hd
    exact h.mem he (turn.file.2.2.symm.trans scope)
  filled := h.filled

theorem Owned.standalone (h : Owned es ss os) {e : Entry} (alone : e.scope = .standalone) :
    Owned (es ++ [e]) ss os where
  length_eq := h.length_eq
  nodup := h.nodup
  made ho hs := by
    obtain ⟨e, he, file⟩ := h.made ho hs
    exact ⟨e, getElem?_append_some _ he, file⟩
  mem hd scope := by
    rcases getElem?_concat hd with hd | ⟨-, rfl⟩
    · exact h.mem hd scope
    · cases alone.symm.trans scope
  filled := h.filled

/-- An owner is an entry that is there. -/
theorem Owned.lt (h : Owned es ss os) {id : EntryId} (mem : id ∈ os) : id < es.length := by
  obtain ⟨i, hi⟩ := List.getElem?_of_mem mem
  obtain ⟨lt, -⟩ := List.getElem?_eq_some_iff.mp hi
  obtain ⟨e, he, -⟩ := h.made hi (List.getElem?_eq_getElem (h.length_eq ▸ lt))
  exact (List.getElem?_eq_some_iff.mp he).1

theorem Owned.claim (h : Owned es ss os) {e : Entry} (scope : e.scope = .registry) :
    Owned (es ++ [e]) (ss ++ [⟨e.path, e.kind, none⟩]) (os ++ [es.length]) where
  length_eq := by simp [h.length_eq]
  nodup := by
    -- the new entry is no other slot's
    refine List.nodup_append.mpr ⟨h.nodup, List.pairwise_singleton _ _, ?_⟩
    rintro id mem _ mem' rfl
    obtain rfl := List.mem_singleton.mp mem'
    exact Nat.lt_irrefl _ (h.lt mem)
  made ho hs := by
    rcases getElem?_concat ho with ho | ⟨hi, rfl⟩
    · rcases getElem?_concat hs with hs | ⟨hi, -⟩
      · obtain ⟨e, he, file⟩ := h.made ho hs
        exact ⟨e, getElem?_append_some _ he, file⟩
      · exact absurd (List.getElem?_eq_some_iff.mp ho).1
          (by rw [h.length_eq, hi]; exact Nat.lt_irrefl _)
    -- the new slot has the new entry, of the same path and kind
    · rcases getElem?_concat hs with hs | ⟨-, rfl⟩
      · exact absurd (List.getElem?_eq_some_iff.mp hs).1
          (by rw [hi, h.length_eq]; exact Nat.lt_irrefl _)
      · exact ⟨e, by simp, scope, rfl, rfl⟩
  mem hd registry := by
    rcases getElem?_concat hd with hd | ⟨rfl, -⟩
    · exact List.mem_append_left _ (h.mem hd registry)
    · exact List.mem_append_right _ (List.mem_singleton.mpr rfl)
  -- the new slot is vacant
  filled hs he := by
    rcases getElem?_concat hs with hs | ⟨-, rfl⟩
    · exact getElem?_append_some _ (h.filled hs he)
    · cases he

/-- The slot that another slot was before it was filled. -/
theorem slot_fill {i slot : SlotId} {s : Slot} {entry : EntryId}
    (h : (ss.modify slot fun s => { s with entry := some entry })[i]? = some s) :
    ∃ t, ss[i]? = some t ∧ t.key = s.key ∧ t.kind = s.kind ∧
      s.entry = if slot = i then some entry else t.entry := by
  rw [List.getElem?_modify] at h
  obtain ⟨t, ht, rfl⟩ := Option.map_eq_some_iff.mp h
  refine ⟨t, ht, ?_⟩
  by_cases hi : slot = i
  · simp [hi]
  · simp [hi]

/-- A slot may be filled with the entry that owns it. -/
theorem Owned.fill (h : Owned es ss os) {slot : SlotId} {entry : EntryId}
    (own : os[slot]? = some entry) :
    Owned es (ss.modify slot fun s => { s with entry := some entry }) os where
  length_eq := by rw [List.length_modify, h.length_eq]
  nodup := h.nodup
  made ho hs := by
    obtain ⟨t, ht, key, kind, -⟩ := slot_fill hs
    rw [← key, ← kind]
    exact h.made ho ht
  mem := h.mem
  filled hs he := by
    obtain ⟨t, ht, -, -, entry_eq⟩ := slot_fill hs
    rw [entry_eq] at he
    split at he
    · next hi => rw [← hi, ← he, own]
    · exact h.filled ht he

/-! ## Built -/

/-- A job that constructed nothing has claimed a slot. -/
theorem Built.claim {site? : JobId → Option Site} (h : Built site? ss os)
    (same : os.length = ss.length) (idle : site? id = none) (key : Path) (kind : EntryKind)
    (entry : EntryId) :
    Built (fun j => if id = j then some ⟨ss.length, entry, 1⟩ else site? j)
      (ss ++ [⟨key, kind, none⟩]) (os ++ [entry]) where
  place {j x} hx := by
    split at hx
    · cases hx
      exact ⟨⟨⟨key, kind, none⟩, by simp, rfl⟩, by simp [← same], rfl⟩
    · obtain ⟨⟨s, hs, empty⟩, own, first⟩ := h.place hx
      exact ⟨⟨s, getElem?_append_some _ hs, empty⟩, getElem?_append_some _ own, first⟩
  alone {j k x y} hx hy eq := by
    -- the new site is beyond all others
    have below : ∀ {j x}, site? j = some x → x.slot < ss.length := fun hx =>
      let ⟨⟨_, hs, _⟩, _⟩ := h.place hx
      (List.getElem?_eq_some_iff.mp hs).1
    split at hx <;> split at hy
    · next hj hk => exact hj.symm.trans hk
    · cases hx
      exact absurd (below hy) (by rw [← eq]; exact Nat.lt_irrefl _)
    · cases hy
      exact absurd (below hx) (by rw [eq]; exact Nat.lt_irrefl _)
    · exact h.alone hx hy eq
  vacant {i s} hs empty := by
    rcases getElem?_concat hs with hs | ⟨rfl, -⟩
    · obtain ⟨j, x, hx, hi⟩ := h.vacant hs empty
      refine ⟨j, x, ?_, hi⟩
      rw [if_neg, hx]
      rintro rfl
      cases idle.symm.trans hx
    · exact ⟨id, _, if_pos rfl, rfl⟩

/-- A job has filled the slot that it was at. -/
theorem Built.conclude {site? : JobId → Option Site} (h : Built site? ss os) {x : Site}
    (at_ : site? id = some x) (entry : EntryId) :
    Built (fun j => if id = j then none else site? j)
      (ss.modify x.slot fun s => { s with entry := some entry }) os where
  place {j y} hy := by
    split at hy
    · cases hy
    · next ne =>
        obtain ⟨⟨s, hs, empty⟩, own, first⟩ := h.place hy
        -- the slot that was filled is not the one this other job constructs
        refine ⟨⟨s, ?_, empty⟩, own, first⟩
        have other : x.slot ≠ y.slot := fun eq => ne (h.alone at_ hy eq)
        simp [hs, other]
  alone hx hy eq := by
    split at hx
    · cases hx
    · split at hy
      · cases hy
      · exact h.alone hx hy eq
  vacant {i s} hs empty := by
    obtain ⟨t, ht, -, -, entry_eq⟩ := slot_fill hs
    rw [empty] at entry_eq
    split at entry_eq
    · cases entry_eq
    -- the filled slot is not vacant any more, so it is another one
    · next ne =>
        obtain ⟨j, y, hy, hi⟩ := h.vacant ht entry_eq.symm
        refine ⟨j, y, ?_, hi⟩
        rw [if_neg, hy]
        rintro rfl
        obtain rfl := Option.some.inj (at_.symm.trans hy)
        exact ne hi

/-! ## Registered -/

/-- Slots may leave the registry. -/
theorem Registered.filter {keys : List Path} {rs : List SlotId} (h : Registered keys rs)
    (keep : SlotId → Bool) : Registered keys (rs.filter keep) where
  lt i mem := h.lt i (List.mem_filter.mp mem).1
  sorted := h.sorted.filter _
  apart hi hj := h.apart (List.mem_filter.mp hi).1 (List.mem_filter.mp hj).1

/-- A free path is registered under a new number. -/
theorem Registered.claim {keys : List Path} {rs : List SlotId} (h : Registered keys rs)
    {path : Path} (free : ∀ i ∈ rs, ∀ p, keys[i]? = some p → p.same path = false) :
    Registered (keys ++ [path]) (rs ++ [keys.length]) where
  lt i mem := by
    rw [List.length_append]
    rcases List.mem_append.mp mem with mem | mem
    · exact Nat.lt_add_right _ (h.lt i mem)
    · rw [List.mem_singleton.mp mem]
      exact Nat.lt_succ_self _
  sorted := by
    refine List.pairwise_append.mpr ⟨h.sorted, List.pairwise_singleton _ _, ?_⟩
    intro i hi j hj
    rw [List.mem_singleton.mp hj]
    exact h.lt i hi
  apart {i j p q} hi hj hp hq same := by
    have old : ∀ {i p}, i ∈ rs → (keys ++ [path])[i]? = some p → keys[i]? = some p := by
      intro i p mem hp
      rwa [List.getElem?_append_left (h.lt _ mem)] at hp
    rcases List.mem_append.mp hi with hi | hi <;> rcases List.mem_append.mp hj with hj | hj
    -- two old ones, an old and the new one, or the new one twice
    · exact h.apart hi hj (old hi hp) (old hj hq) same
    · obtain rfl := List.mem_singleton.mp hj
      simp only [List.getElem?_concat_length] at hq
      cases hq
      exact absurd same (by simp [free i hi p (old hi hp)])
    · obtain rfl := List.mem_singleton.mp hi
      simp only [List.getElem?_concat_length] at hp
      cases hp
      rw [Path.same_comm] at same
      exact absurd same (by simp [free j hj q (old hj hq)])
    · rw [List.mem_singleton.mp hi, List.mem_singleton.mp hj]

/-- Where nothing is found, no registered slot has the path. -/
theorem find?_none {path : Path} (h : c.find? path = none) :
    ∀ i ∈ c.registered, ∀ p, c.keys[i]? = some p → p.same path = false := by
  intro i hi p hp
  rw [keys, List.getElem?_map] at hp
  obtain ⟨s, hs, rfl⟩ := Option.map_eq_some_iff.mp hp
  have := List.findSome?_eq_none_iff.mp h i hi
  rw [hs] at this
  simpa using this

/-! ## Evicted -/

variable {rs : List SlotId} {ls : List Listener} {held : Bool}

/-- What is evicted stays so when entries take turns. -/
theorem Evicted.turns (h : Evicted es ss rs) (turns : Entry.Turns es ds) : Evicted ds ss rs := by
  constructor
  intro i s id d hs filled out hd
  obtain ⟨e, he, turn⟩ := turns.origin hd
  exact (turn.frozen (h.gone hs filled out he)).1

/-- What a slot holds was there before another entry was added. -/
theorem Evicted.append (h : Evicted es ss rs) (owned : Owned es ss os) (more : List Entry) :
    Evicted (es ++ more) ss rs := by
  constructor
  intro i s id e hs filled out he
  rw [List.getElem?_append_left (owned.lt (List.mem_of_getElem? (owned.filled hs filled)))] at he
  exact h.gone hs filled out he

/-- A new slot is registered, so nothing of it is evicted. -/
theorem Evicted.claim (h : Evicted es ss rs) (key : Path) (kind : EntryKind) :
    Evicted es (ss ++ [⟨key, kind, none⟩]) (rs ++ [ss.length]) := by
  constructor
  intro i s id e hs filled out he
  rcases getElem?_concat hs with hs | ⟨-, rfl⟩
  · exact h.gone hs filled (fun mem => out (List.mem_append_left _ mem)) he
  · cases filled

/-- A slot is filled with an entry that is disposed of, or that belongs to a registered slot. -/
theorem Evicted.fill (h : Evicted es ss rs) {slot : SlotId} {entry : EntryId}
    (gone : slot ∈ rs ∨ ∀ e : Entry, es[entry]? = some e → e.isDisposed = true) :
    Evicted es (ss.modify slot fun s => { s with entry := some entry }) rs := by
  constructor
  intro i s id e hs filled out he
  obtain ⟨t, ht, -, -, entry_eq⟩ := slot_fill hs
  rw [filled] at entry_eq
  split at entry_eq
  · next hi =>
      cases entry_eq
      rcases gone with mem | gone
      · exact absurd (hi ▸ mem) out
      · exact gone e he
  · exact h.gone ht entry_eq.symm out he

/-- Slots may leave the registry when what they hold is disposed of. -/
theorem Evicted.filter (h : Evicted es ss rs) (keep : SlotId → Bool)
    (gone : ∀ slot ∈ rs, keep slot = false → ∀ entry, (ss[slot]?).bind (·.entry) = some entry →
      ∀ e : Entry, es[entry]? = some e → e.isDisposed = true) :
    Evicted es ss (rs.filter keep) := by
  constructor
  intro i s id e hs filled out he
  by_cases mem : i ∈ rs
  · have lost : keep i = false := by
      cases hk : keep i with
      | false => rfl
      | true => exact absurd (List.mem_filter.mpr ⟨mem, hk⟩) out
    exact gone i mem lost id (by rw [hs]; exact filled) e he
  · exact h.gone hs filled mem he

/-! ## Heard -/

/-- What was heard stays so when entries take turns. -/
theorem Heard.turns (h : Heard es rs ls held) (turns : Entry.Turns es ds) :
    Heard ds rs ls held where
  slot_eq := h.slot_eq
  seen_le hl hd := by
    obtain ⟨e, he, turn⟩ := turns.origin hd
    exact Nat.le_trans (h.seen_le hl he) turn.sent_prefix.length_le
  before hl isOpen hd gone := by
    obtain ⟨e, he, turn⟩ := turns.origin hd
    obtain ⟨same, sent⟩ | ⟨-, -, sent⟩ | ⟨-, live, -⟩ := turn.told
    · rw [sent]
      exact h.before hl isOpen he (same.symm.trans gone)
    · -- the disposal is told just now
      rw [sent, List.length_append]
      exact Nat.lt_succ_of_le (h.seen_le hl he)
    · cases gone.symm.trans live
  ended hl closed up hd := by
    obtain ⟨e, he, turn⟩ := turns.origin hd
    obtain ⟨gone, out⟩ := h.ended hl closed up he
    exact ⟨(turn.frozen gone).1, out⟩

/-- What was heard stays so with further entries. -/
theorem Heard.append (h : Heard es rs ls held) (lt : ∀ l ∈ ls, l.entry < es.length)
    (more : List Entry) : Heard (es ++ more) rs ls held := by
  have old : ∀ {i : SlotId} {l : Listener}, ls[i]? = some l →
      (es ++ more)[l.entry]? = es[l.entry]? :=
    fun hl => List.getElem?_append_left (lt _ (List.mem_of_getElem? hl))
  exact
    { slot_eq := h.slot_eq
      seen_le := fun hl he => h.seen_le hl (old hl ▸ he)
      before := fun hl isOpen he => h.before hl isOpen (old hl ▸ he)
      ended := fun hl closed up he => h.ended hl closed up (old hl ▸ he) }

/-- A new listener has everything before it, and its slot is registered. -/
theorem Heard.claim (h : Heard es rs ls held) {entry : EntryId} {e : Entry}
    (he : es[entry]? = some e) (live : e.isDisposed = false) :
    Heard es (rs ++ [ls.length]) (ls ++ [Listener.new ls.length entry]) held where
  slot_eq hl := by
    rcases getElem?_concat hl with hl | ⟨rfl, rfl⟩
    · exact h.slot_eq hl
    · rfl
  seen_le hl hx := by
    rcases getElem?_concat hl with hl | ⟨-, rfl⟩
    · exact h.seen_le hl hx
    · exact Nat.zero_le _
  before hl isOpen hx gone := by
    rcases getElem?_concat hl with hl | ⟨-, rfl⟩
    · exact h.before hl isOpen hx gone
    · obtain rfl := Option.some.inj (he.symm.trans hx)
      cases gone.symm.trans live
  ended {i l x} hl closed up hx := by
    rcases getElem?_concat hl with hl | ⟨-, rfl⟩
    · obtain ⟨gone, out⟩ := h.ended hl closed up hx
      refine ⟨gone, fun mem => ?_⟩
      rcases List.mem_append.mp mem with mem | mem
      · exact out mem
      · obtain rfl := List.mem_singleton.mp mem
        exact Nat.lt_irrefl _ (List.getElem?_eq_some_iff.mp hl).1
    · cases closed

theorem Heard.filter (h : Heard es rs ls held) (keep : SlotId → Bool) :
    Heard es (rs.filter keep) ls held where
  slot_eq := h.slot_eq
  seen_le := h.seen_le
  before := h.before
  ended hl closed up he :=
    ⟨(h.ended hl closed up he).1, fun mem => (h.ended hl closed up he).2 (List.mem_filter.mp mem).1⟩

/-- A listener goes on: it must not pass over the disposal of its entry, nor end before it. -/
theorem Heard.set (h : Heard es rs ls held) {i : SlotId} {l l' : Listener} (hl : ls[i]? = some l)
    (slot : l'.slot = l.slot) (entry : l'.entry = l.entry)
    (seen_le : ∀ e : Entry, es[l.entry]? = some e → l'.seen ≤ e.sent.length)
    (before : l'.closed = false → ∀ e : Entry, es[l.entry]? = some e → e.isDisposed = true →
      l'.seen < e.sent.length)
    (ended : l'.closed = true → held = true → ∀ e : Entry, es[l.entry]? = some e →
      e.isDisposed = true ∧ i ∉ rs) :
    Heard es rs (ls.set i l') held := by
  -- a listener is the one that has gone on, or another that is as it was
  have which : ∀ {j : SlotId} {m : Listener}, (ls.set i l')[j]? = some m →
      (j = i ∧ m = l') ∨ ls[j]? = some m := by
    intro j m hm
    rw [List.getElem?_set] at hm
    split at hm
    · next hj =>
        split at hm
        · exact .inl ⟨hj.symm, (Option.some.inj hm).symm⟩
        · cases hm
    · exact .inr hm
  constructor
  · intro j m hm
    rcases which hm with ⟨rfl, rfl⟩ | hm
    · rw [slot, h.slot_eq hl]
    · exact h.slot_eq hm
  · intro j m e hm he
    rcases which hm with ⟨rfl, rfl⟩ | hm
    · exact seen_le e (entry ▸ he)
    · exact h.seen_le hm he
  · intro j m e hm isOpen he gone
    rcases which hm with ⟨rfl, rfl⟩ | hm
    · exact before isOpen e (entry ▸ he) gone
    · exact h.before hm isOpen he gone
  · intro j m e hm closed up he
    rcases which hm with ⟨rfl, rfl⟩ | hm
    · exact ended closed up e (entry ▸ he)
    · exact h.ended hm closed up he

/-! ## All together -/

/-- A listener keeps its entry, and so the owners. -/
theorem owners_setListener {i : Nat} {l l' : Listener} (hl : c.listeners[i]? = some l)
    (same : l'.entry = l.entry) : (c.setListener i l').owners = c.owners := by
  apply List.ext_getElem?
  intro j
  simp only [owners, setListener, List.getElem?_map, List.getElem?_set]
  split
  · next hj =>
      subst hj
      rw [if_pos (List.getElem?_eq_some_iff.mp hl).1, hl]
      exact congrArg some same
  · rfl

theorem owners_concluded (c : Catalog) (id : JobId) (slot : SlotId) (entry : EntryId) :
    (c.concluded id slot entry).owners = c.owners := by
  rw [owners, owners, concluded_listeners]

/-- A slot that is filled keeps its path. -/
theorem keys_fill (c : Catalog) (slot : SlotId) (entry : EntryId) :
    (c.fill slot entry).keys = c.keys := by
  apply List.ext_getElem?
  intro j
  rw [keys, keys, fill, List.getElem?_map, List.getElem?_map, List.getElem?_modify]
  cases c.slots[j]? with
  | none => rfl
  | some s =>
      show some (if slot = j then { s with entry := some entry } else s).key = some s.key
      split <;> rfl

/-- A listener listens to an entry that is there. -/
theorem Sound.owner_lt (sound : Sound c) {l : Listener} (mem : l ∈ c.listeners) :
    l.entry < c.entries.length :=
  sound.owned.lt (List.mem_map_of_mem mem)

/-- Each slot has one listener. -/
theorem Sound.listeners_length (sound : Sound c) : c.listeners.length = c.slots.length := by
  rw [← sound.owned.length_eq, owners, List.length_map]

/-- The slot that an entry of the registry was made for. -/
theorem Sound.slot_of_entry (sound : Sound c) {id : EntryId} {e : Entry}
    (he : c.entries[id]? = some e) (scope : e.scope = .registry) :
    ∃ (i : SlotId) (s : Slot), c.owners[i]? = some id ∧ c.slots[i]? = some s ∧ e.kind = s.kind ∧
      e.path = s.key := by
  obtain ⟨i, own⟩ := List.getElem?_of_mem (sound.owned.mem he scope)
  have lt : i < c.slots.length := sound.owned.length_eq ▸ (List.getElem?_eq_some_iff.mp own).1
  have hs : c.slots[i]? = some c.slots[i] := List.getElem?_eq_getElem lt
  obtain ⟨e', he', -, file⟩ := sound.owned.made own hs
  obtain rfl := Option.some.inj (he.symm.trans he')
  exact ⟨i, _, own, hs, file⟩

/-- A filled slot holds the entry that was made for it. -/
theorem Sound.filled (sound : Sound c) {i : SlotId} {s : Slot} {id : EntryId}
    (hs : c.slots[i]? = some s) (filled : s.entry = some id) :
    ∃ l e, c.listeners[i]? = some l ∧ l.entry = id ∧ c.entries[id]? = some e ∧ e.scope = .registry ∧
      e.kind = s.kind ∧ e.path = s.key := by
  have own := sound.owned.filled hs filled
  obtain ⟨e, he, file⟩ := sound.owned.made own hs
  rw [owners, List.getElem?_map] at own
  obtain ⟨l, hl, entry⟩ := Option.map_eq_some_iff.mp own
  exact ⟨l, e, hl, entry, he, file⟩

/-- An entry is of the kind of its slot. -/
theorem Sound.kind_of_filled (sound : Sound c) {i : SlotId} {s : Slot} {id : EntryId} {e : Entry}
    (hs : c.slots[i]? = some s) (filled : s.entry = some id) (he : c.entries[id]? = some e) :
    e.kind = s.kind := by
  obtain ⟨-, e', -, -, he', -, kind_eq, -⟩ := sound.filled hs filled
  obtain rfl := Option.some.inj (he.symm.trans he')
  exact kind_eq

/-- No two slots hold the same entry. -/
theorem Sound.slot_unique (sound : Sound c) {i j : SlotId} {s t : Slot} {id : EntryId}
    (hs : c.slots[i]? = some s) (filled : s.entry = some id) (ht : c.slots[j]? = some t)
    (filled' : t.entry = some id) : i = j := by
  have own := sound.owned.filled hs filled
  exact (List.getElem?_inj (List.getElem?_eq_some_iff.mp own).1 sound.owned.nodup).mp
    (own.trans (sound.owned.filled ht filled').symm)

/-- Entries take their turns. -/
theorem Sound.turns (sound : Sound c) {es : List Entry} (turns : Entry.Turns c.entries es) :
    Sound { c with entries := es } where
  honest hd := by
    obtain ⟨e, he, turn⟩ := turns.origin hd
    exact turn.honest (sound.honest he)
  owned := sound.owned.turns turns
  built := sound.built
  registered := sound.registered
  evicted := sound.evicted.turns turns
  heard := sound.heard.turns turns

/-- A job claims a free path. -/
theorem Sound.opened (sound : Sound c) {s : Stage} (kind : EntryKind) {path : Path}
    (hs : c.stage? id = some s) (isOpen : s.isOpen = true) (free : c.find? path = none) :
    Sound (c.opened id kind path) := by
  let e : Entry := { kind := kind, path := path, scope := .registry }
  have turn : e.Turn e.beginFetch := .fetch rfl
  obtain ⟨kind_eq, path_eq, scope⟩ := turn.file
  -- the job constructs nothing yet
  have idle : c.site? id = none := by
    rw [site?, hs]
    cases s with
    | fetching | awaiting | done => cases isOpen
    | _ => rfl
  have site_eq : (c.opened id kind path).site? =
      fun j => if id = j then some ⟨c.slots.length, c.entries.length, 1⟩ else c.site? j :=
    funext (site?_opened hs kind path)
  have owners_eq : (c.opened id kind path).owners = c.owners ++ [c.entries.length] := by
    simp [owners, Catalog.opened, Listener.new]
  have keys_eq : (c.opened id kind path).keys = c.keys ++ [path] := by
    simp [keys, Catalog.opened]
  constructor
  · intro i x hx
    rcases getElem?_concat hx with hx | ⟨-, rfl⟩
    · exact sound.honest hx
    · exact turn.honest (Entry.honest_new kind path .registry)
  · rw [owners_eq]
    show Owned (c.entries ++ [e.beginFetch]) (c.slots ++ [⟨path, kind, none⟩]) _
    have := sound.owned.claim scope
    rwa [path_eq, kind_eq] at this
  · rw [site_eq, owners_eq]
    exact sound.built.claim sound.owned.length_eq idle path kind _
  · rw [keys_eq]
    have := sound.registered.claim (find?_none free)
    rwa [show c.keys.length = c.slots.length from List.length_map ..] at this
  · exact (sound.evicted.append sound.owned _).claim path kind
  · have added : (c.entries ++ [e.beginFetch])[c.entries.length]? = some e.beginFetch := by simp
    have := (sound.heard.append (fun l mem => sound.owner_lt mem) [e.beginFetch]).claim added
      (Entry.isDisposed_beginFetch e)
    rwa [sound.listeners_length] at this

/-- A construction is over: its entry stays if its slot is registered still, and is disposed of
otherwise. -/
theorem Sound.concluded (sound : Sound c) {f : Fetch} {slot : SlotId}
    (hs : c.stage? id = some (.fetching f (.construct slot))) :
    Sound (c.concluded id slot f.entry) := by
  have at_ : c.site? id = some ⟨slot, f.entry, f.generation⟩ := by
    rw [site?, hs]
    rfl
  obtain ⟨-, own, -⟩ := sound.built.place at_
  have site_eq : (c.concluded id slot f.entry).site? =
      fun j => if id = j then none else c.site? j :=
    funext (site?_concluded hs slot f.entry)
  have owners_eq := owners_concluded c id slot f.entry
  have keys_eq : (c.concluded id slot f.entry).keys = c.keys := by
    rw [keys, concluded_slots]
    exact keys_fill c slot f.entry
  have turns : Entry.Turns c.entries (c.concluded id slot f.entry).entries := by
    rw [concluded_entries]
    split
    · exact .refl _
    · exact (Entry.Disposals.modify _ _).turns
  -- a slot that was evicted meanwhile gets an entry that is disposed of
  have gone : slot ∈ c.registered ∨ ∀ e : Entry,
      (c.concluded id slot f.entry).entries[f.entry]? = some e → e.isDisposed = true := by
    by_cases mem : c.isRegistered slot = true
    · exact .inl (List.contains_iff_mem.mp mem)
    · right
      intro e he
      rw [concluded_entries, if_neg mem, List.getElem?_modify_eq] at he
      obtain ⟨x, -, rfl⟩ := Option.map_eq_some_iff.mp he
      exact Entry.isDisposed_dispose x
  constructor
  · exact (sound.turns turns).honest
  · rw [concluded_slots, owners_eq]
    exact (sound.owned.turns turns).fill own
  · rw [site_eq, concluded_slots, owners_eq]
    exact sound.built.conclude at_ f.entry
  · rw [concluded_registered, keys_eq]
    exact sound.registered
  · rw [concluded_slots, concluded_registered]
    exact (sound.evicted.turns turns).fill gone
  · rw [concluded_registered, concluded_listeners, concluded_held]
    exact sound.heard.turns turns

/-- Slots leave the registry when what they hold is disposed of. -/
theorem Sound.evict (sound : Sound c) (keep : SlotId → Bool)
    (gone : ∀ slot ∈ c.registered, keep slot = false →
      ∀ entry, (c.slots[slot]?).bind (·.entry) = some entry →
      ∀ e : Entry, c.entries[entry]? = some e → e.isDisposed = true) :
    Sound { c with registered := c.registered.filter keep } where
  honest := sound.honest
  owned := sound.owned
  built := sound.built
  registered := sound.registered.filter keep
  evicted := sound.evicted.filter keep gone
  heard := sound.heard.filter keep

/-- A listener goes on. -/
theorem Sound.setListener (sound : Sound c) {i : Nat} {l l' : Listener}
    (hl : c.listeners[i]? = some l) (entry : l'.entry = l.entry)
    (heard : Heard c.entries c.registered (c.listeners.set i l') c.held) :
    Sound (c.setListener i l') := by
  have owners_eq := owners_setListener hl entry
  exact
    { honest := sound.honest
      owned := owners_eq ▸ sound.owned
      built := owners_eq ▸ sound.built
      registered := sound.registered
      evicted := sound.evicted
      heard := heard }

/-- Every move keeps what holds of a catalogue. -/
theorem Move.sound (h : Move may c d) (sound : Sound c) : Sound d := by
  cases h with
  | ambient _ entries slots registered jobs listeners held =>
      have owners_eq : d.owners = c.owners := congrArg (List.map _) listeners
      have keys_eq : d.keys = c.keys := congrArg (List.map _) slots
      constructor
      · rw [entries]
        exact sound.honest
      · rw [entries, slots, owners_eq]
        exact sound.owned
      · rw [site?_congr jobs, slots, owners_eq]
        exact sound.built
      · rw [keys_eq, registered]
        exact sound.registered
      · rw [entries, slots, registered]
        exact sound.evicted
      · rw [entries, registered, listeners]
        exact { sound.heard with ended :=
          fun hl closed up he => sound.heard.ended hl closed (held up) he }
  -- from here on all that is to be seen is that the sites stay the same
  | enlist ts starting =>
      have built := sound.built
      rw [← site?_enlist starting] at built
      exact { sound with built := built }
  | stage _ hs leads =>
      have built := sound.built
      rw [← site?_setStage hs (site?_of_leads leads)] at built
      exact { sound with built := built }
  | join outcome hs =>
      have built := sound.built
      rw [← site?_setStage (t := .done outcome) hs rfl] at built
      exact { sound with built := built }
  | entries turns => exact sound.turns turns
  | standalone kind path =>
      exact
        { sound with
          honest := fun hx => by
            rcases getElem?_concat hx with hx | ⟨-, rfl⟩
            · exact sound.honest hx
            · exact Entry.honest_new kind path .standalone
          owned := sound.owned.standalone rfl
          evicted := sound.evicted.append sound.owned _
          heard := sound.heard.append (fun l mem => sound.owner_lt mem) _ }
  | claim kind _ hs isOpen free => exact sound.opened kind hs isOpen free
  | conclude _ hs => exact sound.concluded hs
  | evict keep disposals gone => exact (sound.turns disposals.turns).evict keep gone
  | hear busy hl isOpen he hr =>
      refine sound.setListener hl
        rfl (sound.heard.set hl rfl rfl (fun x hx => ?_) (fun _ x hx gone => ?_) ?_)
      · obtain rfl := Option.some.inj (hx.symm.trans he)
        exact Entry.receive?_le hr
      · obtain rfl := Option.some.inj (hx.symm.trans he)
        exact (sound.honest he).lt_of_receive? gone hr
      · intro closed
        cases isOpen.symm.trans closed
  | leave hl isOpen he hr held =>
      refine sound.setListener hl
        rfl (sound.heard.set hl rfl rfl (fun x hx => ?_) (fun h => by cases h) ?_)
      · obtain rfl := Option.some.inj (hx.symm.trans he)
        exact Entry.receive?_le hr
      · intro _ up
        cases held.symm.trans up
  | @retire i l e seen hl isOpen he hr =>
      have gone := (sound.honest he).isDisposed_of_receive? hr
      have slot_eq := sound.heard.slot_eq hl
      -- the slot leaves the registry before the listener ends
      have out : Sound { c with registered := c.registered.filter (· != l.slot) } := by
        refine sound.evict _ fun slot _ lost entry filled x hx => ?_
        obtain rfl : slot = l.slot := by simpa using lost
        obtain ⟨s, hs, filled⟩ := Option.bind_eq_some_iff.mp filled
        have own := sound.owned.filled hs filled
        rw [slot_eq, owners, List.getElem?_map, hl] at own
        obtain rfl := Option.some.inj own
        obtain rfl := Option.some.inj (hx.symm.trans he)
        exact gone
      refine out.setListener hl
        rfl (out.heard.set hl rfl rfl (fun x hx => ?_) (fun h => by cases h) ?_)
      · obtain rfl := Option.some.inj (hx.symm.trans he)
        exact Entry.receive?_le hr
      · intro _ _ x hx
        obtain rfl := Option.some.inj (hx.symm.trans he)
        refine ⟨gone, fun mem => ?_⟩
        have := (List.mem_filter.mp mem).2
        simp [slot_eq] at this

/-- Moves keep a catalogue sound. -/
theorem Moves.sound (h : Moves may c d) (sound : Sound c) : Sound d :=
  h.keep (fun _ _ sound move => move.sound sound) sound

/-- The empty catalogue. -/
theorem sound_new (config : Config) (clock : Time) : Sound (new config clock) where
  honest h := by cases h
  owned := by constructor <;> simp [new, owners]
  built := by constructor <;> simp [new, site?, stage?]
  registered := by constructor <;> simp [new]
  evicted := by constructor; simp [new]
  heard := by constructor <;> simp [new]

/-- Every event keeps what holds of a catalogue. -/
theorem Sound.step? (sound : Sound c) {event : Event} (h : c.step? event = some d)
    (go : ∀ i, event ≠ .stopChecker i) : Sound d :=
  (step?_moves h go).sound sound

/-- The answers to a job that fetches an empty stylesheet. -/
def emptyFile (job : JobId) : List Event :=
  [.answer job (.stat (.ok ⟨0, 0⟩)), .answer job (.text (.ok "")), .answer job (.parsed 0 (.ok [])),
    .answer job .built]

end Catalog

end SelectorCatalog
