import Mathlib.Logic.Relation
import SelectorCatalog.Host.Disk

/-!
# The way along a path

A path is followed one part at a time. `Step` says what one part does: it stays in a directory, goes
up, enters what has its name there, or puts the target of a link in the place of the link. `Stuck`
says where no part can be followed. Every way ends, at a place or in front of a part that cannot be
followed, and `follow` tells which: `follow_eq_ok_iff` and `follow_eq_error_iff`.
-/

namespace SelectorCatalog.Host.Disk

open Relation (ReflTransGen)

/-- A position on the way along a path: the links that may still be followed, the place reached, and
the parts ahead. -/
structure Position where
  links : Nat
  place : Place
  ahead : List String

/-- Whether a part is a name: it leads further down. -/
def IsName (part : String) : Prop :=
  part ≠ "" ∧ part ≠ "." ∧ part ≠ ".."

instance (part : String) : Decidable (IsName part) :=
  inferInstanceAs (Decidable (_ ∧ _))

/-- One part of a path is followed. -/
inductive Step (d : Disk) : Position → Position → Prop where
  | stay {links : Nat} {place : Place} {part : String} {rest : List String}
      (dir : d.isDirectory place = true) (dot : part = "" ∨ part = ".") :
      Step d ⟨links, place, part :: rest⟩ ⟨links, place, rest⟩
  | up {links : Nat} {place : Place} {rest : List String} (dir : d.isDirectory place = true) :
      Step d ⟨links, place, ".." :: rest⟩ ⟨links, place.dropLast, rest⟩
  | enter {links : Nat} {place : Place} {part : String} {rest : List String} {item : Item}
      (dir : d.isDirectory place = true) (name : IsName part)
      (short : part.utf8ByteSize ≤ longestName) (there : d.item? (place ++ [part]) = some item)
      (noLink : ∀ target, item ≠ .link target) :
      Step d ⟨links, place, part :: rest⟩ ⟨links, place ++ [part], rest⟩
  | link {links : Nat} {place : Place} {part target : String} {rest : List String}
      (dir : d.isDirectory place = true) (name : IsName part)
      (short : part.utf8ByteSize ≤ longestName)
      (there : d.item? (place ++ [part]) = some (.link target)) :
      Step d ⟨links + 1, place, part :: rest⟩
        ⟨links, if target.toList.head? == some '/' then [] else place, segments target ++ rest⟩

/-- The next part cannot be followed. -/
inductive Stuck (d : Disk) : Position → DiskFault → Prop where
  | below {links : Nat} {place : Place} {part : String} {rest : List String}
      (noDir : d.isDirectory place = false) : Stuck d ⟨links, place, part :: rest⟩ .notDirectory
  | long {links : Nat} {place : Place} {part : String} {rest : List String}
      (dir : d.isDirectory place = true) (name : IsName part)
      (long : longestName < part.utf8ByteSize) : Stuck d ⟨links, place, part :: rest⟩ .nameTooLong
  | missing {links : Nat} {place : Place} {part : String} {rest : List String}
      (dir : d.isDirectory place = true) (name : IsName part)
      (short : part.utf8ByteSize ≤ longestName) (none : d.item? (place ++ [part]) = none) :
      Stuck d ⟨links, place, part :: rest⟩ .noEntry
  | links {place : Place} {part target : String} {rest : List String}
      (dir : d.isDirectory place = true) (name : IsName part)
      (short : part.utf8ByteSize ≤ longestName)
      (there : d.item? (place ++ [part]) = some (.link target)) :
      Stuck d ⟨0, place, part :: rest⟩ .tooManyLinks

variable {d : Disk} {p q : Position} {path : Path} {place : Place} {fault : DiskFault}

/-- Where a position leads. -/
def lead (d : Disk) (p : Position) : Except DiskFault Place :=
  d.follow p.links p.place p.ahead

/-- A step does not change where a position leads. -/
theorem lead_of_step (step : d.Step p q) : d.lead p = d.lead q := by
  cases step with
  | stay dir dot =>
      rw [lead, follow]
      rcases dot with rfl | rfl <;> simp [dir, lead]
  | up dir =>
      rw [lead, follow]
      simp [dir, lead]
  | @enter links place part rest item dir name short there noLink =>
      obtain ⟨some, here, up⟩ := name
      rw [lead, follow, there]
      cases item with
      | link target => exact absurd rfl (noLink target)
      | file | directory => simp [dir, some, here, up, Nat.not_lt.mpr short, lead]
  | link dir name short there =>
      obtain ⟨some, here, up⟩ := name
      rw [lead, follow, there]
      simp [dir, some, here, up, Nat.not_lt.mpr short, lead]

/-- A position in front of a part that cannot be followed leads nowhere. -/
theorem lead_of_stuck (stuck : d.Stuck p fault) : d.lead p = .error fault := by
  cases stuck with
  | below noDir =>
      rw [lead, follow]
      simp [noDir]
  | long dir name long =>
      obtain ⟨some, here, up⟩ := name
      rw [lead, follow]
      simp [dir, some, here, up, long]
  | missing dir name short none =>
      obtain ⟨some, here, up⟩ := name
      rw [lead, follow, none]
      simp [dir, some, here, up, Nat.not_lt.mpr short]
  | links dir name short there =>
      obtain ⟨some, here, up⟩ := name
      rw [lead, follow, there]
      simp [dir, some, here, up, Nat.not_lt.mpr short]

/-- All places on a way lead to where it leads. -/
theorem lead_of_way (way : ReflTransGen d.Step p q) : d.lead p = d.lead q := by
  induction way with
  | refl => rfl
  | tail _ step ih => rw [ih, lead_of_step step]

/-- What is no empty part, no `.` and no `..` is a name. -/
theorem isName_of_not {part : String} (dot : ¬(part == "" || part == ".") = true)
    (up : ¬(part == "..") = true) : IsName part := by
  simp only [Bool.or_eq_true, beq_iff_eq, not_or] at dot up
  exact ⟨dot.1, dot.2, up⟩

/-- Every way ends. -/
theorem exists_end (d : Disk) (links : Nat) (place : Place) (ahead : List String) :
    ∃ q, ReflTransGen d.Step ⟨links, place, ahead⟩ q ∧
      (q.ahead = [] ∨ ∃ fault, d.Stuck q fault) := by
  -- a step, and then the rest of the way
  have onward : ∀ {p q : Position}, d.Step p q →
      (∃ r, ReflTransGen d.Step q r ∧ (r.ahead = [] ∨ ∃ fault, d.Stuck r fault)) →
      ∃ r, ReflTransGen d.Step p r ∧ (r.ahead = [] ∨ ∃ fault, d.Stuck r fault) := by
    rintro p q step ⟨r, way, ends⟩
    exact ⟨r, .head step way, ends⟩
  have directory : ∀ {place : Place}, ¬(!d.isDirectory place) = true →
      d.isDirectory place = true := by
    intro place dir
    simpa using dir
  -- the induction follows the search, with a position stuck in each case that fails
  induction links, place, ahead using follow.induct d with
  | case1 => exact ⟨_, .refl, .inl rfl⟩
  | case2 links place part rest noDir =>
      rw [Bool.not_eq_true'] at noDir
      exact ⟨_, .refl, .inr ⟨_, .below noDir⟩⟩
  | case3 links place part rest dir dot ih =>
      simp only [Bool.or_eq_true, beq_iff_eq] at dot
      exact onward (.stay (directory dir) dot) ih
  | case4 links place part rest dir _ up ih =>
      obtain rfl := beq_iff_eq.mp up
      exact onward (.up (directory dir)) ih
  | case5 links place part rest dir dot up long =>
      exact ⟨_, .refl, .inr ⟨_, .long (directory dir) (isName_of_not dot up) long⟩⟩
  | case6 links place part rest dir dot up long none =>
      have short := Nat.not_lt.mp long
      exact ⟨_, .refl, .inr ⟨_, .missing (directory dir) (isName_of_not dot up) short none⟩⟩
  | case7 place part rest dir dot up long target there =>
      have short := Nat.not_lt.mp long
      exact ⟨_, .refl, .inr ⟨_, .links (directory dir) (isName_of_not dot up) short there⟩⟩
  -- a link costs one of the links left, which the recursion counts down
  | case8 place part rest dir dot up long target there links ih =>
      simp only [dite_eq_ite] at ih
      have short := Nat.not_lt.mp long
      exact onward (.link (directory dir) (isName_of_not dot up) short there) ih
  | case9 links place part rest dir dot up long item noLink there ih =>
      have short := Nat.not_lt.mp long
      exact onward (.enter (directory dir) (isName_of_not dot up) short there noLink) ih

/-- A path is followed to a place when the way along it ends there. -/
theorem lead_eq_ok_iff :
    d.lead p = .ok place ↔ ∃ links, ReflTransGen d.Step p ⟨links, place, []⟩ := by
  constructor
  · intro leads
    obtain ⟨⟨links, reached, ahead⟩, way, ends⟩ := exists_end d p.links p.place p.ahead
    rw [lead_of_way way] at leads
    rcases ends with arrived | ⟨fault, stuck⟩
    · obtain rfl : ahead = [] := arrived
      rw [lead, follow] at leads
      obtain rfl := Except.ok.inj leads
      exact ⟨links, way⟩
    · cases leads.symm.trans (lead_of_stuck stuck)
  · rintro ⟨links, way⟩
    rw [lead_of_way way, lead, follow]

/-- A path cannot be followed when the way along it ends in front of a part. -/
theorem lead_eq_error_iff :
    d.lead p = .error fault ↔ ∃ q, ReflTransGen d.Step p q ∧ d.Stuck q fault := by
  constructor
  · intro fails
    obtain ⟨⟨links, reached, ahead⟩, way, ends⟩ := exists_end d p.links p.place p.ahead
    rw [lead_of_way way] at fails
    rcases ends with arrived | ⟨other, stuck⟩
    · obtain rfl : ahead = [] := arrived
      rw [lead, follow] at fails
      cases fails
    · obtain rfl := Except.error.inj ((lead_of_stuck stuck).symm.trans fails)
      exact ⟨_, way, stuck⟩
  · rintro ⟨q, way, stuck⟩
    rw [lead_of_way way, lead_of_stuck stuck]

/-- Names of directories are entered one after the other. -/
theorem way_of_directories {front rest : List String} {links : Nat}
    (names : ∀ part ∈ front, IsName part ∧ part.utf8ByteSize ≤ longestName)
    (dirs : ∀ upTo, upTo <+: front → d.isDirectory (place ++ upTo) = true) :
    ReflTransGen d.Step ⟨links, place, front ++ rest⟩ ⟨links, place ++ front, rest⟩ := by
  induction front generalizing place with
  | nil =>
      rw [List.append_nil]
      exact .refl
  | cons part front ih =>
      obtain ⟨name, short⟩ := names part List.mem_cons_self
      have dir : d.isDirectory place = true := by
        simpa using dirs [] List.nil_prefix
      have there : d.item? (place ++ [part]) = some .directory :=
        beq_iff_eq.mp (dirs [part] ⟨front, rfl⟩)
      have first : d.Step ⟨links, place, part :: front ++ rest⟩
          ⟨links, place ++ [part], front ++ rest⟩ := .enter dir name short there nofun
      refine .head first ?_
      rw [List.append_cons place part front]
      refine ih (fun n mem => names n (List.mem_cons_of_mem _ mem)) ?_
      intro upTo before
      rw [← List.append_cons]
      exact dirs _ (List.cons_prefix_cons.mpr ⟨rfl, before⟩)

/-! ## Paths -/

/-- Where the way along a path starts. -/
def outset (path : Path) : Position :=
  ⟨mostLinks, [], segments path.text⟩

/-- A path from the root goes through the directories that it names first. -/
theorem way_from_root {front rest : List String}
    (parts : segments path.text = "" :: (front ++ rest))
    (names : ∀ part ∈ front, IsName part ∧ part.utf8ByteSize ≤ longestName)
    (dirs : ∀ upTo, upTo <+: front → d.isDirectory upTo = true) :
    ReflTransGen d.Step (outset path) ⟨mostLinks, front, rest⟩ := by
  have start : d.Step (outset path) ⟨mostLinks, [], front ++ rest⟩ := by
    rw [outset, parts]
    exact .stay rfl (.inl rfl)
  have onward : ReflTransGen d.Step ⟨mostLinks, [], front ++ rest⟩ ⟨mostLinks, [] ++ front, rest⟩ :=
    way_of_directories names dirs
  exact .head start onward

/-- A path leads to a place. -/
def Leads (d : Disk) (path : Path) (place : Place) : Prop :=
  checkText path.text = .ok () ∧ ∃ links, ReflTransGen d.Step (outset path) ⟨links, place, []⟩

/-- A path cannot be followed: its text is refused, or the way along it ends in front of a part. -/
def Stops (d : Disk) (path : Path) (fault : DiskFault) : Prop :=
  checkText path.text = .error fault ∨
    checkText path.text = .ok () ∧ ∃ q, ReflTransGen d.Step (outset path) q ∧ d.Stuck q fault

/-- A path is located where it leads. -/
theorem locate_eq_ok_iff : d.locate path = .ok place ↔ d.Leads path place := by
  cases text : checkText path.text with
  | error fault => simp [locate, Leads, text, bind, Except.bind]
  | ok =>
      have leads : d.lead (outset path) = .ok place ↔ _ := lead_eq_ok_iff
      rw [lead, outset] at leads
      simpa [locate, Leads, outset, text, bind, Except.bind] using leads

/-- A path fails to be located where it stops. -/
theorem locate_eq_error_iff : d.locate path = .error fault ↔ d.Stops path fault := by
  cases text : checkText path.text with
  | error fault => simp [locate, Stops, text, bind, Except.bind]
  | ok =>
      have stops : d.lead (outset path) = .error fault ↔ _ := lead_eq_error_iff
      rw [lead, outset] at stops
      simpa [locate, Stops, outset, text, bind, Except.bind] using stops

end SelectorCatalog.Host.Disk
