import SelectorCatalog.Proofs.Catalog.Check
import SelectorCatalog.Proofs.Host.Walk

/-!
# Stylesheets that are gone from the disk

A path that names no file any more is either missing (`Misses`) or cannot be followed for another
reason: a part of it is below what is no directory, a name or the whole path is too long, or there
are too many links. Only what is missing is reported as not found, and only then does a check take
the entry along. Otherwise the check fails, however often it is repeated, and the entry stays.

* `stops_at_missing` and `stops_below_file`: what becomes of a path when something above it is
  removed, or replaced by a file.
* `gone_is_recognised_iff_missing`: what is reported of a path that names no file, and what a check
  makes of it.
-/

namespace SelectorCatalog

namespace Host.Disk

variable {d : Disk} {path : Path} {fault : DiskFault}

/-- A path names a file. -/
def NamesFile (d : Disk) (path : Path) : Prop :=
  ∃ place bytes modified, d.Leads path place ∧ d.item? place = some (.file bytes modified)

/-- A path misses its file: a part of it is missing, or it leads to something else. -/
def Misses (d : Disk) (path : Path) : Prop :=
  d.Stops path .noEntry ∨
    ∃ place, d.Leads path place ∧ ∀ bytes modified, d.item? place ≠ some (.file bytes modified)

/-- What names no file misses it, or cannot be followed for another reason. -/
theorem misses_or_stops (gone : ¬d.NamesFile path) :
    d.Misses path ∨ ∃ fault, fault ≠ .noEntry ∧ d.Stops path fault := by
  cases located : d.locate path with
  | error fault =>
      have stops := locate_eq_error_iff.mp located
      by_cases missing : fault = .noEntry
      · subst missing
        exact .inl (.inl stops)
      · exact .inr ⟨fault, missing, stops⟩
  | ok place =>
      have leads := locate_eq_ok_iff.mp located
      refine .inl (.inr ⟨place, leads, ?_⟩)
      intro bytes modified there
      exact gone ⟨place, bytes, modified, leads, there⟩

/-- What cannot be followed for another reason does not miss its file. -/
theorem not_misses_of_stops (stops : d.Stops path fault) (other : fault ≠ .noEntry) :
    ¬d.Misses path := by
  have located := locate_eq_error_iff.mpr stops
  rintro (missing | ⟨place, leads, -⟩)
  · cases located.symm.trans (locate_eq_error_iff.mpr missing)
    exact other rfl
  · cases located.symm.trans (locate_eq_ok_iff.mpr leads)

theorem not_namesFile_of_stops (stops : d.Stops path fault) : ¬d.NamesFile path := by
  rintro ⟨place, -, -, leads, -⟩
  cases (locate_eq_error_iff.mpr stops).symm.trans (locate_eq_ok_iff.mpr leads)

/-- What misses its file is not found. -/
theorem notFound_of_misses (misses : d.Misses path) :
    d.stat path = .error (.notFound path) ∧ d.resolve path = .error (.notFound path) := by
  rcases misses with missing | ⟨place, leads, noFile⟩
  · rw [stat, resolve, locate_eq_error_iff.mpr missing]
    exact ⟨rfl, rfl⟩
  · rw [stat, resolve, locate_eq_ok_iff.mpr leads]
    dsimp only
    cases there : d.item? place with
    | none => exact ⟨rfl, rfl⟩
    | some item =>
        cases item with
        | file bytes modified => exact absurd there (noFile bytes modified)
        | directory | link => exact ⟨rfl, rfl⟩

/-- What cannot be followed for another reason counts as unreadable. -/
theorem failed_of_stops (stops : d.Stops path fault) (other : fault ≠ .noEntry) :
    d.stat path = .error (.readFailed path fault.reason) ∧
      d.resolve path = .error (.resolveFailed path fault.reason) := by
  have differs : (fault == .noEntry) = false := beq_eq_false_iff_ne.mpr other
  rw [stat, resolve, locate_eq_error_iff.mpr stops]
  simp [DiskFault.fault, Error.ofFault, differs]

section Above

variable {front back : List String} {name : String}

/-- When a name above or at the end of a path is missing, the path cannot be followed there. -/
theorem stops_at_missing (text : checkText path.text = .ok ())
    (parts : segments path.text = "" :: (front ++ name :: back))
    (names : ∀ part ∈ front, IsName part ∧ part.utf8ByteSize ≤ longestName)
    (dirs : ∀ upTo, upTo <+: front → d.isDirectory upTo = true) (last : IsName name)
    (short : name.utf8ByteSize ≤ longestName) (none : d.item? (front ++ [name]) = none) :
    d.Stops path .noEntry := by
  have dir := dirs front (List.prefix_refl _)
  exact .inr ⟨text, _, way_from_root parts names dirs, .missing dir last short none⟩

/-- When a name above a path is that of a file, the path cannot be followed below it. -/
theorem stops_below_file (text : checkText path.text = .ok ())
    (parts : segments path.text = "" :: (front ++ name :: back)) (above : back ≠ [])
    (names : ∀ part ∈ front, IsName part ∧ part.utf8ByteSize ≤ longestName)
    (dirs : ∀ upTo, upTo <+: front → d.isDirectory upTo = true) (last : IsName name)
    (short : name.utf8ByteSize ≤ longestName) {bytes : List UInt8} {modified : Time}
    (file : d.item? (front ++ [name]) = some (.file bytes modified)) :
    d.Stops path .notDirectory := by
  have enter : d.Step ⟨mostLinks, front, name :: back⟩ ⟨mostLinks, front ++ [name], back⟩ :=
    .enter (dirs front (List.prefix_refl _)) last short file nofun
  have noDir : d.isDirectory (front ++ [name]) = false := by
    rw [isDirectory, file]
    rfl
  obtain ⟨below, rest, rfl⟩ := List.exists_cons_of_ne_nil above
  exact .inr ⟨text, _, .tail (way_from_root parts names dirs) enter, .below noDir⟩

end Above

end Host.Disk

namespace Catalog

open Host (Disk)
open Job (Outcome)

variable {c d : Catalog} {id : EntryId} {e : Entry}

/-- A check that is over, apart from any other job. -/
def checkOver (outcome : Outcome) : Job :=
  { stage := .done outcome, ofCatalog := false }

/-- An entry is checked a number of times, always with the same answer about its file; the first
check is the job of that number. -/
def repeatedChecks (id : EntryId) (result : Except Error FileStat) (first : JobId) :
    Nat → List Event
  | 0 => []
  | n + 1 => .call (.check id) :: .answer first (.stat result) ::
      repeatedChecks id result (first + 1) n

/-- The end of a check that has asked for the age of a file. -/
theorem asking_done (c : Catalog) (id : EntryId) (outcome : Outcome) :
    (c.asking id).setStage c.jobs.length (.done outcome) =
      { c with jobs := c.jobs ++ [checkOver outcome] } := by
  simp [asking, addJob, setStage, checkOver, List.modify_eq_take_drop]

/-- A check of a stylesheet that is not found disposes of the entry, and reports it. -/
theorem run_check_notFound (he : c.entries[id]? = some e) (live : e.isDisposed = false)
    (path : Path) :
    Run c (repeatedChecks id (.error (.notFound path)) c.jobs.length 1)
      { c with
        entries := c.entries.modify id Entry.dispose
        jobs := c.jobs ++ [checkOver (.checked (.ok false))]
        notices := c.notices ++ [.stylesheetGone e.path] } := by
  -- the answer disposes of the entry, reports it and ends the check, in one step
  have answered : (c.asking id).step? (.answer c.jobs.length (.stat (.error (.notFound path)))) =
      some { c with
        entries := c.entries.modify id Entry.dispose
        jobs := c.jobs ++ [checkOver (.checked (.ok false))]
        notices := c.notices ++ [.stylesheetGone e.path] } := by
    have path_eq : (c.asking id).pathOf id = e.path := by
      show ((c.entries[id]?).map Entry.path).getD _ = _
      rw [he]
      rfl
    let told := ((c.asking id).notify [Notice.stylesheetGone e.path]).disposeEntry id
    -- nobody waits for the check, so nothing follows its end
    have apart : told.IsApart c.jobs.length := isApart_asking c id
    have ended := congrArg Catalog.jobs (asking_done c id (.checked (.ok false)))
    rw [step?_asking, afterStat, Error.isNotFound, if_pos rfl, path_eq]
    show some (told.complete c.jobs.length _) = _
    rw [complete_alone apart]
    refine congrArg some ?_
    show ({ c with
      entries := c.entries.modify id Entry.dispose
      jobs := ((c.asking id).setStage c.jobs.length (.done (.checked (.ok false)))).jobs
      notices := c.notices ++ [.stylesheetGone e.path] } : Catalog) = _
    rw [ended]
  exact .cons (step?_check he live) (.cons answered (.nil _))

/-- Checks of a stylesheet whose age cannot be read fail and leave everything as it is, however
often they are repeated. -/
theorem run_failed_checks {error : Error} (found : error.isNotFound = false) (n : Nat)
    (he : c.entries[id]? = some e) (live : e.isDisposed = false) :
    Run c (repeatedChecks id (.error error) c.jobs.length n)
      { c with jobs := c.jobs ++ List.replicate n (checkOver (.checked (.error error))) } := by
  induction n generalizing c with
  | zero =>
      rw [List.replicate_zero, List.append_nil]
      exact .nil c
  | succ n ih =>
      let next : Catalog := { c with jobs := c.jobs ++ [checkOver (.checked (.error error))] }
      have answered : (c.asking id).step? (.answer c.jobs.length (.stat (.error error))) =
          some next := by
        rw [step?_asking, afterStat, found, if_neg Bool.false_ne_true,
          complete_alone (isApart_asking c id), asking_done]
      have rest := ih (c := next) he
      have counted : next.jobs.length = c.jobs.length + 1 := List.length_append
      have listed : next.jobs ++ List.replicate n (checkOver (.checked (.error error))) =
          c.jobs ++ List.replicate (n + 1) (checkOver (.checked (.error error))) := by
        rw [List.append_assoc, List.singleton_append, List.replicate_succ]
      rw [counted, listed] at rest
      exact .cons (step?_check he live) (.cons answered rest)

/-- A stylesheet that is gone from the disk is recognised when its path misses it: then it is not
found, and the next check disposes of its entry. When its path cannot be followed for another
reason, a part of it being below a file above all, it counts as unreadable: every check fails and
the entry stays. -/
theorem gone_is_recognised_iff_missing {disk : Disk} {path : Path} (gone : ¬disk.NamesFile path) :
    (disk.Misses path →
      disk.stat path = .error (.notFound path) ∧ disk.resolve path = .error (.notFound path) ∧
      ∀ (c : Catalog) (id : EntryId) (e : Entry), c.entries[id]? = some e → e.path = path →
        e.isDisposed = false →
          Run c (repeatedChecks id (disk.stat path) c.jobs.length 1)
            { c with
              entries := c.entries.modify id Entry.dispose
              jobs := c.jobs ++ [checkOver (.checked (.ok false))]
              notices := c.notices ++ [.stylesheetGone path] }) ∧
    (¬disk.Misses path → ∃ fault, fault ≠ .noEntry ∧ disk.Stops path fault ∧
      disk.stat path = .error (.readFailed path fault.reason) ∧
      disk.resolve path = .error (.resolveFailed path fault.reason) ∧
      ∀ (c : Catalog) (id : EntryId) (e : Entry) (n : Nat), c.entries[id]? = some e →
        e.path = path → e.isDisposed = false →
          Run c (repeatedChecks id (disk.stat path) c.jobs.length n)
            { c with
              jobs := c.jobs ++
                List.replicate n
                  (checkOver (.checked (.error (.readFailed path fault.reason)))) }) := by
  constructor
  · intro misses
    obtain ⟨stat, resolve⟩ := Disk.notFound_of_misses misses
    refine ⟨stat, resolve, ?_⟩
    intro c id e he named live
    have checked := run_check_notFound he live path
    rwa [named, ← stat] at checked
  -- the fault is another one, so each check only fails again
  · intro misses
    obtain ⟨fault, other, stops⟩ := (Disk.misses_or_stops gone).resolve_left misses
    obtain ⟨stat, resolve⟩ := Disk.failed_of_stops stops other
    refine ⟨fault, other, stops, stat, resolve, ?_⟩
    intro c id e n he named live
    rw [stat]
    exact run_failed_checks rfl n he live

/-- A disk with one file, named `f`. -/
def fileAtTop : Disk :=
  ⟨[(["f"], .file [] 0)]⟩

theorem fileAtTop_directories : ∀ upTo, upTo <+: [] → fileAtTop.isDirectory upTo = true := by
  intro upTo before
  rw [List.prefix_nil.mp before]
  rfl

/-- There is no directory `d`. -/
theorem fileAtTop_stops_at_missing : fileAtTop.Stops ⟨"/d/a.css"⟩ .noEntry := by
  have parts : Disk.segments "/d/a.css" = "" :: ([] ++ "d" :: ["a.css"]) := by decide
  exact Disk.stops_at_missing (by decide) parts nofun fileAtTop_directories (by decide) (by decide)
    (by decide)

/-- Below the file there is nothing. -/
theorem fileAtTop_stops_below_file : fileAtTop.Stops ⟨"/f/a.css"⟩ .notDirectory := by
  have parts : Disk.segments "/f/a.css" = "" :: ([] ++ "f" :: ["a.css"]) := by decide
  have file : fileAtTop.item? ([] ++ ["f"]) = some (.file [] 0) := by decide
  exact Disk.stops_below_file (by decide) parts nofun nofun fileAtTop_directories (by decide)
    (by decide) file

/-- A catalogue with one stylesheet, apart from the registry. -/
def oneSheet (path : Path) : Catalog :=
  ((new {} 0).addStandalone .css path).1

/-- A stylesheet whose directory is missing is disposed of by one check, and one whose directory is
a file stays after three. -/
theorem fileAtTop_recognises_missing :
    ¬fileAtTop.NamesFile ⟨"/d/a.css"⟩ ∧ ¬fileAtTop.NamesFile ⟨"/f/a.css"⟩ ∧
    (∃ c, Run (oneSheet ⟨"/d/a.css"⟩) (repeatedChecks 0 (fileAtTop.stat ⟨"/d/a.css"⟩) 0 1) c ∧
      (c.entries[0]?).any Entry.isDisposed = true) ∧
    ∃ c, Run (oneSheet ⟨"/f/a.css"⟩) (repeatedChecks 0 (fileAtTop.stat ⟨"/f/a.css"⟩) 0 3) c ∧
      (c.entries[0]?).any Entry.isDisposed = false := by
  have missing := fileAtTop_stops_at_missing
  have below := fileAtTop_stops_below_file
  have gone := Disk.not_namesFile_of_stops missing
  have gone' := Disk.not_namesFile_of_stops below
  have other : ¬fileAtTop.Misses ⟨"/f/a.css"⟩ := Disk.not_misses_of_stops below (by decide)
  obtain ⟨-, -, disposed⟩ := (gone_is_recognised_iff_missing gone).1 (.inl missing)
  obtain ⟨fault, -, -, -, -, stays⟩ := (gone_is_recognised_iff_missing gone').2 other
  refine ⟨gone, gone', ⟨_, disposed (oneSheet ⟨"/d/a.css"⟩) 0 _ rfl rfl rfl, ?_⟩,
    _, stays (oneSheet ⟨"/f/a.css"⟩) 0 _ 3 rfl rfl rfl, ?_⟩
  · rfl
  · rfl

/-- What is below a file names no file, and is not reported as not found. -/
theorem below_file_is_not_recognised :
    ¬∀ (disk : Disk) (path : Path), ¬disk.NamesFile path →
      disk.stat path = .error (.notFound path) ∧
        disk.resolve path = .error (.notFound path) := by
  intro law
  have stops := fileAtTop_stops_below_file
  have found := (law fileAtTop ⟨"/f/a.css"⟩ (Disk.not_namesFile_of_stops stops)).1
  have failed := (Disk.failed_of_stops stops (by decide)).1
  cases found.symm.trans failed

end Catalog

end SelectorCatalog
