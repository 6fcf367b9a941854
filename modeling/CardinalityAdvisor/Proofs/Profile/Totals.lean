import CardinalityAdvisor.Association
import CardinalityAdvisor.Profile
import Mathlib.Data.List.Nodup
import Mathlib.Data.List.Induction

/-!
# What a profiling table says after any reports

Times are reported to a profiling table one after another. An update is atomic, so the reports of
any number of threads are one sequence as well, however the threads take turns. The rows of the
table are the tally of the reports that were recorded, and the answers show when profiling stopped:
with the first report of a new class to a full table, and for good.

## Main definitions

* `Report`: a time that is reported for a query class
* `tally`: the total of each class, in the order in which the classes were first reported
* `updateAll`: the answers to reports, and the table after them
* `recorded`: the reports that were answered as recorded
* `NoRoomFor`: the table is full, and the class is new
* `Fits`: each report finds room when its turn comes
* `Accounts`: what the answers and the table say after reports to a new table

## Main results

* `rows_updateAll`: the rows are the tally of what was recorded
* `updateAll_of_noRoomFor`: profiling stops with a report that finds no room
* `accounts_updateAll`: a table of any capacity accounts for all reports
-/

namespace CardinalityAdvisor.ProfileTable

/-- A time that is reported for a query class. -/
structure Report where
  queryHash : Int
  elapsed : Float

/-! ## Tallies -/

/-- The times of a class added up from the first to the last. -/
def total (hash : Int) (reports : List Report) : Float :=
  ((reports.filter (·.queryHash == hash)).map Report.elapsed).foldl (· + ·) 0

/-- The classes of reports, in the order in which they were first reported. -/
def classes (reports : List Report) : List Int := (reports.map Report.queryHash).eraseDups

/-- The total of each class, in the order in which the classes were first reported. -/
def tally (reports : List Report) : List (Int × Float) :=
  (classes reports).map fun hash => (hash, total hash reports)

theorem mem_classes {hash : Int} {reports : List Report} :
    hash ∈ classes reports ↔ ∃ r ∈ reports, r.queryHash = hash := by
  simp [classes]

theorem classes_snoc (reports : List Report) (r : Report) :
    classes (reports ++ [r]) =
      if r.queryHash ∈ classes reports then classes reports
      else classes reports ++ [r.queryHash] := by
  split
  next old =>
    have : [r.queryHash].removeAll (reports.map Report.queryHash) = [] := by
      simpa [List.removeAll] using mem_classes.mp old
    simp [classes, List.eraseDups_append, this]
  next new =>
    have : [r.queryHash].removeAll (reports.map Report.queryHash) = [r.queryHash] := by
      simpa [List.removeAll] using fun x hx same => new (mem_classes.mpr ⟨x, hx, same⟩)
    simp [classes, List.eraseDups_append, this, List.eraseDups_cons]

theorem nodup_classes (reports : List Report) : (classes reports).Nodup := by
  induction reports using List.reverseRecOn with
  | nil => exact List.nodup_nil
  | append_singleton reports r ih =>
    rw [classes_snoc]
    split
    · exact ih
    next new => exact List.nodup_append_comm.mp (List.nodup_cons.mpr ⟨new, ih⟩)

theorem total_snoc (hash : Int) (reports : List Report) (r : Report) :
    total hash (reports ++ [r]) =
      if r.queryHash = hash then total hash reports + r.elapsed else total hash reports := by
  by_cases same : r.queryHash = hash <;> simp [total, same]

theorem total_of_not_mem {hash : Int} {reports : List Report} (new : hash ∉ classes reports) :
    total hash reports = 0 := by
  have none : reports.filter (·.queryHash == hash) = [] := by
    rw [List.filter_eq_nil_iff]
    intro r hr same
    exact new (mem_classes.mpr ⟨r, hr, eq_of_beq same⟩)
  simp [total, none]

theorem keys_tally (reports : List Report) :
    (tally reports).map Prod.fst = classes reports := by
  simp [tally, Function.comp_def]

/-! ## One report -/

/-- The rows after a time was added, where each class has a row with a time of its own. -/
theorem addTime_map (hash : Int) (elapsed : Float) (time : Int → Float) {hashes : List Int}
    (distinct : hashes.Nodup) :
    addTime hash elapsed (hashes.map fun h => (h, time h)) =
      if hash ∈ hashes then
        hashes.map fun h => (h, if hash = h then time h + elapsed else time h)
      else (hashes.map fun h => (h, time h)) ++ [(hash, 0 + elapsed)] := by
  induction hashes with
  | nil => simp [addTime]
  | cons first rest ih =>
    obtain ⟨fresh, distinct⟩ := List.nodup_cons.mp distinct
    by_cases same : first = hash
    · subst same
      have others : rest.map (fun h => (h, if first = h then time h + elapsed else time h)) =
          rest.map fun h => (h, time h) :=
        List.map_congr_left fun h hh => by rw [if_neg (ne_of_mem_of_not_mem hh fresh).symm]
      simp [addTime, others]
    · simp only [List.map_cons, addTime, if_neg same, ih distinct, List.mem_cons, Ne.symm same,
        false_or]
      split <;> simp

/-- The tally with one more report is the tally with its time added. -/
theorem addTime_tally (reports : List Report) (r : Report) :
    addTime r.queryHash r.elapsed (tally reports) = tally (reports ++ [r]) := by
  rw [tally, addTime_map _ _ (total · reports) (nodup_classes reports), tally, classes_snoc]
  simp only [total_snoc]
  split
  · rfl
  next new =>
    have others : ∀ h ∈ classes reports, r.queryHash ≠ h := fun h hh =>
      (ne_of_mem_of_not_mem hh new).symm
    rw [List.map_append, List.map_singleton, if_pos rfl, total_of_not_mem new]
    congr 1
    exact List.map_congr_left fun h hh => by rw [if_neg (others h hh)]

/-- The table is full, and the class is not in it. -/
def NoRoomFor (t : ProfileTable) (hash : Int) : Prop :=
  hash ∉ t.rows.map Prod.fst ∧ t.capacity ≤ t.rows.length

instance (t : ProfileTable) (hash : Int) : Decidable (t.NoRoomFor hash) :=
  inferInstanceAs (Decidable (_ ∧ _))

theorem lookup_isNone_iff {hash : Int} {rows : List (Int × Float)} :
    (rows.lookup hash).isNone ↔ hash ∉ rows.map Prod.fst := by
  rw [Option.isNone_iff_eq_none, lookup_eq_none_iff]

section

variable {t : ProfileTable}

/-- A table that is disabled is left alone. -/
theorem update_of_disabled (off : t.enabled = false) (hash : Int) (elapsed : Float) :
    t.update hash elapsed = (.disabled, t) := by
  simp [update, off]

/-- A new class switches a full table off. -/
theorem update_of_noRoomFor (on : t.enabled = true) {hash : Int} (full : t.NoRoomFor hash)
    (elapsed : Float) : t.update hash elapsed = (.exhausted, { t with enabled := false }) := by
  have new := lookup_isNone_iff.mpr full.1
  simp [update, on, new, full.2]

/-- A class that has a row or finds room for one is recorded. -/
theorem update_of_room (on : t.enabled = true) {hash : Int} (room : ¬ t.NoRoomFor hash)
    (elapsed : Float) :
    t.update hash elapsed = (.recorded, { t with rows := addTime hash elapsed t.rows }) := by
  have : ¬ ((t.rows.lookup hash).isNone = true ∧ t.capacity ≤ t.rows.length) := fun full =>
    room ⟨lookup_isNone_iff.mp full.1, full.2⟩
  simpa [update, on] using this

/-! ## Reports one after another -/

/-- What became of the times that were reported one after another, and the table after them. -/
def updateAll (t : ProfileTable) : List Report → List ProfileUpdate × ProfileTable
  | [] => ([], t)
  | r :: rest =>
    let (answer, t) := t.update r.queryHash r.elapsed
    let (answers, t) := t.updateAll rest
    (answer :: answers, t)

theorem updateAll_append (t : ProfileTable) (before after : List Report) :
    t.updateAll (before ++ after) =
      ((t.updateAll before).1 ++ ((t.updateAll before).2.updateAll after).1,
        ((t.updateAll before).2.updateAll after).2) := by
  induction before generalizing t with
  | nil => rfl
  | cons r before ih => simp [updateAll, ih]

theorem updateAll_snoc (t : ProfileTable) (reports : List Report) (r : Report) :
    t.updateAll (reports ++ [r]) =
      ((t.updateAll reports).1 ++ [((t.updateAll reports).2.update r.queryHash r.elapsed).1],
        ((t.updateAll reports).2.update r.queryHash r.elapsed).2) :=
  updateAll_append t reports [r]

theorem length_updateAll (t : ProfileTable) (reports : List Report) :
    (t.updateAll reports).1.length = reports.length := by
  induction reports generalizing t with
  | nil => rfl
  | cons r reports ih => simp [updateAll, ih]

/-- A table that is disabled stays as it is. -/
theorem updateAll_of_disabled (off : t.enabled = false) (reports : List Report) :
    t.updateAll reports = (reports.map fun _ => .disabled, t) := by
  induction reports with
  | nil => rfl
  | cons r reports ih => simp [updateAll, update_of_disabled off, ih]

/-- Each report finds room when its turn comes. -/
def Fits (t : ProfileTable) (reports : List Report) : Prop :=
  ∀ before r, before ++ [r] <+: reports → ¬ (t.updateAll before).2.NoRoomFor r.queryHash

theorem fits_snoc {reports : List Report} {r : Report} :
    t.Fits (reports ++ [r]) ↔
      t.Fits reports ∧ ¬ (t.updateAll reports).2.NoRoomFor r.queryHash := by
  constructor
  · intro fits
    exact ⟨fun before r first => fits before r (first.trans (List.prefix_append ..)),
      fits reports r (List.prefix_refl _)⟩
  · rintro ⟨fits, room⟩ before r' first
    rcases List.prefix_concat_iff.mp first with same | first
    · obtain ⟨rfl, rfl⟩ : before = reports ∧ r' = r := by simpa using same
      exact room
    · exact fits before r' first

/-- While all find room, all are recorded, and the table stays enabled. -/
theorem updateAll_of_fits (on : t.enabled = true) {reports : List Report} (fits : t.Fits reports) :
    (t.updateAll reports).1 = reports.map (fun _ => .recorded) ∧
      (t.updateAll reports).2.enabled = true := by
  induction reports using List.reverseRecOn with
  | nil => exact ⟨rfl, on⟩
  | append_singleton reports r ih =>
    obtain ⟨fits, room⟩ := fits_snoc.mp fits
    obtain ⟨answers, on⟩ := ih fits
    simp [updateAll_snoc, update_of_room on room, answers, on]

/-- With the first report that finds no room, profiling stops. -/
theorem updateAll_of_noRoomFor (on : t.enabled = true) {before : List Report}
    (fits : t.Fits before) {r : Report} (full : (t.updateAll before).2.NoRoomFor r.queryHash)
    (after : List Report) :
    t.updateAll (before ++ r :: after) =
      (before.map (fun _ => .recorded) ++ .exhausted :: after.map (fun _ => .disabled),
        { (t.updateAll before).2 with enabled := false }) := by
  obtain ⟨answers, on⟩ := updateAll_of_fits on fits
  have stopped := updateAll_of_disabled (t := { (t.updateAll before).2 with enabled := false }) rfl
  simp [updateAll_append, updateAll, update_of_noRoomFor on full, answers, stopped]

/-- Either all reports find room, or one is the first that does not. -/
theorem fits_or_first (t : ProfileTable) (reports : List Report) :
    t.Fits reports ∨ ∃ before r after, reports = before ++ r :: after ∧ t.Fits before ∧
      (t.updateAll before).2.NoRoomFor r.queryHash := by
  induction reports using List.reverseRecOn with
  | nil => exact .inl fun before r first => by simp at first
  | append_singleton reports r ih =>
    rcases ih with fits | ⟨before, first, after, rfl, fits, full⟩
    · by_cases full : (t.updateAll reports).2.NoRoomFor r.queryHash
      · exact .inr ⟨reports, r, [], rfl, fits, full⟩
      · exact .inl (fits_snoc.mpr ⟨fits, full⟩)
    · exact .inr ⟨before, first, after ++ [r], by simp, fits, full⟩

/-! ## The rows -/

/-- A time is added to the rows just if the answer says so. -/
theorem rows_update (t : ProfileTable) (hash : Int) (elapsed : Float) :
    (t.update hash elapsed).2.rows =
      if (t.update hash elapsed).1 = .recorded then addTime hash elapsed t.rows else t.rows := by
  rcases Bool.eq_false_or_eq_true t.enabled with on | off
  · by_cases full : t.NoRoomFor hash
    · simp [update_of_noRoomFor on full]
    · simp [update_of_room on full]
  · simp [update_of_disabled off]

end

/-- The reports that were answered as recorded. -/
def recorded (reports : List Report) (answers : List ProfileUpdate) : List Report :=
  ((reports.zip answers).filter (·.2 == .recorded)).map Prod.fst

theorem recorded_snoc {reports : List Report} {answers : List ProfileUpdate}
    (all : reports.length = answers.length) (r : Report) (answer : ProfileUpdate) :
    recorded (reports ++ [r]) (answers ++ [answer]) =
      recorded reports answers ++ if answer = .recorded then [r] else [] := by
  by_cases h : answer = .recorded <;> simp [recorded, List.zip_append all, h]

/-- The rows are the tally of what was recorded. -/
theorem rows_updateAll {t : ProfileTable} (empty : t.rows = []) (reports : List Report) :
    (t.updateAll reports).2.rows = tally (recorded reports (t.updateAll reports).1) := by
  induction reports using List.reverseRecOn with
  | nil => simpa [updateAll, recorded, tally, classes] using empty
  | append_singleton reports r ih =>
    rw [updateAll_snoc, recorded_snoc (length_updateAll t reports).symm, rows_update, ih]
    split
    · exact addTime_tally _ r
    · rw [List.append_nil]

/-- A class that has a row does not get another one. -/
theorem length_addTime (hash : Int) (elapsed : Float) (rows : List (Int × Float)) :
    (addTime hash elapsed rows).length =
      if hash ∈ rows.map Prod.fst then rows.length else rows.length + 1 := by
  induction rows with
  | nil => rfl
  | cons row rows ih =>
    by_cases same : row.1 = hash
    · simp [addTime, same]
    · simp only [addTime, if_neg same, List.length_cons, ih, List.map_cons, List.mem_cons,
        Ne.symm same, false_or]
      split <;> rfl

/-- One report leaves the table within its capacity. -/
theorem update_within {t : ProfileTable} (within : t.rows.length ≤ t.capacity) (hash : Int)
    (elapsed : Float) :
    (t.update hash elapsed).2.capacity = t.capacity ∧
      (t.update hash elapsed).2.rows.length ≤ t.capacity := by
  rcases Bool.eq_false_or_eq_true t.enabled with on | off
  · by_cases full : t.NoRoomFor hash
    · simpa [update_of_noRoomFor on full] using within
    · rw [update_of_room on full]
      refine ⟨rfl, ?_⟩
      rw [length_addTime]
      split
      · exact within
      next new => exact Nat.succ_le_of_lt (Nat.lt_of_not_le fun le => full ⟨new, le⟩)
  · simpa [update_of_disabled off] using within

/-- Any reports leave the table within its capacity. -/
theorem updateAll_within {t : ProfileTable} (within : t.rows.length ≤ t.capacity)
    (reports : List Report) : (t.updateAll reports).2.rows.length ≤ t.capacity := by
  induction reports generalizing t with
  | nil => exact within
  | cons r reports ih =>
    obtain ⟨same, within⟩ := update_within within r.queryHash r.elapsed
    exact same ▸ ih (same.symm ▸ within)

/-! ## The whole account -/

/-- What the answers and the table say after reports to a table that is new and has a capacity. -/
structure Accounts (capacity : Int) (t : ProfileTable) (reports : List Report) : Prop where
  /-- No class has two rows. -/
  distinct : ((t.updateAll reports).2.rows.map Prod.fst).Nodup
  /-- The classes stand in the order in which they were first recorded. -/
  ordered : (t.updateAll reports).2.rows.map Prod.fst =
    classes (recorded reports (t.updateAll reports).1)
  /-- There are no more rows than the capacity allows. -/
  bounded : ((t.updateAll reports).2.rows.length : Int) ≤ max capacity 0
  /-- The time of a class is the total of what was recorded for it. -/
  totals : ∀ row ∈ (t.updateAll reports).2.rows,
    row.2 = total row.1 (recorded reports (t.updateAll reports).1)
  /-- Without a capacity above zero nothing is ever recorded. -/
  off : capacity ≤ 0 → (t.updateAll reports).1 = reports.map fun _ => .disabled
  /-- Otherwise all reports are recorded until the first that finds no room, if there is one.
  Whatever is reported after that leaves the table as it is. -/
  on : 0 < capacity →
    (t.Fits reports ∧ (t.updateAll reports).1 = reports.map fun _ => .recorded) ∨
    ∃ before r after, reports = before ++ r :: after ∧ t.Fits before ∧
      (t.updateAll before).2.NoRoomFor r.queryHash ∧
      (t.updateAll reports).1 =
        before.map (fun _ => .recorded) ++ .exhausted :: after.map (fun _ => .disabled) ∧
      ∀ later, (t.updateAll (before ++ r :: later)).2 =
        { (t.updateAll before).2 with enabled := false }

/-- Whatever its capacity, a table accounts for all that is reported to it, in whichever order. -/
theorem accounts_updateAll (capacity : Int) (verbose : Bool) (reports : List Report) :
    Accounts capacity (new capacity verbose) reports := by
  have rows := rows_updateAll (t := new capacity verbose) rfl reports
  have keys := congrArg (List.map Prod.fst) rows
  rw [keys_tally] at keys
  refine ⟨?distinct, keys, ?bounded, ?totals, ?off, ?on⟩
  case distinct =>
    rw [keys]
    exact nodup_classes _
  case bounded =>
    have within := updateAll_within (t := new capacity verbose) (Nat.zero_le _) reports
    exact Int.toNat_eq_max capacity ▸ Int.ofNat_le.mpr within
  case totals =>
    intro row hrow
    rw [rows] at hrow
    obtain ⟨hash, -, rfl⟩ := List.mem_map.mp hrow
    rfl
  case off =>
    intro low
    have off : (new capacity verbose).enabled = false := decide_eq_false (Int.not_lt.mpr low)
    rw [updateAll_of_disabled off]
  case on =>
    intro high
    have on : (new capacity verbose).enabled = true := decide_eq_true high
    rcases fits_or_first (new capacity verbose) reports with
      fits | ⟨before, r, after, rfl, fits, full⟩
    · exact .inl ⟨fits, (updateAll_of_fits on fits).1⟩
    · refine .inr ⟨before, r, after, rfl, fits, full, ?_, fun later => ?_⟩
      · rw [updateAll_of_noRoomFor on fits full]
      · rw [updateAll_of_noRoomFor on fits full]

example : ((new 2 false).updateAll [⟨7, 1⟩, ⟨5, 1⟩, ⟨7, 2⟩, ⟨6, 1⟩, ⟨7, 1⟩]).1 =
    [.recorded, .recorded, .recorded, .exhausted, .disabled] := by decide +kernel

end CardinalityAdvisor.ProfileTable
