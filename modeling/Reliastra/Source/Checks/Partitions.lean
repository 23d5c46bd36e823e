import Reliastra.Library.Calendar
import Reliastra.Source.Api.Schema

/-!
# Monthly partitions

`app/modules/checks/partition_manager.py`. Every `datetime` there is in UTC, as
`datetime.now(timezone.utc)` is. The two tables have the same functions under two
names; they are one definition here, applied to the name of the table.
-/

namespace Reliastra.Source.Checks

open Reliastra.Library Calendar

/-! ## `datetime` -/

/-- What the constructor checks before it raises `ValueError`. -/
def ValidFields (year month day hour minute second microsecond : Nat) : Prop :=
  (1 ≤ year ∧ year ≤ 9999) ∧ (1 ≤ month ∧ month ≤ 12) ∧
    (1 ≤ day ∧ (day : Int) ≤ daysInMonth year month) ∧
    hour < 24 ∧ minute < 60 ∧ second < 60 ∧ microsecond < 1000000

instance (year month day hour minute second microsecond : Nat) :
    Decidable (ValidFields year month day hour minute second microsecond) :=
  inferInstanceAs (Decidable (_ ∧ _))

@[ext] structure DateTime where
  year : Nat
  month : Nat
  day : Nat
  hour : Nat
  minute : Nat
  second : Nat
  microsecond : Nat
  valid : ValidFields year month day hour minute second microsecond
  deriving DecidableEq

/-- The constructor, and `replace` with all fields written out. -/
def datetime (year month day hour minute second microsecond : Nat) : Except Failure DateTime :=
  if valid : ValidFields year month day hour minute second microsecond then
    .ok ⟨year, month, day, hour, minute, second, microsecond, valid⟩
  else .error (.python "ValueError")

/-- The first of January 1970 is day 719163. -/
def instantOfDay (day : Int) : Instant := daysToMicros (day - 719163)

def DateTime.toInstant (moment : DateTime) : Instant :=
  instantOfDay (dayNumber moment.year moment.month moment.day) +
    secondsToMicros (moment.hour * 3600 + moment.minute * 60 + moment.second) + moment.microsecond

def DateTime.monthNumber (moment : DateTime) : Nat := 12 * moment.year + moment.month - 1

def DateTime.isoformat (moment : DateTime) : String :=
  zeroPadded 4 moment.year ++ "-" ++ zeroPadded 2 moment.month ++ "-" ++
    zeroPadded 2 moment.day ++ "T" ++ zeroPadded 2 moment.hour ++ ":" ++
    zeroPadded 2 moment.minute ++ ":" ++ zeroPadded 2 moment.second ++
    (if moment.microsecond = 0 then "" else "." ++ zeroPadded 6 moment.microsecond) ++ "+00:00"

/-! ## Planning -/

/-- `_month_bounds`. -/
def monthBounds (month : DateTime) : Except Failure (DateTime × DateTime) := do
  let start ← datetime month.year month.month 1 0 0 0 0
  let stop ←
    if start.month = 12 then datetime (start.year + 1) 1 start.day 0 0 0 0
    else datetime start.year (start.month + 1) start.day 0 0 0 0
  .ok (start, stop)

/-- The loop of `months_ahead`. -/
def monthsFrom (year month : Nat) : Nat → Except Failure (List DateTime)
  | 0 => .ok []
  | count + 1 => do
    let first ← datetime year month 1 0 0 0 0
    let rest ←
      if month + 1 > 12 then monthsFrom (year + 1) 1 count else monthsFrom year (month + 1) count
    .ok (first :: rest)

def monthsAhead (now : DateTime) (count : Nat) : Except Failure (List DateTime) :=
  monthsFrom now.year now.month count

structure Partition where
  name : String
  parent : String
  lower : DateTime
  upper : DateTime
  deriving DecidableEq

/-- The statement of `create_partition_ddl`. -/
def Partition.ddl (partition : Partition) : String :=
  "CREATE TABLE IF NOT EXISTS " ++ partition.name ++ " PARTITION OF " ++ partition.parent ++
    " FOR VALUES FROM ('" ++ partition.lower.isoformat ++ "') TO ('" ++
    partition.upper.isoformat ++ "')"

section Tables
variable (yearDigits : Nat) (parent : String)

/-- `partition_name_for`. Whether `%Y` is padded to four digits depends on the C
library: `yearDigits` is 4 where it is, 1 where it is not. -/
def partitionName (year month : Nat) : String :=
  parent ++ "_" ++ zeroPadded yearDigits year ++ "_" ++ zeroPadded 2 month

def plannedPartition (month : DateTime) : Except Failure Partition := do
  let (start, stop) ← monthBounds month
  .ok ⟨partitionName yearDigits parent month.year month.month, parent, start, stop⟩

def createPartitionDdl (month : DateTime) : Except Failure String := do
  let partition ← plannedPartition yearDigits parent month
  .ok partition.ddl

def plannedPartitions (now : DateTime) (count : Nat) : Except Failure (List Partition) := do
  let months ← monthsAhead now count
  months.mapM (plannedPartition yearDigits parent)

/-- The loop of `ensure_partitions`: a statement that fails ends it, and the session
is not committed. -/
def ensureMonthly (execute : String → Except Failure Unit) (now : DateTime) (count : Nat) :
    Except Failure (List String) := do
  let months ← monthsAhead now count
  months.mapM (fun month => do
    let partition ← plannedPartition yearDigits parent month
    execute partition.ddl
    .ok partition.name)

end Tables

def parentTable : String := "check_results"

def observationsParentTable : String := "observations"

def ensurePartitions (yearDigits : Nat) := ensureMonthly yearDigits parentTable

def ensureObservationPartitions (yearDigits : Nat) := ensureMonthly yearDigits observationsParentTable

/-! ## What the helpers return -/

/-- The first instant of a month, as a `datetime`. -/
structure IsFirstOf (number : Nat) (moment : DateTime) : Prop where
  month : moment.monthNumber = number
  day : moment.day = 1
  hour : moment.hour = 0
  minute : moment.minute = 0
  second : moment.second = 0
  microsecond : moment.microsecond = 0

/-- The first instant of a month. -/
def monthStart (number : Nat) : Instant := instantOfDay (firstDay number)

theorem monthStart_strictMono : StrictMono monthStart := by
  intro number other before
  have days : firstDay number < firstDay other := firstDay_strictMono before
  change (firstDay number - 719163) * 86400 * 1000000 < (firstDay other - 719163) * 86400 * 1000000
  omega

theorem DateTime.year_month_eq {first second : DateTime}
    (same : first.monthNumber = second.monthNumber) :
    first.year = second.year ∧ first.month = second.month := by
  obtain ⟨_, ⟨low, high⟩, _⟩ := first.valid
  obtain ⟨_, ⟨low', high'⟩, _⟩ := second.valid
  unfold DateTime.monthNumber at same
  omega

theorem IsFirstOf.unique {number : Nat} {first second : DateTime} (h : IsFirstOf number first)
    (h' : IsFirstOf number second) : first = second := by
  obtain ⟨sameYear, sameMonth⟩ := DateTime.year_month_eq (h.month.trans h'.month.symm)
  exact DateTime.ext sameYear sameMonth (h.day.trans h'.day.symm) (h.hour.trans h'.hour.symm)
    (h.minute.trans h'.minute.symm) (h.second.trans h'.second.symm)
    (h.microsecond.trans h'.microsecond.symm)

theorem IsFirstOf.toInstant {number : Nat} {moment : DateTime} (h : IsFirstOf number moment) :
    moment.toInstant = monthStart number := by
  obtain ⟨_, ⟨low, high⟩, _⟩ := moment.valid
  have day := firstDay_of_month moment.year low high
  rw [show 12 * moment.year + moment.month - 1 = number from h.month] at day
  rw [DateTime.toInstant, monthStart, day, h.day, h.hour, h.minute, h.second, h.microsecond]
  simp [secondsToMicros]

theorem datetime_first (year month : Nat) (inYears : 1 ≤ year ∧ year ≤ 9999)
    (inYear : 1 ≤ month ∧ month ≤ 12) :
    ∃ moment, datetime year month 1 0 0 0 0 = .ok moment ∧
      IsFirstOf (12 * year + month - 1) moment := by
  have days := daysInMonth_pos year month
  have valid : ValidFields year month 1 0 0 0 0 :=
    ⟨inYears, inYear, ⟨by omega, by omega⟩, by omega, by omega, by omega, by omega⟩
  exact ⟨_, dif_pos valid, rfl, rfl, rfl, rfl, rfl, rfl⟩

/-- The bounds of a month are its first instant and that of the next, as long as the
next is not after the year 9999. -/
theorem monthBounds_ok {month : DateTime} (inYears : (month.monthNumber + 1) / 12 ≤ 9999) :
    ∃ start stop, monthBounds month = .ok (start, stop) ∧
      IsFirstOf month.monthNumber start ∧ IsFirstOf (month.monthNumber + 1) stop := by
  obtain ⟨⟨positive, inRange⟩, ⟨low, high⟩, _⟩ := month.valid
  obtain ⟨start, made, isFirst⟩ := datetime_first month.year month.month ⟨positive, inRange⟩ ⟨low, high⟩
  obtain ⟨sameYear, sameMonth⟩ := DateTime.year_month_eq isFirst.month
  simp only [DateTime.monthNumber] at inYears ⊢
  unfold monthBounds
  rw [made]
  by_cases last : start.month = 12
  · obtain ⟨stop, carried, isNext⟩ :=
      datetime_first (start.year + 1) 1 ⟨by omega, by omega⟩ (by omega)
    refine ⟨start, stop, ?_, isFirst, ?_⟩
    · simp only [bind, Except.bind, last, isFirst.day, if_true, carried]
    · rwa [show 12 * (start.year + 1) + 1 - 1 = 12 * month.year + month.month - 1 + 1 by omega]
        at isNext
  · obtain ⟨stop, following, isNext⟩ :=
      datetime_first start.year (start.month + 1) ⟨by omega, by omega⟩
        (by omega)
    refine ⟨start, stop, ?_, isFirst, ?_⟩
    · simp only [bind, Except.bind, if_neg last, isFirst.day, following]
    · rwa [show 12 * start.year + (start.month + 1) - 1 = 12 * month.year + month.month - 1 + 1 by
        omega] at isNext

end Reliastra.Source.Checks
