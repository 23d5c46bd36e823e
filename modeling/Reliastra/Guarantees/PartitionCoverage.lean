import Mathlib.Data.List.Forall2
import Mathlib.Data.List.Nodup
import Reliastra.Source.Checks.Partitions

/-!
# Monthly partitions cover time

The partitions planned at some time follow the numbers of the months: the first is
that of the current month, each begins where the one before it ends, and every
instant up to the end of the last lies in exactly one. A `datetime` ends with the
year 9999, so a plan that goes further is refused with an exception.
-/

namespace Reliastra.Guarantees

open Reliastra.Library Calendar Reliastra.Source Api Checks

/-! ## Names -/

section Names

theorem zeroPadded_toList (width value : Nat) :
    (zeroPadded width value).toList =
      List.replicate (width - (Nat.repr value).length) '0' ++ Nat.toDigits 10 value := by
  unfold zeroPadded
  simp [toString, Int.repr]

/-- Padding with zeros does not change the number read. -/
theorem zeroPadded_injective (width : Nat) {first second : Nat}
    (same : zeroPadded width first = zeroPadded width second) : first = second := by
  have digits := congrArg (fun text : String => Nat.ofDigitChars 10 text.toList 0) same
  simpa only [zeroPadded_toList, Nat.ofDigitChars_append, Nat.ofDigitChars_replicate_zero,
    Nat.mul_zero, Nat.ofDigitChars_ten_toDigits] using digits

theorem zeroPadded_month_length {month : Nat} (inYear : month ≤ 12) :
    (zeroPadded 2 month).toList.length = 2 := by
  interval_cases month <;> decide

/-- The name determines the month. -/
theorem partitionName_injective {yearDigits : Nat} {parent : String} {year month year' month' : Nat}
    (inYear : month ≤ 12) (inYear' : month' ≤ 12)
    (same : partitionName yearDigits parent year month =
      partitionName yearDigits parent year' month') : year = year' ∧ month = month' := by
  have lists := congrArg String.toList same
  simp only [partitionName, String.toList_append] at lists
  have parts := List.append_inj' lists
    ((zeroPadded_month_length inYear).trans (zeroPadded_month_length inYear').symm)
  have years := List.append_inj_left' parts.1 rfl
  have texts := List.append_cancel_left years
  exact ⟨zeroPadded_injective _ (String.toList_inj.mp texts),
    zeroPadded_injective _ (String.toList_inj.mp parts.2)⟩

end Names

/-! ## The planned partitions, month by month -/

/-- The partition of one month. -/
structure IsPartitionOf (yearDigits : Nat) (parent : String) (number : Nat)
    (partition : Partition) : Prop where
  name : partition.name = partitionName yearDigits parent (number / 12) (number % 12 + 1)
  parent : partition.parent = parent
  lower : IsFirstOf number partition.lower
  upper : IsFirstOf (number + 1) partition.upper

section Planning

variable {yearDigits : Nat} {parent : String} {number : Nat}

theorem IsPartitionOf.unique {first second : Partition}
    (h : IsPartitionOf yearDigits parent number first)
    (h' : IsPartitionOf yearDigits parent number second) : first = second := by
  obtain ⟨name, from', lower, upper⟩ := first
  obtain ⟨name', from'', lower', upper'⟩ := second
  have lowers : lower = lower' := h.lower.unique h'.lower
  have uppers : upper = upper' := h.upper.unique h'.upper
  have names : name = name' := h.name.trans h'.name.symm
  have parents : from' = from'' := h.parent.trans h'.parent.symm
  rw [lowers, uppers, names, parents]

theorem monthsFrom_ok (count : Nat) {year month : Nat} (positive : 1 ≤ year)
    (inYear : 1 ≤ month ∧ month ≤ 12) (inYears : (12 * year + month - 1 + count) / 12 ≤ 9999) :
    ∃ months, monthsFrom year month count = .ok months ∧
      List.Forall₂ IsFirstOf (List.range' (12 * year + month - 1) count) months := by
  induction count generalizing year month with
  | zero => exact ⟨[], rfl, .nil⟩
  | succ count ih =>
    obtain ⟨first, made, isFirst⟩ := datetime_first year month ⟨positive, by omega⟩ inYear
    unfold monthsFrom
    rw [made, List.range'_succ]
    by_cases carry : month + 1 > 12
    · have number : 12 * (year + 1) + 1 - 1 = 12 * year + month - 1 + 1 := by omega
      obtain ⟨rest, following, areFirst⟩ :=
        @ih (year + 1) 1 (by omega) (by omega) (by omega)
      rw [number] at areFirst
      refine ⟨first :: rest, ?_, .cons isFirst areFirst⟩
      simp only [bind, Except.bind, if_pos carry, following]
    · have number : 12 * year + (month + 1) - 1 = 12 * year + month - 1 + 1 := by omega
      obtain ⟨rest, following, areFirst⟩ := @ih year (month + 1) positive (by omega) (by omega)
      rw [number] at areFirst
      refine ⟨first :: rest, ?_, .cons isFirst areFirst⟩
      simp only [bind, Except.bind, if_neg carry, following]

theorem plannedPartition_ok {month : DateTime} (isFirst : IsFirstOf number month)
    (inYears : (number + 1) / 12 ≤ 9999) :
    ∃ partition, plannedPartition yearDigits parent month = .ok partition ∧
      IsPartitionOf yearDigits parent number partition := by
  obtain ⟨_, ⟨low, high⟩, _⟩ := month.valid
  have count : 12 * month.year + month.month - 1 = number := isFirst.month
  rw [← isFirst.month] at inYears
  obtain ⟨start, stop, bounds, lower, upper⟩ := monthBounds_ok inYears
  rw [isFirst.month] at lower upper
  have year : month.year = number / 12 := by omega
  have inYear : month.month = number % 12 + 1 := by omega
  unfold plannedPartition
  rw [bounds]
  refine ⟨_, rfl, ?_, rfl, lower, upper⟩
  rw [year, inYear]

theorem mapM_planned {numbers : List Nat} {months : List DateTime}
    (areFirst : List.Forall₂ IsFirstOf numbers months)
    (inYears : ∀ number ∈ numbers, (number + 1) / 12 ≤ 9999) :
    ∃ plan, months.mapM (plannedPartition yearDigits parent) = .ok plan ∧
      List.Forall₂ (IsPartitionOf yearDigits parent) numbers plan := by
  induction areFirst with
  | nil => exact ⟨[], rfl, .nil⟩
  | cons isFirst rest ih =>
    obtain ⟨plan, planned, are⟩ := ih (fun number member => inYears number (by simp [member]))
    obtain ⟨partition, ok, isPartition⟩ := plannedPartition_ok isFirst (inYears _ (by simp))
    refine ⟨partition :: plan, ?_, .cons isPartition are⟩
    rw [List.mapM_cons, ok, planned]
    rfl

/-- The plan of some time has a partition for the current month and those after it. -/
theorem plannedPartitions_ok (now : DateTime) {count : Nat}
    (inYears : (now.monthNumber + count) / 12 ≤ 9999) :
    ∃ plan, plannedPartitions yearDigits parent now count = .ok plan ∧
      List.Forall₂ (IsPartitionOf yearDigits parent) (List.range' now.monthNumber count) plan := by
  obtain ⟨⟨positive, _⟩, inYear, _⟩ := now.valid
  obtain ⟨months, ahead, areFirst⟩ := monthsFrom_ok count positive inYear inYears
  have within : ∀ number ∈ List.range' now.monthNumber count, (number + 1) / 12 ≤ 9999 := by
    intro number member
    rw [List.mem_range'_1] at member
    omega
  obtain ⟨plan, planned, are⟩ := mapM_planned areFirst within
  refine ⟨plan, ?_, are⟩
  unfold plannedPartitions monthsAhead
  rw [ahead]
  exact planned

end Planning

/-! ## Coverage -/

/-- The partitions follow each other, under different names, from one instant to
another. -/
structure CoversTime (plan : List Partition) (start stop : Instant) : Prop where
  increasing : ∀ partition ∈ plan, partition.lower.toInstant < partition.upper.toInstant
  contiguous : plan.IsChain (fun before after => before.upper = after.lower)
  names : (plan.map (·.name)).Nodup
  starts : plan.head?.map (·.lower.toInstant) = some start
  stops : plan.getLast?.map (·.upper.toInstant) = some stop
  exactlyOne : ∀ t, (start ≤ t ∧ t < stop) ↔
    ∃! partition, partition ∈ plan ∧
      partition.lower.toInstant ≤ t ∧ t < partition.upper.toInstant

section Coverage

variable {yearDigits : Nat} {parent : String} {number count : Nat} {plan : List Partition}

theorem plan_contiguous
    (are : List.Forall₂ (IsPartitionOf yearDigits parent) (List.range' number count) plan) :
    plan.IsChain (fun before after => before.upper = after.lower) := by
  induction count generalizing number plan with
  | zero =>
    cases are
    exact .nil
  | succ count ih =>
    rw [List.range'_succ] at are
    cases are with
    | @cons _ first _ rest isFirst others =>
    have chain := ih others
    cases count with
    | zero =>
      cases others
      exact .singleton first
    | succ count =>
      rw [List.range'_succ] at others
      cases others with
      | cons isNext _ => exact .cons_cons (isFirst.upper.unique isNext.lower) chain

theorem plan_map_name {numbers : List Nat}
    (are : List.Forall₂ (IsPartitionOf yearDigits parent) numbers plan) :
    plan.map (·.name) = numbers.map
      (fun number => partitionName yearDigits parent (number / 12) (number % 12 + 1)) := by
  induction are with
  | nil => rfl
  | cons isFirst _ ih => rw [List.map_cons, List.map_cons, isFirst.name, ih]

theorem plan_names
    (are : List.Forall₂ (IsPartitionOf yearDigits parent) (List.range' number count) plan) :
    (plan.map (·.name)).Nodup := by
  rw [plan_map_name are]
  apply List.Nodup.map
  · intro first second same
    have parts := partitionName_injective (by omega) (by omega) same
    omega
  · exact List.nodup_range'

/-- Each month of the plan has its partition, and each partition its month. -/
theorem plan_months {numbers : List Nat}
    (are : List.Forall₂ (IsPartitionOf yearDigits parent) numbers plan) :
    (∀ k ∈ numbers, ∃ partition ∈ plan, IsPartitionOf yearDigits parent k partition) ∧
      ∀ partition ∈ plan, ∃ k ∈ numbers, IsPartitionOf yearDigits parent k partition := by
  induction are with
  | nil => simp
  | cons isFirst _ ih =>
    obtain ⟨months, partitions⟩ := ih
    constructor
    · intro k member
      cases member with
      | head => exact ⟨_, by simp, isFirst⟩
      | tail _ later =>
        obtain ⟨partition, inPlan, isPartition⟩ := months k later
        exact ⟨partition, List.mem_cons_of_mem _ inPlan, isPartition⟩
    · intro partition member
      cases member with
      | head => exact ⟨_, by simp, isFirst⟩
      | tail _ later =>
        obtain ⟨k, inRange, isPartition⟩ := partitions partition later
        exact ⟨k, List.mem_cons_of_mem _ inRange, isPartition⟩

theorem plan_stops
    (are : List.Forall₂ (IsPartitionOf yearDigits parent) (List.range' number (count + 1)) plan) :
    plan.getLast?.map (·.upper.toInstant) = some (monthStart (number + (count + 1))) := by
  induction count generalizing number plan with
  | zero =>
    cases are with
    | cons isFirst others =>
      cases others
      simp [isFirst.upper.toInstant]
  | succ count ih =>
    rw [List.range'_succ] at are
    cases are with
    | cons isFirst others =>
      have last := ih others
      cases others with
      | cons isNext rest =>
        rw [List.getLast?_cons_cons, last]
        congr 2
        omega

/-- A partition holds the instants from the start of its month to that of the next. -/
theorem IsPartitionOf.holds_iff {partition : Partition}
    (isPartition : IsPartitionOf yearDigits parent number partition) (t : Instant) :
    (partition.lower.toInstant ≤ t ∧ t < partition.upper.toInstant) ↔
      monthStart number ≤ t ∧ t < monthStart (number + 1) := by
  rw [isPartition.lower.toInstant, isPartition.upper.toInstant]

theorem plan_exactlyOne
    (are : List.Forall₂ (IsPartitionOf yearDigits parent) (List.range' number count) plan)
    (t : Instant) :
    (monthStart number ≤ t ∧ t < monthStart (number + count)) ↔
      ∃! partition, partition ∈ plan ∧
        partition.lower.toInstant ≤ t ∧ t < partition.upper.toInstant := by
  obtain ⟨months, partitions⟩ := plan_months are
  simp only [List.mem_range'_1] at months partitions
  rw [between_iff_existsUnique monthStart_strictMono]
  constructor
  · intro ⟨k, ⟨inRange, inside⟩, only⟩
    obtain ⟨partition, inPlan, isPartition⟩ := months k inRange
    refine ⟨partition, ⟨inPlan, (isPartition.holds_iff t).mpr inside⟩, ?_⟩
    intro other ⟨otherIn, otherHolds⟩
    obtain ⟨j, inRange', isOther⟩ := partitions other otherIn
    -- the month of the other partition is the only one with the instant
    have same : j = k := only j ⟨inRange', (isOther.holds_iff t).mp otherHolds⟩
    rw [same] at isOther
    exact isOther.unique isPartition
  · intro ⟨partition, ⟨inPlan, holds⟩, _⟩
    obtain ⟨k, inRange, isPartition⟩ := partitions partition inPlan
    have inside := (isPartition.holds_iff t).mp holds
    refine ⟨k, ⟨inRange, inside⟩, ?_⟩
    intro j ⟨_, inside'⟩
    exact interval_unique monthStart_strictMono inside'.1 inside'.2 inside.1 inside.2

theorem plan_coversTime
    (are : List.Forall₂ (IsPartitionOf yearDigits parent) (List.range' number (count + 1)) plan) :
    CoversTime plan (monthStart number) (monthStart (number + (count + 1))) where
  increasing := by
    intro partition inPlan
    obtain ⟨k, _, isPartition⟩ := (plan_months are).2 partition inPlan
    rw [isPartition.lower.toInstant, isPartition.upper.toInstant]
    exact monthStart_strictMono (Nat.lt_succ_self k)
  contiguous := plan_contiguous are
  names := plan_names are
  starts := by
    rw [List.range'_succ] at are
    cases are with
    | cons isFirst _ => simp [isFirst.lower.toInstant]
  stops := plan_stops are
  exactlyOne := plan_exactlyOne are

end Coverage

/-- The current time lies in the first month of the plan. -/
theorem now_in_current_month (now : DateTime) :
    monthStart now.monthNumber ≤ now.toInstant ∧ now.toInstant < monthStart (now.monthNumber + 1) := by
  obtain ⟨_, ⟨low, high⟩, ⟨first, last⟩, time⟩ := now.valid
  have day : firstDay now.monthNumber = dayNumber now.year now.month 1 :=
    firstDay_of_month now.year low high
  have next : firstDay (now.monthNumber + 1) =
      firstDay now.monthNumber + daysInMonth now.year now.month := by
    have year : now.monthNumber / 12 = now.year := by
      unfold DateTime.monthNumber
      omega
    have month : now.monthNumber % 12 + 1 = now.month := by
      unfold DateTime.monthNumber
      omega
    rw [firstDay_succ, year, month]
  rw [monthStart, monthStart, next, day, DateTime.toInstant]
  simp only [instantOfDay, daysToMicros, secondsToMicros, dayNumber]
  constructor
  · apply Int.le_of_sub_nonneg
    omega
  · apply Int.lt_of_sub_pos
    omega

section Execution

variable {yearDigits : Nat} {parent : String} {execute : String → Except Failure Unit}

theorem ensure_step {months : List DateTime} {names : List String} :
    months.mapM (fun month => do
      let partition ← plannedPartition yearDigits parent month
      execute partition.ddl
      (.ok partition.name : Except Failure String)) = .ok names ↔
      ∃ plan, months.mapM (plannedPartition yearDigits parent) = .ok plan ∧
        (∀ partition ∈ plan, execute partition.ddl = .ok ()) ∧ names = plan.map (·.name) := by
  induction months generalizing names with
  | nil =>
    simp only [List.mapM_nil, pure, Except.pure, Except.ok.injEq]
    constructor
    · intro none
      exact ⟨[], rfl, by simp, none.symm⟩
    · rintro ⟨plan, rfl, _, none⟩
      exact none.symm
  | cons month rest ih =>
    simp only [List.mapM_cons, bind_eq_ok_iff, ih, pure, Except.pure, Except.ok.injEq]
    constructor
    · rintro ⟨name, ⟨partition, planned, ⟨⟩, executed, rfl⟩, _, ⟨plan, following, all, rfl⟩, rfl⟩
      refine ⟨partition :: plan, ⟨partition, planned, plan, following, rfl⟩, ?_, rfl⟩
      exact List.forall_mem_cons.mpr ⟨executed, all⟩
    · rintro ⟨_, ⟨partition, planned, plan, following, rfl⟩, all, rfl⟩
      obtain ⟨executed, later⟩ := List.forall_mem_cons.mp all
      exact ⟨partition.name, ⟨partition, planned, (), executed, rfl⟩, plan.map (·.name),
        ⟨plan, following, later, rfl⟩, rfl⟩

/-- What `ensure_partitions` has executed, and returns, when it returns at all. -/
theorem ensureMonthly_eq_ok_iff {now : DateTime} {count : Nat} {names : List String} :
    ensureMonthly yearDigits parent execute now count = .ok names ↔
      ∃ plan, plannedPartitions yearDigits parent now count = .ok plan ∧
        (∀ partition ∈ plan, execute partition.ddl = .ok ()) ∧ names = plan.map (·.name) := by
  unfold ensureMonthly plannedPartitions
  cases monthsAhead now count with
  | error failure => simp [bind, Except.bind]
  | ok months => exact ensure_step

end Execution

theorem partition_plan_covers (yearDigits : Nat) (now : DateTime) (count : Nat)
    (positive : 1 ≤ count) (inYears : (now.monthNumber + count) / 12 ≤ 9999) :
    ∃ checks observations,
      plannedPartitions yearDigits parentTable now count = .ok checks ∧
      plannedPartitions yearDigits observationsParentTable now count = .ok observations ∧
      CoversTime checks (monthStart now.monthNumber) (monthStart (now.monthNumber + count)) ∧
      CoversTime observations (monthStart now.monthNumber)
        (monthStart (now.monthNumber + count)) := by
  obtain ⟨checks, planned, are⟩ := plannedPartitions_ok now inYears
  obtain ⟨observations, planned', are'⟩ := plannedPartitions_ok now inYears
  obtain ⟨count, rfl⟩ := Nat.exists_eq_add_of_le' positive
  exact ⟨checks, observations, planned, planned', plan_coversTime are, plan_coversTime are'⟩

def midNovember : DateTime := ⟨2026, 11, 15, 0, 0, 0, 0, by decide⟩

theorem partition_plan_covers_year :
    1 ≤ 12 ∧ (midNovember.monthNumber + 12) / 12 ≤ 9999 ∧
    ∃ checks observations,
      plannedPartitions 4 parentTable midNovember 12 = .ok checks ∧
      plannedPartitions 4 observationsParentTable midNovember 12 = .ok observations ∧
      CoversTime checks (monthStart midNovember.monthNumber)
        (monthStart (midNovember.monthNumber + 12)) ∧
      CoversTime observations (monthStart midNovember.monthNumber)
        (monthStart (midNovember.monthNumber + 12)) :=
  ⟨by decide, by decide, partition_plan_covers 4 midNovember 12 (by decide) (by decide)⟩

def lastButOneDecember : DateTime := ⟨9998, 12, 1, 0, 0, 0, 0, by decide⟩

/-- The thirteenth month from December 9998 ends with the year 9999, and `datetime` has
no first instant of the year 10000. -/
theorem partition_plan_not_total :
    lastButOneDecember.year < 9999 ∧ 1 ≤ 13 ∧
    plannedPartitions 4 parentTable lastButOneDecember 13 = .error (.python "ValueError") ∧
    plannedPartitions 4 observationsParentTable lastButOneDecember 13 =
      .error (.python "ValueError") := by
  refine ⟨by decide, by decide, ?_, ?_⟩
  · decide
  · decide

end Reliastra.Guarantees
