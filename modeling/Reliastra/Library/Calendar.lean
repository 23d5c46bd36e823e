import Mathlib.Data.Int.ConditionallyCompleteOrder
import Mathlib.Order.Monotone.Basic
import Mathlib.Tactic.IntervalCases

/-!
# Months of the Gregorian calendar, and consecutive intervals

Days are numbered through the proleptic Gregorian calendar, months by
`12 * year + month - 1`, so that the month after the last of a year has the next
number. The first days of the months increase with their numbers, and a strictly
increasing sequence of bounds cuts what lies between two of its members into
intervals, one for each point.
-/

namespace Reliastra.Library.Calendar

/-! ## Days -/

def IsLeap (year : Int) : Prop := year % 4 = 0 ∧ (year % 100 ≠ 0 ∨ year % 400 = 0)

instance (year : Int) : Decidable (IsLeap year) := inferInstanceAs (Decidable (_ ∧ _))

def daysInMonth (year : Int) (month : Nat) : Int :=
  if month = 2 then (if IsLeap year then 29 else 28)
  else if month = 4 ∨ month = 6 ∨ month = 9 ∨ month = 11 then 30 else 31

theorem daysInMonth_pos (year : Int) (month : Nat) : 0 < daysInMonth year month := by
  unfold daysInMonth
  split
  · split <;> omega
  · split <;> omega

/-- The days of the years before. -/
def daysBeforeYear (year : Int) : Int :=
  (year - 1) * 365 + (year - 1) / 4 - (year - 1) / 100 + (year - 1) / 400

/-- The days of the months before, in the same year. -/
def daysBeforeMonth (year : Int) : Nat → Int
  | 0 => 0
  | 1 => 0
  | month + 1 => daysBeforeMonth year month + daysInMonth year month

theorem daysBeforeMonth_succ (year : Int) {month : Nat} (positive : 0 < month) :
    daysBeforeMonth year (month + 1) = daysBeforeMonth year month + daysInMonth year month := by
  cases month with
  | zero => cases positive
  | succ month => rfl

/-- The number of a day; the first of January of the year 1 is day 1. -/
def dayNumber (year : Int) (month day : Nat) : Int :=
  daysBeforeYear year + daysBeforeMonth year month + day

theorem daysBeforeMonth_thirteen (year : Int) :
    daysBeforeMonth year 13 = if IsLeap year then 366 else 365 := by
  by_cases leap : IsLeap year
  · simp [daysBeforeMonth, daysInMonth, leap]
  · simp [daysBeforeMonth, daysInMonth, leap]

/-- A year has the days of its twelve months. -/
theorem daysBeforeYear_succ (year : Int) :
    daysBeforeYear (year + 1) = daysBeforeYear year + daysBeforeMonth year 13 := by
  rw [daysBeforeMonth_thirteen]
  unfold daysBeforeYear
  by_cases leap : IsLeap year
  · rw [if_pos leap]
    unfold IsLeap at leap
    omega
  · rw [if_neg leap]
    unfold IsLeap at leap
    omega

/-! ## Months by number -/

/-- The number of the first day of a month. -/
def firstDay (number : Nat) : Int := dayNumber ((number / 12 : Nat) : Int) (number % 12 + 1) 1

theorem firstDay_of_month (year : Nat) {month : Nat} (low : 1 ≤ month) (high : month ≤ 12) :
    firstDay (12 * year + month - 1) = dayNumber year month 1 := by
  have quotient : (12 * year + month - 1) / 12 = year := by omega
  have remainder : (12 * year + month - 1) % 12 + 1 = month := by omega
  rw [firstDay, quotient, remainder]

theorem firstDay_succ (number : Nat) :
    firstDay (number + 1) =
      firstDay number + daysInMonth ((number / 12 : Nat) : Int) (number % 12 + 1) := by
  unfold firstDay dayNumber
  by_cases last : number % 12 = 11
  · -- December is followed by the first month of the next year
    have quotient : (number + 1) / 12 = number / 12 + 1 := by omega
    have remainder : (number + 1) % 12 = 0 := by omega
    rw [quotient, remainder, last, Nat.cast_succ, daysBeforeYear_succ,
      daysBeforeMonth_succ _ (by omega : 0 < 12)]
    simp only [daysBeforeMonth, Nat.zero_add, Nat.reduceAdd]
    omega
  · have quotient : (number + 1) / 12 = number / 12 := by omega
    have remainder : (number + 1) % 12 = number % 12 + 1 := by omega
    rw [quotient, remainder, daysBeforeMonth_succ _ (by omega : 0 < number % 12 + 1)]
    omega

theorem firstDay_strictMono : StrictMono firstDay := by
  apply strictMono_nat_of_lt_succ
  intro number
  have positive := daysInMonth_pos ((number / 12 : Nat) : Int) (number % 12 + 1)
  have next := firstDay_succ number
  omega

/-! ## Consecutive intervals -/

section Intervals

variable {α : Type*} [LinearOrder α] {bound : Nat → α} {first count : Nat} {t : α}

theorem exists_interval (low : bound first ≤ t) (high : t < bound (first + count)) :
    ∃ k, first ≤ k ∧ k < first + count ∧ bound k ≤ t ∧ t < bound (k + 1) := by
  induction count with
  | zero => exact (not_lt_of_ge low high).elim
  | succ count ih =>
    by_cases before : t < bound (first + count)
    · obtain ⟨k, from', below, inside⟩ := ih before
      exact ⟨k, from', by omega, inside⟩
    · exact ⟨first + count, by omega, by omega, not_lt.mp before, high⟩

theorem interval_unique (mono : StrictMono bound) {k other : Nat} (low : bound k ≤ t)
    (high : t < bound (k + 1)) (low' : bound other ≤ t) (high' : t < bound (other + 1)) :
    k = other := by
  have above : k < other + 1 := mono.lt_iff_lt.mp (low.trans_lt high')
  have below : other < k + 1 := mono.lt_iff_lt.mp (low'.trans_lt high)
  omega

/-- The points between two bounds are those of exactly one interval between them. -/
theorem between_iff_existsUnique (mono : StrictMono bound) :
    (bound first ≤ t ∧ t < bound (first + count)) ↔
      ∃! k, (first ≤ k ∧ k < first + count) ∧ bound k ≤ t ∧ t < bound (k + 1) := by
  constructor
  · intro ⟨low, high⟩
    obtain ⟨k, from', below, start, stop⟩ := exists_interval low high
    refine ⟨k, ⟨⟨from', below⟩, start, stop⟩, ?_⟩
    intro other ⟨_, start', stop'⟩
    exact interval_unique mono start' stop' start stop
  · intro ⟨k, ⟨⟨from', below⟩, start, stop⟩, _⟩
    exact ⟨(mono.monotone from').trans start,
      stop.trans_le (mono.monotone (by omega : k + 1 ≤ first + count))⟩

end Intervals

end Reliastra.Library.Calendar
