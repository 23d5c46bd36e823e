import Mathlib.Analysis.Real.Sqrt
import Mathlib.Tactic.Linarith
import Reliastra.Source.Attribution.Engine

/-!
# The engine over exact real numbers

The operations of the attribution engine without rounding errors. A value is `none`
once an operation has raised: a division by zero, or the root of a negative number.
Comparing with `none` never happens in a run that has a value.
-/

namespace Reliastra.Source.Attribution

/-! ## Literals and rounding -/

def digitsValue (digits : List Char) : Nat :=
  digits.foldl (fun value digit => 10 * value + (digit.toNat - '0'.toNat)) 0

/-- The digits of a literal, with the decimal point left out. -/
def mantissa (text : String) : Nat := digitsValue (text.toList.filter (fun c => decide (c ≠ '.')))

/-- How many digits follow the decimal point. -/
def decimals (text : String) : Nat := (text.toList.dropWhile (fun c => decide (c ≠ '.'))).length - 1

noncomputable def literalValue (text : String) : ℝ := mantissa text / 10 ^ decimals text

/-- The nearest integer, and the even one of two. -/
noncomputable def nearestEven (x : ℝ) : ℤ :=
  if x - ⌊x⌋ < 1 / 2 then ⌊x⌋
  else if 1 / 2 < x - ⌊x⌋ then ⌊x⌋ + 1
  else if Even ⌊x⌋ then ⌊x⌋ else ⌊x⌋ + 1

/-- `round(x, digits)`. -/
noncomputable def roundTo (x : ℝ) (digits : Nat) : ℝ := nearestEven (x * 10 ^ digits) / 10 ^ digits

theorem nearestEven_mem {x : ℝ} {low high : ℤ} (above : low ≤ x) (below : x ≤ high) :
    low ≤ nearestEven x ∧ nearestEven x ≤ high := by
  have floor_low : low ≤ ⌊x⌋ := Int.le_floor.mpr above
  have floor_high : ⌊x⌋ ≤ high := by
    have chain : (⌊x⌋ : ℝ) ≤ high := (Int.floor_le x).trans below
    exact_mod_cast chain
  -- rounding up only happens strictly below the upper bound
  have next (up : ¬ x - ⌊x⌋ < 1 / 2) : ⌊x⌋ + 1 ≤ high := by
    have strict : (⌊x⌋ : ℝ) < high := by linarith
    have strict' : ⌊x⌋ < high := by exact_mod_cast strict
    omega
  unfold nearestEven
  split
  · exact ⟨floor_low, floor_high⟩
  · next up =>
    split
    · exact ⟨by omega, next up⟩
    split
    · exact ⟨floor_low, floor_high⟩
    · exact ⟨by omega, next up⟩

/-- Rounding stays between whole numbers. -/
theorem roundTo_mem {x : ℝ} {low high : ℤ} (above : low ≤ x) (below : x ≤ high) (digits : Nat) :
    low ≤ roundTo x digits ∧ roundTo x digits ≤ high := by
  have positive : (0 : ℝ) < 10 ^ digits := by positivity
  have scaled : low * 10 ^ digits ≤ nearestEven (x * 10 ^ digits) ∧
      nearestEven (x * 10 ^ digits) ≤ high * 10 ^ digits := nearestEven_mem
    (by push_cast; exact mul_le_mul_of_nonneg_right above positive.le)
    (by push_cast; exact mul_le_mul_of_nonneg_right below positive.le)
  have lower : (low : ℝ) * 10 ^ digits ≤ nearestEven (x * 10 ^ digits) := by exact_mod_cast scaled.1
  have upper : (nearestEven (x * 10 ^ digits) : ℝ) ≤ high * 10 ^ digits := by
    exact_mod_cast scaled.2
  exact ⟨(le_div_iff₀ positive).mpr lower, (div_le_iff₀ positive).mpr upper⟩

/-! ## The operations -/

/-- Both arguments have values. -/
noncomputable def lift (f : ℝ → ℝ → Option ℝ) (a b : Option ℝ) : Option ℝ :=
  a.bind (fun x => b.bind (f x))

open Classical in
noncomputable def compare (p : ℝ → ℝ → Prop) (a b : Option ℝ) : Bool :=
  match a, b with
  | some x, some y => decide (p x y)
  | _, _ => false

noncomputable def divide (x y : ℝ) : Option ℝ := if y = 0 then none else some (x / y)

/-- Python's operations, exactly. -/
noncomputable def exactReals : FloatOps (Option ℝ) where
  literal text := some (literalValue text)
  ratio a b := divide a b
  sub := lift (fun x y => some (x - y))
  add := lift (fun x y => some (x + y))
  mul := lift (fun x y => some (x * y))
  div := lift divide
  square a := a.map (fun x => x ^ 2)
  sqrt a := a.bind (fun x => if x < 0 then none else some (Real.sqrt x))
  sum values := values.foldl (lift (fun x y => some (x + y))) (some 0)
  le := compare (fun x y => x ≤ y)
  lt := compare (fun x y => x < y)
  round a digits := a.map (fun x => roundTo x digits)

/-! ## Where every argument has a value -/

@[simp] theorem exactReals_literal (text : String) :
    exactReals.literal text = some (literalValue text) := rfl

@[simp] theorem exactReals_sub (x y : ℝ) : exactReals.sub (some x) (some y) = some (x - y) := rfl

@[simp] theorem exactReals_add (x y : ℝ) : exactReals.add (some x) (some y) = some (x + y) := rfl

@[simp] theorem exactReals_mul (x y : ℝ) : exactReals.mul (some x) (some y) = some (x * y) := rfl

@[simp] theorem exactReals_square (x : ℝ) : exactReals.square (some x) = some (x ^ 2) := rfl

@[simp] theorem exactReals_round (x : ℝ) (digits : Nat) :
    exactReals.round (some x) digits = some (roundTo x digits) := rfl

theorem exactReals_div {x y : ℝ} (nonzero : y ≠ 0) :
    exactReals.div (some x) (some y) = some (x / y) := if_neg nonzero

theorem exactReals_ratio (a : Nat) {b : Nat} (nonzero : b ≠ 0) :
    exactReals.ratio a b = some ((a : ℝ) / b) := if_neg (Nat.cast_ne_zero.mpr nonzero)

theorem exactReals_sqrt {x : ℝ} (nonneg : 0 ≤ x) :
    exactReals.sqrt (some x) = some (Real.sqrt x) := if_neg (not_lt.mpr nonneg)

@[simp] theorem exactReals_max (x y : ℝ) : exactReals.max (some x) (some y) = some (max x y) := by
  by_cases less : x < y
  · have keeps : exactReals.lt (some x) (some y) = true := decide_eq_true less
    rw [FloatOps.max, keeps, if_pos rfl, max_eq_right less.le]
  · have keeps : exactReals.lt (some x) (some y) = false := decide_eq_false less
    rw [FloatOps.max, keeps, if_neg Bool.false_ne_true, max_eq_left (not_lt.mp less)]

@[simp] theorem exactReals_min (x y : ℝ) : exactReals.min (some x) (some y) = some (min x y) := by
  by_cases less : y < x
  · have keeps : exactReals.lt (some y) (some x) = true := decide_eq_true less
    rw [FloatOps.min, keeps, if_pos rfl, min_eq_right less.le]
  · have keeps : exactReals.lt (some y) (some x) = false := decide_eq_false less
    rw [FloatOps.min, keeps, if_neg Bool.false_ne_true, min_eq_left (not_lt.mp less)]

@[simp] theorem exactReals_sum (values : List ℝ) :
    exactReals.sum (values.map some) = some values.sum := by
  have folded (start : ℝ) : (values.map some).foldl (lift (fun x y => some (x + y))) (some start) =
      some (start + values.sum) := by
    induction values generalizing start with
    | nil => rw [List.sum_nil, add_zero]; rfl
    | cons value rest ih =>
      rw [List.map_cons, List.foldl_cons, List.sum_cons, ← add_assoc]
      exact ih (start + value)
  exact (folded 0).trans (by rw [zero_add])

end Reliastra.Source.Attribution
