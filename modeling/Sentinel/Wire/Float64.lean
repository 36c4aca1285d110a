import Mathlib.Algebra.Order.Field.Rat
import Mathlib.Tactic.Linarith

/-!
# The arithmetic of float64

A value is the rational number that it stands for, and the result of every
operation is rounded. What is shown of rounding is that it is monotone and exact
for the integers of 53 bits.
-/

namespace Sentinel.Wire

structure Float64 where
  round : ℚ → ℚ
  mono : Monotone round
  exact : ∀ count : Nat, count ≤ 2 ^ 53 → round count = count

namespace Float64

variable {double : Float64}

/-- An arithmetic that need not round, for the numbers at hand. -/
def exactly : Float64 := ⟨id, monotone_id, fun _ _ => rfl⟩

@[simp] theorem round_zero : double.round 0 = 0 := by simpa using double.exact 0 (Nat.zero_le _)

@[simp] theorem round_one : double.round 1 = 1 := by simpa using double.exact 1 (by decide)

/-- No rounding makes a value negative. -/
theorem round_nonneg {value : ℚ} (nonneg : 0 ≤ value) : 0 ≤ double.round value := by
  simpa using double.mono nonneg

/-- A positive count stays positive. -/
theorem round_pos {count : Nat} (some : 0 < count) : 0 < double.round count := by
  have one : 1 ≤ double.round count := by simpa using double.mono (Nat.one_le_cast.mpr some)
  exact zero_lt_one.trans_le one

/-- Rounding passes no whole number that is a float. -/
theorem round_le {value : ℚ} {most : Nat} (exact : most ≤ 2 ^ 53) (le : value ≤ most) :
    double.round value ≤ most := double.exact most exact ▸ double.mono le

/-- `float64(part) / float64(whole) * 100` -/
def percentage (double : Float64) (part whole : Nat) : ℚ :=
  double.round (double.round (double.round part / double.round whole) * 100)

/-- A percentage lies between 0 and 100. -/
theorem percentage_bounds {part whole : Nat} (some : 0 < whole) (le : part ≤ whole) :
    0 ≤ double.percentage part whole ∧ double.percentage part whole ≤ 100 := by
  have nonneg : 0 ≤ double.round part := double.round_nonneg (Nat.cast_nonneg part)
  have positive : 0 < double.round whole := double.round_pos some
  have share : double.round part / double.round whole ≤ 1 :=
    div_le_one_of_le₀ (double.mono (Nat.cast_le.mpr le)) positive.le
  have rounded : double.round (double.round part / double.round whole) ≤ 1 := by
    simpa using double.mono share
  have rest : double.round (double.round part / double.round whole) * 100 ≤ (100 : Nat) := by
    push_cast
    linarith
  refine ⟨double.round_nonneg (mul_nonneg ?_ (by norm_num)), ?_⟩
  · exact double.round_nonneg (div_nonneg nonneg positive.le)
  · exact_mod_cast double.round_le (by decide) rest

end Float64
end Sentinel.Wire
