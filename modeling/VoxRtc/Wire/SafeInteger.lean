import VoxRtc.Wire.Literal
import Mathlib.Algebra.Order.Field.Basic

/-!
# Safe integers

Doubles that are integers from one to `Number.MAX_SAFE_INTEGER`.
-/
namespace VoxRtc.Wire

namespace Finite64

variable {x : Finite64}

theorem isIntegral_iff : x.isIntegral = true ↔ x.scaled = x.trunc * x.scale := by
  rw [isIntegral, beq_iff_eq, trunc]
  constructor
  · intro divides
    exact (Int.tdiv_mul_cancel (Int.dvd_of_emod_eq_zero divides)).symm
  · intro whole
    rw [whole]
    exact Int.mul_emod_left _ _

/-- The comparisons of an integral double are those of its integer. -/
theorem integral_cases (integral : x.isIntegral = true) (n : Int) :
    x.ltInt n = decide (x.trunc < n) ∧ x.gtInt n = decide (n < x.trunc) := by
  have whole := isIntegral_iff.mp integral
  have positive := x.scale_positive
  rw [ltInt, gtInt, whole]
  exact ⟨by simp [positive], by simp [positive]⟩

/-- The integer from one to `Number.MAX_SAFE_INTEGER` that a double is. -/
def safe? (x : Finite64) : Option Nat :=
  if x.ltInt 1 || x.gtInt maxSafeInteger || !x.isIntegral then none else some x.trunc.toNat

theorem safe?_eq_some {n : Nat} :
    x.safe? = some n ↔ 1 ≤ n ∧ n ≤ maxSafeInteger ∧ x.toRat = n := by
  have value : x.toRat = n ↔ x.scaled = n * x.scale := by exact_mod_cast toRat_eq_int (n := n)
  rw [safe?, value]
  by_cases integral : x.isIntegral = true
  · obtain ⟨lower, _⟩ := integral_cases integral 1
    obtain ⟨_, upper⟩ := integral_cases integral maxSafeInteger
    have whole := isIntegral_iff.mp integral
    have same : x.scaled = n * x.scale ↔ x.trunc = n := by
      rw [whole]
      exact mul_left_inj' x.scale_positive.ne'
    rw [lower, upper, integral, same]
    by_cases inside : 1 ≤ x.trunc ∧ x.trunc ≤ maxSafeInteger
    · have kept : ¬(decide (x.trunc < 1) || decide ((maxSafeInteger : Int) < x.trunc) || !true) := by
        simp only [Bool.or_eq_true, decide_eq_true_eq, Bool.not_true, Bool.false_eq_true, or_false]
        omega
      rw [if_neg kept, Option.some.injEq]
      omega
    · have outside : decide (x.trunc < 1) || decide ((maxSafeInteger : Int) < x.trunc) || !true := by
        simp only [Bool.or_eq_true, decide_eq_true_eq, Bool.not_true, Bool.false_eq_true, or_false]
        omega
      rw [if_pos outside]
      constructor
      · intro impossible
        cases impossible
      · rintro ⟨low, high, same⟩
        omega
  · have fraction : x.scaled ≠ n * x.scale := by
      intro whole
      apply integral
      rw [isIntegral, whole, beq_iff_eq]
      exact Int.mul_emod_left _ _
    simp [integral, fraction]

/-- Doubles are equal when they have one value. -/
theorem strictEq_iff {y : Finite64} :
    (Binary64.finite x).strictEq (.finite y) = true ↔ x.toRat = y.toRat := by
  have left : (x.scale : ℚ) ≠ 0 := by exact_mod_cast x.scale_positive.ne'
  have right : (y.scale : ℚ) ≠ 0 := by exact_mod_cast y.scale_positive.ne'
  rw [Binary64.strictEq, beq_iff_eq, toRat, toRat, div_eq_div_iff left right]
  norm_cast

end Finite64

end VoxRtc.Wire
