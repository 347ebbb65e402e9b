import Mathlib.Data.Rat.Floor
import Mathlib.Tactic.Linarith
import Mathlib.Tactic.Positivity
import TokenBroker.Decimal.Binary64

/-!
# Whole parts of binary numbers

The exact value of a finite number is a rational (`Binary64.value?`). Without its fraction the
number is its value rounded towards zero (`Binary64.truncate?_eq_map`). So all numbers between minus
one and one are zero without their fractions, and what comes to an integer within bounds can lie
outside of them by a fraction (`Binary64.towardZero_mem_iff`).
-/

namespace TokenBroker

namespace Binary64

variable {q : ℚ}

/-- The exact value of a finite number. -/
def value? : Binary64 → Option ℚ
  | .finite negative significand exponent _ =>
    some ((if negative then -1 else 1) * (significand * 2 ^ exponent))
  | _ => none

/-- The integer next to a rational on the side of zero. -/
def towardZero (q : ℚ) : Int := if 0 ≤ q then ⌊q⌋ else ⌈q⌉

theorem towardZero_of_nonneg (h : 0 ≤ q) : towardZero q = ⌊q⌋ := if_pos h

theorem towardZero_neg_of_nonneg (h : 0 ≤ q) : towardZero (-q) = -⌊q⌋ := by
  unfold towardZero
  split
  · next nonneg =>
    have zero : q = 0 := le_antisymm (neg_nonneg.1 nonneg) h
    simp [zero]
  · exact Int.ceil_neg

theorem towardZero_intCast (n : Int) : towardZero n = n := by
  unfold towardZero
  split
  · exact Int.floor_intCast n
  · exact Int.ceil_intCast n

theorem magnitude_div (significand : Nat) (exponent : Int) :
    ((magnitude significand exponent).1 : ℚ) / (magnitude significand exponent).2 =
      significand * 2 ^ exponent := by
  unfold magnitude
  split
  · next nonneg =>
    obtain ⟨k, rfl⟩ := Int.eq_ofNat_of_zero_le nonneg
    simp
  · next negative =>
    obtain ⟨k, hk⟩ := Int.eq_ofNat_of_zero_le (show 0 ≤ -exponent by omega)
    obtain rfl : exponent = -(k : Int) := by omega
    simp [div_eq_mul_inv]

theorem towardZero_signed (negative : Bool) (num den : Nat) :
    towardZero ((if negative then -1 else 1) * ((num : ℚ) / den)) = signed negative
      (num / den) := by
  have nonneg : (0 : ℚ) ≤ (num : ℚ) / den := by positivity
  have floor : ⌊(num : ℚ) / den⌋ = ((num / den : Nat) : Int) := by
    rw [Rat.floor_natCast_div_natCast]
    rfl
  cases negative with
  | false =>
    simp only [Bool.false_eq_true, if_false, one_mul, towardZero_of_nonneg nonneg, floor, signed]
  | true => simp only [if_true, neg_one_mul, towardZero_neg_of_nonneg nonneg, floor, signed]

/-- Without its fraction a number is its value rounded towards zero. -/
theorem truncate?_eq_map (x : Binary64) : x.truncate? = x.value?.map towardZero := by
  cases x with
  | nan => rfl
  | infinite => rfl
  | finite negative significand exponent =>
    simp only [truncate?, value?, Option.map_some, ← magnitude_div significand exponent,
      towardZero_signed]

/-- What is rounded to an integer from zero to a bound lies less than one outside. -/
theorem towardZero_mem_iff {bound : Int} (nonneg : 0 ≤ bound) :
    (0 ≤ towardZero q ∧ towardZero q ≤ bound) ↔ -1 < q ∧ q < bound + 1 := by
  unfold towardZero
  split
  · next h =>
    have above : -1 < q := by linarith
    have low : 0 ≤ ⌊q⌋ := Int.floor_nonneg.2 h
    simp only [low, above, true_and, Int.floor_le_iff]
  · next h =>
    rw [not_le] at h
    have below : q < bound + 1 := by
      have : (0 : ℚ) ≤ bound := by exact_mod_cast nonneg
      linarith
    have high : ⌈q⌉ ≤ bound := (Int.ceil_le.2 (by exact_mod_cast h.le)).trans nonneg
    have low : 0 ≤ ⌈q⌉ ↔ -1 < q := by
      rw [Int.le_ceil_iff]
      norm_num
    simp only [high, below, and_true, low]

end Binary64

end TokenBroker
