import Mathlib.Algebra.Order.Field.Power
import Mathlib.Tactic.FieldSimp
import Mathlib.Tactic.Linarith
import Mathlib.Tactic.NormNum
import Mathlib.Tactic.Positivity
import Mathlib.Tactic.Ring
import TokenBroker.Decimal.Binary64

/-!
# Rounding to binary numbers

The rationals that round to a number lie between half a unit below it and half a unit above it, and
closer below a power of two (`Binary64.Within`); the ends belong to the numbers with even
significands. Every quotient in this range is rounded to the number (`Binary64.ofRatio_of_within`),
and so is every decimal numeral in it (`Binary64.ofDecimal_of_within`). The exponent is found first:
it is that of the number, or one less where a power of two is approached from below
(`Binary64.IsScale.eq_or_eq_pred`).
-/

namespace TokenBroker

namespace Binary64

variable {m n d num den : Nat} {e k scale : Int} {q : ℚ}

/-! ## Ranges -/

/-- Whether the numbers below a significand and exponent lie closer together than those above. -/
abbrev Narrow (m : Nat) (e : Int) : Prop := m = Nat.pow 2 52 ∧ -1074 < e

/-- The lower end of the rationals that round to a significand and exponent. -/
def lowEnd (m : Nat) (e : Int) : ℚ := (if Narrow m e then (m : ℚ) - 1 / 4 else m - 1 / 2) * 2 ^ e

/-- The upper end of the rationals that round to a significand and exponent. -/
def highEnd (m : Nat) (e : Int) : ℚ := ((m : ℚ) + 1 / 2) * 2 ^ e

/-- Whether a rational rounds to a significand and exponent. -/
structure Within (m : Nat) (e : Int) (q : ℚ) : Prop where
  low : lowEnd m e ≤ q
  high : q ≤ highEnd m e
  inside : m % 2 = 1 → lowEnd m e < q ∧ q < highEnd m e

theorem two_zpow_pos (e : Int) : (0 : ℚ) < 2 ^ e := zpow_pos (by norm_num) e

theorem two_zpow_succ (e : Int) : (2 : ℚ) ^ (e + 1) = 2 * 2 ^ e := by
  rw [zpow_add_one₀ (by norm_num), mul_comm]

theorem two_zpow_le {a b : Int} (h : a ≤ b) : (2 : ℚ) ^ a ≤ 2 ^ b :=
  zpow_le_zpow_right₀ (by norm_num) h

theorem lt_of_two_zpow_lt {a b : Int} (h : (2 : ℚ) ^ a < 2 ^ b) : a < b :=
  (zpow_lt_zpow_iff_right₀ (by norm_num)).1 h

theorem half_below_le_lowEnd (m : Nat) (e : Int) : ((m : ℚ) - 1 / 2) * 2 ^ e ≤ lowEnd m e := by
  have unit := two_zpow_pos e
  unfold lowEnd
  split
  · nlinarith
  · exact le_refl _

theorem Within.pos (within : Within m e q) (pos : 0 < m) : 0 < q := by
  have unit := two_zpow_pos e
  have one : (1 : ℚ) ≤ m := by exact_mod_cast pos
  have below := half_below_le_lowEnd m e
  have := within.low
  nlinarith

/-! ## Units -/

theorem inUnits_pos (num : Nat) (pos : 0 < den) (e : Int) : 0 < (inUnits num den e).2 := by
  unfold inUnits
  split
  · exact Nat.mul_pos pos (Nat.pow_pos (by decide))
  · exact pos

/-- A quotient in units of a power of two. -/
theorem inUnits_div (num den : Nat) (e : Int) :
    ((inUnits num den e).1 : ℚ) / (inUnits num den e).2 = num / den / 2 ^ e := by
  unfold inUnits
  split
  · next nonneg =>
    obtain ⟨k, rfl⟩ := Int.eq_ofNat_of_zero_le nonneg
    simp only [Int.toNat_natCast, Nat.pow_eq, Nat.cast_mul, Nat.cast_pow,
      Nat.cast_ofNat, zpow_natCast]
    rw [div_div]
  · next negative =>
    obtain ⟨k, rfl⟩ : ∃ k : Nat, e = -k := ⟨(-e).toNat, by omega⟩
    simp only [neg_neg, Int.toNat_natCast, Nat.pow_eq, Nat.cast_mul, Nat.cast_pow, Nat.cast_ofNat,
      zpow_neg, zpow_natCast, div_inv_eq_mul]
    ring

/-! ## The exponent -/

/-- An exponent at which a rational has a quotient of 53 bits, or the least one. -/
structure IsScale (q : ℚ) (scale : Int) : Prop where
  least : -1074 ≤ scale
  below : q < 2 ^ 53 * 2 ^ scale
  full : scale = -1074 ∨ 2 ^ 52 * 2 ^ scale ≤ q

/-- The lengths of two naturals bound their quotient. -/
theorem quotient_bounds (num_pos : 0 < num) (den_pos : 0 < den) :
    (2 : ℚ) ^ ((num.log2 : Int) - den.log2 - 1) ≤ num / den ∧
      (num / den : ℚ) < 2 ^ ((num.log2 : Int) - den.log2 + 1) := by
  have num_low : (2 : ℚ) ^ num.log2 ≤ num := by exact_mod_cast Nat.log2_self_le num_pos.ne'
  have num_high : (num : ℚ) < 2 ^ (num.log2 + 1) := by exact_mod_cast Nat.lt_log2_self
  have den_low : (2 : ℚ) ^ den.log2 ≤ den := by exact_mod_cast Nat.log2_self_le den_pos.ne'
  have den_high : (den : ℚ) < 2 ^ (den.log2 + 1) := by exact_mod_cast Nat.lt_log2_self
  have positive : (0 : ℚ) < den := by exact_mod_cast den_pos
  have two : (2 : ℚ) ≠ 0 := by norm_num
  constructor
  · rw [le_div_iff₀ positive]
    calc (2 : ℚ) ^ ((num.log2 : Int) - den.log2 - 1) * den
        ≤ 2 ^ ((num.log2 : Int) - den.log2 - 1) * 2 ^ (den.log2 + 1) := by gcongr
      _ = 2 ^ num.log2 := by
        rw [← zpow_natCast, ← zpow_add₀ two, ← zpow_natCast]
        congr 1
        push_cast
        ring
      _ ≤ num := num_low
  · rw [div_lt_iff₀ positive]
    calc (num : ℚ) < 2 ^ (num.log2 + 1) := num_high
      _ = 2 ^ ((num.log2 : Int) - den.log2 + 1) * 2 ^ den.log2 := by
        rw [← zpow_natCast, ← zpow_natCast, ← zpow_add₀ two]
        congr 1
        push_cast
        ring
      _ ≤ 2 ^ ((num.log2 : Int) - den.log2 + 1) * den := by gcongr

theorem isScale_exponentFor (num_pos : 0 < num) (den_pos : 0 < den) :
    IsScale (num / den) (exponentFor num den) := by
  obtain ⟨above, below⟩ := quotient_bounds num_pos den_pos
  have test (low : Int) :
      Nat.pow 2 53 ≤ (inUnits num den low).1 / (inUnits num den low).2 ↔
        2 ^ 53 * 2 ^ low ≤ (num / den : ℚ) := by
    have positive : (0 : ℚ) < (inUnits num den low).2 := by
      exact_mod_cast inUnits_pos num den_pos low
    rw [← le_div_iff₀ (two_zpow_pos low), ← inUnits_div, le_div_iff₀ positive,
      Nat.le_div_iff_mul_le (inUnits_pos num den_pos low), Nat.pow_eq]
    exact_mod_cast Iff.rfl
  unfold exponentFor
  simp only [test]
  -- the digits leave two candidates, of which the test tells the right one
  generalize low_eq : max ((num.log2 : Int) - den.log2 - 53) (-1074) = low
  have least : -1074 ≤ low := by omega
  split
  · next large =>
    refine ⟨by omega, ?_, .inr ?_⟩
    · calc (num / den : ℚ) < 2 ^ ((num.log2 : Int) - den.log2 + 1) := below
        _ ≤ 2 ^ (53 + (low + 1)) := two_zpow_le (by omega)
        _ = 2 ^ 53 * 2 ^ (low + 1) := by
          rw [zpow_add₀ (by norm_num)]
          norm_num
    · rw [two_zpow_succ]
      linarith
  · next small =>
    refine ⟨least, lt_of_not_ge small, ?_⟩
    by_cases smallest : low = -1074
    · exact .inl smallest
    · right
      calc (2 : ℚ) ^ 52 * 2 ^ low = 2 ^ (52 + low) := by
            rw [zpow_add₀ (by norm_num)]
            norm_num
        _ ≤ 2 ^ ((num.log2 : Int) - den.log2 - 1) := two_zpow_le (by omega)
        _ ≤ num / den := above

/-- What rounds to a number does not have a greater exponent than the number. -/
theorem IsScale.le (h : IsScale q scale) (canonical : Canonical m e) (within : Within m e q) :
    scale ≤ e := by
  by_contra greater
  have unit := two_zpow_pos e
  have bound : (m : ℚ) + 1 ≤ 2 ^ 53 := by
    have := canonical.1
    rw [Nat.pow_eq] at this
    exact_mod_cast this
  have full := h.full.resolve_left (by have := canonical.2.1; omega)
  have scaled : (2 : ℚ) ^ 53 * 2 ^ e ≤ 2 ^ 52 * 2 ^ scale := by
    have := two_zpow_le (show e + 1 ≤ scale by omega)
    rw [two_zpow_succ] at this
    linarith
  have high := within.high
  unfold highEnd at high
  nlinarith

/-- What rounds to a number and has a smaller exponent lies less than a quarter of a unit below a
power of two. -/
theorem IsScale.eq_pred_of_lt (h : IsScale q scale) (canonical : Canonical m e)
    (within : Within m e q) (less : scale < e) : scale = e - 1 ∧ Narrow m e := by
  have unit := two_zpow_pos e
  have least := h.least
  have normal : Nat.pow 2 52 ≤ m := canonical.2.2.2.resolve_right (by omega)
  have lower : (2 : ℚ) ^ 52 ≤ m := by
    rw [Nat.pow_eq] at normal
    exact_mod_cast normal
  have below := h.below
  have low := within.low
  unfold lowEnd at low
  split at low
  · next narrow =>
    refine ⟨?_, narrow⟩
    by_contra other
    have scaled : (2 : ℚ) ^ 53 * 2 ^ scale ≤ 2 ^ 51 * 2 ^ e := by
      have := two_zpow_le (show scale + 1 + 1 ≤ e by omega)
      rw [two_zpow_succ, two_zpow_succ] at this
      linarith
    nlinarith
  · next wide =>
    exfalso
    have scaled : (2 : ℚ) ^ 53 * 2 ^ scale ≤ 2 ^ 52 * 2 ^ e := by
      have := two_zpow_le (show scale + 1 ≤ e by omega)
      rw [two_zpow_succ] at this
      linarith
    -- the least coefficient of a scale would have the narrow gap below it
    have beyond : (2 : ℚ) ^ 52 + 1 ≤ m := by
      have : Nat.pow 2 52 ≠ m := fun same => wide ⟨same.symm, by omega⟩
      have : 2 ^ 52 + 1 ≤ m := by
        rw [Nat.pow_eq] at *
        omega
      exact_mod_cast this
    nlinarith

/-- What rounds to a number has the exponent of the number, or one less below a power of two. -/
theorem IsScale.eq_or_eq_pred (h : IsScale q scale) (canonical : Canonical m e)
    (within : Within m e q) :
    scale = e ∨ scale = e - 1 ∧ Narrow m e := by
  rcases (h.le canonical within).eq_or_lt with same | less
  · exact .inl same
  · exact .inr (h.eq_pred_of_lt canonical within less)

/-! ## Significands -/

/-- The nearest natural, where a tie is left to an even one. -/
theorem nearestEven_eq (pos : 0 < d) (low : (2 * m - 1 : Int) * d ≤ 2 * n)
    (high : (2 * n : Int) ≤ (2 * m + 1) * d)
    (inside : m % 2 = 1 → (2 * m - 1 : Int) * d < 2 * n ∧ (2 * n : Int) < (2 * m + 1) * d) :
    nearestEven n d = m := by
  have split_n := Nat.div_add_mod n d
  have remainder := Nat.mod_lt n pos
  unfold nearestEven
  simp only
  generalize n / d = quotient at *
  generalize n % d = r at *
  subst split_n
  push_cast at low high inside
  have d_pos : (0 : Int) < d := by exact_mod_cast pos
  -- the quotient is the natural itself or the one before it
  have upper : quotient ≤ m := by
    by_contra beyond
    have : (m : Int) + 1 ≤ quotient := by omega
    nlinarith
  have lower : m ≤ quotient + 1 := by
    by_contra beyond
    have : (quotient : Int) + 2 ≤ m := by omega
    have : (r : Int) < d := by exact_mod_cast remainder
    nlinarith
  rcases (show m = quotient ∨ m = quotient + 1 by omega) with rfl | rfl
  · have half : 2 * r ≤ d := by
      have : (2 * r : Int) ≤ d := by linarith
      omega
    have odd (h : m % 2 = 1) : 2 * r < d := by
      have : (2 * r : Int) < d := by linarith [(inside h).2]
      omega
    grind
  · push_cast at low inside
    have half : d ≤ 2 * r := by
      have : (d : Int) ≤ 2 * r := by linarith
      omega
    have odd (h : (quotient + 1) % 2 = 1) : d < 2 * r := by
      have : (d : Int) < 2 * r := by linarith [(inside h).1]
      omega
    grind

theorem nearestEven_of_quotient (pos : 0 < d) (low : (m : ℚ) - 1 / 2 ≤ n / d)
    (high : (n : ℚ) / d ≤ m + 1 / 2) (inside : m % 2 = 1 → (m : ℚ) - 1 / 2 < n / d ∧
      (n : ℚ) / d < m + 1 / 2) : nearestEven n d = m := by
  have positive : (0 : ℚ) < d := by exact_mod_cast pos
  rw [le_div_iff₀ positive] at low
  rw [div_le_iff₀ positive] at high
  rw [lt_div_iff₀ positive, div_lt_iff₀ positive] at inside
  apply nearestEven_eq pos
  · have : (2 * m - 1 : ℚ) * d ≤ 2 * n := by linarith
    exact_mod_cast this
  · have : (2 * n : ℚ) ≤ (2 * m + 1) * d := by linarith
    exact_mod_cast this
  · intro odd
    obtain ⟨above, below⟩ := inside odd
    have above : (2 * m - 1 : ℚ) * d < 2 * n := by linarith
    have below : (2 * n : ℚ) < (2 * m + 1) * d := by linarith
    exact ⟨by exact_mod_cast above, by exact_mod_cast below⟩

/-! ## Numbers -/

/-- In units of its exponent, what rounds to a number is nearest to its significand. -/
theorem nearestEven_of_within (den_pos : 0 < den) (within : Within m e (num / den)) :
    nearestEven (inUnits num den e).1 (inUnits num den e).2 = m := by
  have unit := two_zpow_pos e
  have below := half_below_le_lowEnd m e
  have low := within.low
  have high := within.high
  unfold highEnd at high
  apply nearestEven_of_quotient (inUnits_pos num den_pos e)
  · rw [inUnits_div, le_div_iff₀ unit]
    linarith
  · rw [inUnits_div, div_le_iff₀ unit]
    exact high
  · intro odd
    obtain ⟨above, under⟩ := within.inside odd
    unfold highEnd at under
    rw [inUnits_div, lt_div_iff₀ unit, div_lt_iff₀ unit]
    exact ⟨by linarith, under⟩

/-- Below a power of two the significand is the next one after those of the smaller units. -/
theorem nearestEven_of_narrow (den_pos : 0 < den) (narrow : Narrow m e)
    (within : Within m e (num / den)) (below : (num / den : ℚ) < 2 ^ 53 * 2 ^ (e - 1)) :
    nearestEven (inUnits num den (e - 1)).1 (inUnits num den (e - 1)).2 = Nat.pow 2 53 := by
  have unit := two_zpow_pos (e - 1)
  have double : (2 : ℚ) ^ e = 2 * 2 ^ (e - 1) := by
    rw [← two_zpow_succ]
    congr 1
    ring
  have low := within.low
  unfold lowEnd at low
  rw [if_pos narrow, narrow.1, double, Nat.pow_eq] at low
  push_cast at low
  have above : (2 : ℚ) ^ 53 - 1 / 2 ≤ num / den / 2 ^ (e - 1) := by
    rw [le_div_iff₀ unit]
    linarith
  have under : (num : ℚ) / den / 2 ^ (e - 1) < 2 ^ 53 := by
    rw [div_lt_iff₀ unit]
    exact below
  apply nearestEven_of_quotient (inUnits_pos num den_pos (e - 1))
  · rw [inUnits_div, Nat.pow_eq]
    push_cast
    exact above
  · rw [inUnits_div, Nat.pow_eq]
    push_cast
    linarith
  · intro odd
    exact absurd odd (by decide)

/-- A quotient in the range of a number is rounded to it. -/
theorem ofRatio_of_within (negative : Bool) (canonical : Canonical m e) (pos : 0 < m)
    (den_pos : 0 < den) (within : Within m e (num / den)) :
    ofRatio negative num den = .finite negative m e canonical := by
  have num_pos : 0 < num := by
    have := within.pos pos
    rcases Nat.eq_zero_or_pos num with rfl | positive
    · simp at this
    · exact positive
  have exponent := isScale_exponentFor num_pos den_pos
  have significand : m < Nat.pow 2 53 := canonical.1
  unfold ofRatio
  simp only
  rcases exponent.eq_or_eq_pred canonical within with same | ⟨pred, narrow⟩
  · rw [same, nearestEven_of_within den_pos within, if_neg significand.ne]
    simp only
    rw [if_neg num_pos.ne', dif_pos canonical]
  · have below := exponent.below
    rw [pred] at below
    rw [pred, nearestEven_of_narrow den_pos narrow within below, if_pos rfl]
    have back : e - 1 + 1 = e := by ring
    simp only [back, ← narrow.1]
    rw [if_neg num_pos.ne', dif_pos canonical]

/-! ## Decimal numerals -/

/-- Bounds of what rounds to a number at all. -/
theorem Within.bounds (within : Within m e q) (canonical : Canonical m e) (pos : 0 < m) :
    (2 : ℚ) ^ (-1075 : Int) ≤ q ∧ q < 2 ^ (1024 : Int) := by
  obtain ⟨significand, least, greatest, -⟩ := canonical
  have unit := two_zpow_pos e
  have one : (1 : ℚ) ≤ m := by exact_mod_cast pos
  have bound : (m : ℚ) + 1 ≤ 2 ^ 53 := by
    rw [Nat.pow_eq] at significand
    exact_mod_cast significand
  constructor
  · have scaled : (2 : ℚ) * 2 ^ (-1075 : Int) ≤ 2 ^ e := by
      rw [← two_zpow_succ]
      exact two_zpow_le least
    have below := half_below_le_lowEnd m e
    have low := within.low
    nlinarith
  · have scaled : (2 : ℚ) ^ 53 * 2 ^ e ≤ 2 ^ (1024 : Int) := by
      calc (2 : ℚ) ^ 53 * 2 ^ e = 2 ^ (53 + e) := by
            rw [zpow_add₀ (by norm_num)]
            norm_num
        _ ≤ 2 ^ (1024 : Int) := two_zpow_le (by omega)
    calc q ≤ ((m : ℚ) + 1 / 2) * 2 ^ e := within.high
      _ < 2 ^ 53 * 2 ^ e := mul_lt_mul_of_pos_right (by linarith) unit
      _ ≤ 2 ^ (1024 : Int) := scaled

/-- Three bits are fewer than a digit. -/
theorem two_zpow_le_ten_zpow (k : Nat) : (2 : ℚ) ^ (3 * k : Int) ≤ 10 ^ (k : Int) := by
  rw [zpow_mul, zpow_natCast, zpow_natCast]
  gcongr
  norm_num

section Decimals

variable {coefficient : Nat} {exponent : Int} (canonical : Canonical m e) (pos : 0 < m)
  (within : Within m e (coefficient * 10 ^ exponent))

include canonical pos within

omit canonical in
theorem coefficient_pos_of_within : 0 < coefficient := by
  have positive := within.pos pos
  rcases Nat.eq_zero_or_pos coefficient with rfl | nonzero
  · simp at positive
  · exact nonzero

/-- A numeral that rounds to a number is not so large that its digits need not be looked at. -/
theorem exponent_le_of_within : exponent ≤ 400 := by
  by_contra large
  have greatest := (within.bounds canonical pos).2
  have one : (1 : ℚ) ≤ coefficient := by exact_mod_cast coefficient_pos_of_within pos within
  obtain ⟨k, rfl⟩ := Int.eq_ofNat_of_zero_le (show 0 ≤ exponent by omega)
  refine absurd greatest (not_lt_of_ge ?_)
  calc (2 : ℚ) ^ (1024 : Int) ≤ 2 ^ (3 * k : Int) := two_zpow_le (by omega)
    _ ≤ 10 ^ (k : Int) := two_zpow_le_ten_zpow k
    _ ≤ coefficient * 10 ^ (k : Int) := le_mul_of_one_le_left (by positivity) one

/-- And it is not so small. -/
theorem le_size_of_within : -1080 ≤ (coefficient.log2 : Int) + 1 + 3 * exponent := by
  by_contra small
  have least := (within.bounds canonical pos).1
  have bound : (coefficient : ℚ) < 2 ^ (coefficient.log2 + 1) := by exact_mod_cast Nat.lt_log2_self
  obtain ⟨k, rfl⟩ : ∃ k : Nat, exponent = -k := ⟨(-exponent).toNat, by omega⟩
  have eighth : (10 : ℚ) ^ (-k : Int) ≤ 2 ^ (-(3 * k) : Int) := by
    rw [zpow_neg, zpow_neg]
    exact inv_anti₀ (two_zpow_pos _) (two_zpow_le_ten_zpow k)
  refine absurd least (not_le_of_gt ?_)
  calc (coefficient : ℚ) * 10 ^ (-k : Int) < 2 ^ (coefficient.log2 + 1) * 10 ^ (-k : Int) :=
        mul_lt_mul_of_pos_right bound (by positivity)
    _ ≤ 2 ^ (coefficient.log2 + 1) * 2 ^ (-(3 * k) : Int) := by gcongr
    _ = 2 ^ ((coefficient.log2 : Int) + 1 - 3 * k) := by
      rw [← zpow_natCast, ← zpow_add₀ (by norm_num)]
      congr 1
    _ ≤ 2 ^ (-1075 : Int) := two_zpow_le (by omega)

/-- A decimal numeral in the range of a number is read as it. -/
theorem ofDecimal_of_within (negative : Bool) :
    ofDecimal negative coefficient exponent = .finite negative m e canonical := by
  have not_large := exponent_le_of_within canonical pos within
  have not_small := le_size_of_within canonical pos within
  unfold ofDecimal
  rw [if_neg (coefficient_pos_of_within pos within).ne', if_neg (by omega), if_neg (by omega)]
  split
  · next nonneg =>
    obtain ⟨k, rfl⟩ := Int.eq_ofNat_of_zero_le nonneg
    apply ofRatio_of_within negative canonical pos (by decide)
    simpa using within
  · next below =>
    obtain ⟨k, rfl⟩ : ∃ k : Nat, exponent = -k := ⟨(-exponent).toNat, by omega⟩
    apply ofRatio_of_within negative canonical pos (Nat.pow_pos (by decide))
    simpa [div_eq_mul_inv] using within

end Decimals

end Binary64

end TokenBroker
