import TokenBroker.Decimal.Shortest
import TokenBroker.Proofs.Decimal.Rounding

/-!
# The shortest decimal rounds to its number

The comparisons of `Decimal/Shortest` are those of rationals (`Binary64.compareOnGrid_eq`), so a
point of a grid that is found rounds to the number. The search finds one: its first grid is no
coarser than the number itself, and on the last of its seventeen grids two points are closer
together than the ends of the interval (`Interval.exists_pointOn?`). So the shortest decimal of a
number rounds to it (`Binary64.within_shortest`).
-/

namespace TokenBroker

namespace Binary64

variable {m a num den : Nat} {e grid k : Int} {q : ℚ}

theorem ten_zpow_pos (k : Int) : (0 : ℚ) < 10 ^ k := zpow_pos (by norm_num) k

theorem ten_zpow_le {a b : Int} (h : a ≤ b) : (10 : ℚ) ^ a ≤ 10 ^ b :=
  zpow_le_zpow_right₀ (by norm_num) h

/-! ## Points of a grid -/

/-- A point of a grid. -/
def point (a : Nat) (grid : Int) : ℚ := a * 10 ^ grid

theorem point_succ (a : Nat) (grid : Int) : point (a + 1) grid = point a grid + 10 ^ grid := by
  unfold point
  push_cast
  ring

/-- Two naturals compare like two rationals that they are the same positive multiple of. -/
theorem compare_of_scaled {x y : Nat} {p r s : ℚ} (s_pos : 0 < s) (hx : (x : ℚ) = p * s)
    (hy : (y : ℚ) = r * s) :
    compare x y = compare p r := by
  have less : x < y ↔ p < r := by
    rw [← mul_lt_mul_iff_of_pos_right s_pos, ← hx, ← hy, Nat.cast_lt]
  have same : x = y ↔ p = r := by
    rw [← mul_left_inj' s_pos.ne', ← hx, ← hy, Nat.cast_inj]
  have greater : y < x ↔ r < p := by
    rw [← mul_lt_mul_iff_of_pos_right s_pos, ← hx, ← hy, Nat.cast_lt]
  rcases lt_trichotomy p r with lt | eq | gt
  · rw [compare_lt_iff_lt.2 lt, Nat.compare_eq_lt.2 (less.2 lt)]
  · rw [compare_eq_iff_eq.2 eq, Nat.compare_eq_eq.2 (same.2 eq)]
  · rw [compare_gt_iff_gt.2 gt, Nat.compare_eq_gt.2 (greater.2 gt)]

theorem compareOnGrid_eq (a : Nat) (grid : Int) (num : Nat) (den_pos : 0 < den) :
    compareOnGrid a grid num den = compare (point a grid) (num / den) := by
  have positive : (0 : ℚ) < den := by exact_mod_cast den_pos
  unfold compareOnGrid point
  split
  · next nonneg =>
    obtain ⟨k, rfl⟩ := Int.eq_ofNat_of_zero_le nonneg
    apply compare_of_scaled positive
    · push_cast [Int.toNat_natCast, Nat.pow_eq]
      rfl
    · field_simp
  · next negative =>
    obtain ⟨k, rfl⟩ : ∃ k : Nat, grid = -k := ⟨(-grid).toNat, by omega⟩
    have ten : (0 : ℚ) < 10 ^ k := by positivity
    apply compare_of_scaled (mul_pos positive ten)
    · push_cast
      rw [zpow_neg, zpow_natCast]
      field_simp
    · push_cast [neg_neg, Int.toNat_natCast, Nat.pow_eq]
      field_simp

/-! ## The interval of a number -/

section Interval

variable (m) (e)

theorem interval_den_pos : 0 < (interval m e).den := Nat.pow_pos (by decide)

/-- A quarter of a unit, as the interval measures it. -/
theorem quarter_unit :
    ((Nat.pow 2 (e - 2).toNat : Nat) : ℚ) / (Nat.pow 2 (2 - e).toNat : Nat) = 2 ^ e / 4 := by
  have two : (2 : ℚ) ≠ 0 := by norm_num
  rw [Nat.pow_eq, Nat.pow_eq]
  push_cast
  rw [← zpow_natCast, ← zpow_natCast, ← zpow_sub₀ two,
    show ((e - 2).toNat : Int) - (2 - e).toNat = e - 2 by omega, zpow_sub₀ two]
  norm_num

theorem interval_value : ((interval m e).value : ℚ) / (interval m e).den = m * 2 ^ e := by
  unfold interval
  simp only
  rw [Nat.cast_mul, mul_div_assoc, quarter_unit]
  push_cast
  ring

theorem interval_high : ((interval m e).high : ℚ) / (interval m e).den = highEnd m e := by
  unfold interval highEnd
  simp only
  rw [Nat.cast_mul, mul_div_assoc, quarter_unit]
  push_cast
  ring

variable {m} in
theorem interval_low (pos : 0 < m) :
    ((interval m e).low : ℚ) / (interval m e).den = lowEnd m e := by
  unfold interval lowEnd
  simp only
  rw [Nat.cast_mul, mul_div_assoc, quarter_unit]
  split
  · rw [Nat.cast_sub (by omega)]
    push_cast
    ring
  · rw [Nat.cast_sub (by omega)]
    push_cast
    ring

end Interval

theorem lowEnd_lt (m : Nat) (e : Int) : lowEnd m e < m * 2 ^ e := by
  have unit := two_zpow_pos e
  unfold lowEnd
  split <;> nlinarith

theorem lt_highEnd (m : Nat) (e : Int) : m * 2 ^ e < highEnd m e := by
  have unit := two_zpow_pos e
  unfold highEnd
  nlinarith

/-- The points of a grid that the interval holds round to the number. -/
theorem within_of_holds (pos : 0 < m) (holds : (interval m e).holds grid a = true) :
    Within m e (point a grid) := by
  have low := lowEnd_lt m e
  have high := lt_highEnd m e
  have closed : (interval m e).closed = true → ¬m % 2 = 1 := by
    intro closed odd
    have even : m % 2 = 0 := of_decide_eq_true closed
    omega
  unfold Interval.holds at holds
  rw [compareOnGrid_eq _ _ _ (interval_den_pos m e), compareOnGrid_eq _ _ _ (interval_den_pos m e),
    interval_low e pos, interval_high] at holds
  split at holds
  · next above below =>
    rw [compare_gt_iff_gt] at above
    rw [compare_lt_iff_lt] at below
    exact ⟨above.le, below.le, fun _ => ⟨above, below⟩⟩
  · next same =>
    rw [compare_eq_iff_eq] at same
    exact ⟨same.ge, by linarith, fun odd => absurd odd (closed holds)⟩
  · next same _ =>
    rw [compare_eq_iff_eq] at same
    exact ⟨by linarith, same.le, fun odd => absurd odd (closed holds)⟩
  · cases holds

theorem holds_of_inside (pos : 0 < m) (above : lowEnd m e < point a grid)
    (below : point a grid < highEnd m e) :
    (interval m e).holds grid a = true := by
  unfold Interval.holds
  rw [compareOnGrid_eq _ _ _ (interval_den_pos m e), compareOnGrid_eq _ _ _ (interval_den_pos m e),
    interval_low e pos, interval_high, compare_gt_iff_gt.2 above, compare_lt_iff_lt.2 below]

/-- The point of a grid below a number and the one above it. -/
theorem floorOn_bounds (m : Nat) (e grid : Int) :
    point ((interval m e).floorOn grid) grid ≤ m * 2 ^ e ∧
      (m : ℚ) * 2 ^ e < point ((interval m e).floorOn grid + 1) grid := by
  -- the quotient of naturals is the number in units of the grid
  obtain ⟨n, d, d_pos, quotient, floor⟩ : ∃ n d : Nat, 0 < d ∧ (n : ℚ) / d = m * 2 ^ e / 10 ^ grid ∧
      (interval m e).floorOn grid = n / d := by
    have den := interval_den_pos m e
    rw [← interval_value]
    unfold Interval.floorOn
    split
    · next nonneg =>
      obtain ⟨k, rfl⟩ := Int.eq_ofNat_of_zero_le nonneg
      refine ⟨_, _, Nat.mul_pos den (Nat.pow_pos (by decide)), ?_, rfl⟩
      push_cast [Int.toNat_natCast, Nat.pow_eq]
      rw [div_div]
      rfl
    · next negative =>
      obtain ⟨k, rfl⟩ : ∃ k : Nat, grid = -k := ⟨(-grid).toNat, by omega⟩
      refine ⟨_, _, den, ?_, rfl⟩
      push_cast [neg_neg, Int.toNat_natCast, Nat.pow_eq]
      rw [zpow_neg, div_inv_eq_mul, zpow_natCast]
      ring
  have ten := ten_zpow_pos grid
  have positive : (0 : ℚ) < d := by exact_mod_cast d_pos
  have below : ((n / d : Nat) : ℚ) ≤ n / d := by
    rw [le_div_iff₀ positive]
    exact_mod_cast Nat.div_mul_le_self n d
  have above : (n : ℚ) / d < ((n / d + 1 : Nat) : ℚ) := by
    rw [div_lt_iff₀ positive, mul_comm]
    exact_mod_cast Nat.lt_mul_div_succ n d_pos
  rw [quotient] at below above
  rw [floor]
  exact ⟨(le_div_iff₀ ten).1 below, (div_lt_iff₀ ten).1 above⟩

/-! ## Grids with a point -/

theorem holds_of_pointOn? (found : (interval m e).pointOn? grid = some a) :
    (interval m e).holds grid a = true := by
  unfold Interval.pointOn? at found
  simp only at found
  split at found
  · next both above =>
    cases found
    unfold Interval.nearer
    split
    · exact both
    · exact above
    · split
      · exact both
      · exact above
  · next below _ =>
    cases found
    exact below
  · next _ above =>
    cases found
    exact above
  · cases found

/-- A grid whose points are closer together than the ends of the interval has one in it. -/
theorem exists_pointOn? (pos : 0 < m) (fine : (10 : ℚ) ^ grid < highEnd m e - lowEnd m e) :
    ∃ a, (interval m e).pointOn? grid = some a := by
  obtain ⟨below, above⟩ := floorOn_bounds m e grid
  have low := lowEnd_lt m e
  have high := lt_highEnd m e
  rw [point_succ] at above
  have one : (interval m e).holds grid ((interval m e).floorOn grid) = true ∨
      (interval m e).holds grid ((interval m e).floorOn grid + 1) = true := by
    by_cases reached : lowEnd m e < point ((interval m e).floorOn grid) grid
    · exact .inl (holds_of_inside pos reached (below.trans_lt high))
    · right
      apply holds_of_inside pos
      · rw [point_succ]
        exact low.trans above
      · rw [point_succ]
        linarith
  unfold Interval.pointOn?
  simp only
  split
  · exact ⟨_, rfl⟩
  · exact ⟨_, rfl⟩
  · exact ⟨_, rfl⟩
  · next none below =>
    rw [none, below] at one
    simp at one

/-- Seventeen digits suffice: such a grid is finer than the interval of the number. -/
theorem seventeenth_grid_fine (canonical : Canonical m e)
    (leading : (10 : ℚ) ^ (k - 1) ≤ m * 2 ^ e) :
    (10 : ℚ) ^ (k - 17) < highEnd m e - lowEnd m e := by
  have unit := two_zpow_pos e
  have bound : (m : ℚ) < 2 ^ 53 := by
    have := canonical.1
    rw [Nat.pow_eq] at this
    exact_mod_cast this
  have sixteen : (10 : ℚ) ^ (k - 17) * 10 ^ 16 = 10 ^ (k - 1) := by
    rw [← zpow_natCast, ← zpow_add₀ (by norm_num)]
    congr 1
    push_cast
    ring
  unfold highEnd lowEnd
  split
  · next narrow =>
    have full : (m : ℚ) = 2 ^ 52 := by
      rw [narrow.1, Nat.pow_eq]
      norm_num
    rw [full] at leading ⊢
    nlinarith
  · nlinarith

/-! ## The search -/

/-- The first grid with a point is found if it is among those that are looked at. -/
theorem firstPoint_holds (fuel : Nat) (near : Nat) (reached : near < fuel)
    (found : ∃ a, (interval m e).pointOn? (grid - near) = some a) :
    (interval m e).holds ((interval m e).firstPoint fuel grid).2
      ((interval m e).firstPoint fuel grid).1 = true := by
  induction fuel generalizing grid near with
  | zero => omega
  | succ fuel ih =>
    unfold Interval.firstPoint
    cases here : (interval m e).pointOn? grid with
    | some a => exact holds_of_pointOn? here
    | none =>
      cases near with
      | zero =>
        obtain ⟨a, found⟩ := found
        rw [Nat.cast_zero, sub_zero, here] at found
        cases found
      | succ near =>
        apply ih near (by omega)
        have step : grid - 1 - near = grid - (near + 1 : Nat) := by
          push_cast
          ring
        rwa [step]

/-- The search for the leading digit stops no later than at the number. -/
theorem exponentAbove_le (fuel : Nat) (start : (10 : ℚ) ^ (k - 1) ≤ m * 2 ^ e) :
    (10 : ℚ) ^ ((interval m e).exponentAbove fuel k - 1) ≤ m * 2 ^ e := by
  induction fuel generalizing k with
  | zero => exact start
  | succ fuel ih =>
    unfold Interval.exponentAbove
    split
    · exact start
    · next below =>
      apply ih
      rw [compareOnGrid_eq _ _ _ (interval_den_pos m e), interval_value, compare_gt_iff_gt] at below
      unfold point at below
      rw [add_sub_cancel_right]
      simpa using below

/-- The logarithm of two, from below for large numbers and from above for small ones. -/
theorem ten_zpow_le_two_zpow {digits bits : Int} (few : digits * 100000 ≤ bits * 30103)
    (least : -20000 ≤ bits) (greatest : bits ≤ 20000) : (10 : ℚ) ^ (digits - 1) ≤ 2 ^ bits := by
  have ten : (0 : ℚ) < 10 ^ (digits - 1) := ten_zpow_pos _
  rcases le_total 0 bits with large | small
  · -- 59 digits are fewer than 196 bits
    obtain ⟨b, rfl⟩ := Int.eq_ofNat_of_zero_le large
    apply le_of_pow_le_pow_left₀ (show 196 ≠ 0 by decide) (two_zpow_pos _).le
    calc ((10 : ℚ) ^ (digits - 1)) ^ 196 = 10 ^ ((digits - 1) * 196) := by
          rw [zpow_mul, ← zpow_natCast]
          rfl
      _ ≤ 10 ^ ((59 * b : Nat) : Int) := ten_zpow_le (by push_cast; omega)
      _ = (10 ^ 59) ^ b := by rw [zpow_natCast, pow_mul]
      _ ≤ (2 ^ 196) ^ b := by
        gcongr
        norm_num
      _ = ((2 : ℚ) ^ (b : Int)) ^ 196 := by
        rw [zpow_natCast, ← pow_mul, ← pow_mul, mul_comm]
  · -- 28 digits are more than 93 bits
    obtain ⟨b, rfl⟩ : ∃ b : Nat, bits = -b := ⟨(-bits).toNat, by omega⟩
    apply le_of_pow_le_pow_left₀ (show 93 ≠ 0 by decide) (two_zpow_pos _).le
    calc ((10 : ℚ) ^ (digits - 1)) ^ 93 = 10 ^ ((digits - 1) * 93) := by
          rw [zpow_mul, ← zpow_natCast]
          rfl
      _ ≤ 10 ^ (-(28 * b : Nat) : Int) := ten_zpow_le (by push_cast; omega)
      _ = ((10 ^ 28) ^ b)⁻¹ := by rw [zpow_neg, zpow_natCast, pow_mul]
      _ ≤ ((2 ^ 93) ^ b)⁻¹ := by
        apply inv_anti₀ (by positivity)
        gcongr
        norm_num
      _ = ((2 : ℚ) ^ (-b : Int)) ^ 93 := by
        rw [zpow_neg, zpow_natCast, inv_pow, ← pow_mul, ← pow_mul, mul_comm]

/-- The first guess is not too large. -/
theorem exponentGuess_le (canonical : Canonical m e) (pos : 0 < m) :
    (10 : ℚ) ^ ((interval m e).exponentGuess - 1) ≤ m * 2 ^ e := by
  have value_pos : 0 < (interval m e).value :=
    Nat.mul_pos (by omega) (Nat.pow_pos (by decide))
  obtain ⟨above, below⟩ := quotient_bounds value_pos (interval_den_pos m e)
  rw [interval_value] at above below
  have number : Within m e (m * 2 ^ e) :=
    ⟨(lowEnd_lt m e).le, (lt_highEnd m e).le, fun _ => ⟨lowEnd_lt m e, lt_highEnd m e⟩⟩
  obtain ⟨least, greatest⟩ := number.bounds canonical pos
  have lower := lt_of_two_zpow_lt (least.trans_lt below)
  have upper := lt_of_two_zpow_lt (above.trans_lt greatest)
  refine le_trans ?_ above
  apply ten_zpow_le_two_zpow
  · unfold Interval.exponentGuess
    rw [Int.fdiv_eq_ediv_of_nonneg _ (by decide)]
    exact Int.ediv_mul_le _ (by decide)
  · omega
  · omega

/-- The shortest decimal of a number rounds to it. -/
theorem within_shortest (canonical : Canonical m e) (pos : 0 < m) :
    Within m e (point (shortest m e).1 (shortest m e).2) := by
  have leading := exponentAbove_le 8 (exponentGuess_le canonical pos)
  have fine := seventeenth_grid_fine canonical leading
  apply within_of_holds pos
  unfold shortest
  apply firstPoint_holds 17 16 (by decide)
  apply exists_pointOn? pos
  convert fine using 2
  push_cast
  ring

end Binary64

end TokenBroker
