import Mathlib.Algebra.Order.Ring.Int
import TokenBroker.Proofs.Time.Calendar

/-!
# Times as instants

Times are compared as their clocks show them, year first, and durations are taken off on the clock.
Both are what the instants say: dates are in order of their numbers (`Date.order_eq`), clocks in
order of the microseconds that they have shown (`ClockTime.order_eq`), and times in order of their
instants, whatever their offsets (`ZonedTime.notAfter_iff`). A shifted time is that much later
(`ZonedTime.instant_of_shift?`), and there is one just if its clock can show it
(`GivenTime.reaches_iff`).
-/

namespace TokenBroker

/-! ## Order by a unit and what is left of it -/

section Units

variable {a a' b b' n : Nat} {rest : Ordering} {f : Nat → Nat}

theorem compare_add_left (n a b : Nat) : compare (n + a) (n + b) = compare a b := by
  simp only [Nat.compare_eq_ite_lt, Nat.add_lt_add_iff_left]

/-- Let the unit `a` begin at `f a`, with `b` left over. Such counts are in order of their units,
and within one unit in order of what is left over. -/
theorem compare_then (mono : ∀ {x y}, x ≤ y → f x ≤ f y) (within : f a + b < f (a + 1))
    (within' : f a' + b' < f (a' + 1)) (same : a = a' → rest = compare b b') :
    (compare a a').then rest = compare (f a + b) (f a' + b') := by
  rcases Nat.lt_trichotomy a a' with before | rfl | after
  · have next : f (a + 1) ≤ f a' := mono before
    rw [Nat.compare_eq_lt.2 before, Nat.compare_eq_lt.2 (by omega)]
    rfl
  · rw [same rfl, Nat.compare_eq_eq.2 rfl, compare_add_left]
    rfl
  · have next : f (a' + 1) ≤ f a := mono after
    rw [Nat.compare_eq_gt.2 after, Nat.compare_eq_gt.2 (by omega)]
    rfl

/-- All units are of the same size. -/
theorem compare_then_mul (hb : b < n) (hb' : b' < n) (same : rest = compare b b') :
    (compare a a').then rest = compare (a * n + b) (a' * n + b') :=
  compare_then (f := (· * n)) (Nat.mul_le_mul_right n) (by rw [Nat.succ_mul]; omega)
    (by rw [Nat.succ_mul]; omega) fun _ => same

theorem compare_then_div (x y : Nat) (pos : 0 < n) (same : rest = compare (x % n) (y % n)) :
    (compare (x / n) (y / n)).then rest = compare x y := by
  rw [compare_then_mul (Nat.mod_lt x pos) (Nat.mod_lt y pos) same, Nat.div_add_mod',
    Nat.div_add_mod']

/-- Units of which `k` make up a larger one. -/
theorem compare_then_mod (x y k : Nat) (pos : 0 < n) (same : rest = compare (x % n) (y % n)) :
    (compare (x / n % k) (y / n % k)).then rest = compare (x % (n * k)) (y % (n * k)) := by
  rw [← Nat.mod_mul_right_div_self, ← Nat.mod_mul_right_div_self]
  refine compare_then_div _ _ pos ?_
  rw [Nat.mod_mul_right_mod, Nat.mod_mul_right_mod, same]

end Units

/-! ## Dates and clocks -/

open Calendar in
theorem Date.order_eq (d e : Date) : d.order e = compare d.dayNumber e.dayNumber := by
  have inYear (d : Date) : daysBeforeYear d.year + (daysBeforeMonth d.year d.month + (d.day - 1)) <
      daysBeforeYear (d.year + 1) := by
    have := dayNumber_lt_daysBeforeYear (Nat.le_refl d.year)
    unfold dayNumber at this
    omega
  have inMonth (d : Date) : daysBeforeMonth d.year d.month + (d.day - 1) <
      daysBeforeMonth d.year (d.month + 1) := by
    have := d.day_valid
    rw [daysBeforeMonth_succ d.year d.month_valid.1]
    omega
  have days : compare d.day e.day = compare (d.day - 1) (e.day - 1) := by
    rw [← compare_add_left 1 (d.day - 1), Nat.add_sub_cancel' d.day_valid.1,
      Nat.add_sub_cancel' e.day_valid.1]
  unfold order dayNumber
  rw [Nat.add_assoc, Nat.add_assoc]
  refine compare_then daysBeforeYear_le (inYear d) (inYear e) fun year => ?_
  -- the months of one year begin on the same days
  have months := inMonth e
  rw [← year] at months ⊢
  exact compare_then (daysBeforeMonth_le d.year) (inMonth d) months fun _ => days

theorem ClockTime.order_eq (s t : ClockTime) : s.order t = compare s.count t.count := by
  have seconds := compare_then_mod (n := 1000000) s.micros t.micros 60 (by decide) rfl
  have minutes := compare_then_mod (n := 60000000) s.micros t.micros 60 (by decide) seconds
  have hours := compare_then_div (n := 3600000000) s.micros t.micros (by decide) minutes
  unfold order
  rw [Date.order_eq]
  exact compare_then_mul s.micros_lt t.micros_lt hours

/-! ## Instants -/

namespace ZonedTime

variable {s t u : ZonedTime} {a : Int}

/-- The microseconds since the first day began in universal time. -/
def instant (t : ZonedTime) : Int := t.clock.count - t.offset.micros

theorem microsTo_eq (s t : ZonedTime) : s.microsTo t = t.instant - s.instant := by
  unfold microsTo instant ClockTime.count microsPerDay
  omega

/-- Times are in order of their instants, on one clock and on different ones. -/
theorem notAfter_iff : s.notAfter t = true ↔ s.instant ≤ t.instant := by
  unfold notAfter
  split
  · next same =>
    rw [ClockTime.order_eq, Nat.isLE_compare]
    unfold instant
    rw [same]
    omega
  · rw [decide_eq_true_iff, microsTo_eq]
    omega

theorem instant_of_shift? (h : t.shift? a = some u) : u.instant = t.instant + a := by
  obtain ⟨clock, shown, rfl⟩ := Option.map_eq_some_iff.1 h
  unfold instant
  simp only [ClockTime.count_of_ofCount? shown]
  omega

end ZonedTime

namespace GivenTime

variable {s t : GivenTime} {a b : Int}

/-- The microseconds since the first day began in universal time: those of the days that have passed
on the clock, month by month, and of the day, less what the clock is ahead. What a clock without an
offset shows is universal time. -/
def instant (t : GivenTime) : Int :=
  let shown : Nat := t.clock.date.elapsed * 86400000000 + t.clock.micros
  match t.offset with
  | none => shown
  | some offset => shown - offset.micros

theorem instant_zoned (t : GivenTime) : t.zoned.instant = t.instant := by
  unfold zoned ZonedTime.instant instant
  rw [← Date.dayNumber_eq_elapsed]
  cases t.offset with
  | none => exact Int.sub_zero _
  | some offset => rfl

/-- The same clock shows some time that is `a` microseconds later. -/
def Reaches (t : GivenTime) (a : Int) : Prop :=
  ∃ u : GivenTime, u.offset = t.offset ∧ u.instant = t.instant + a

theorem reaches_iff : t.Reaches a ↔ 0 ≤ t.clock.count + a ∧
    t.clock.count + a < DateTime.clockEnd := by
  constructor
  · rintro ⟨u, same, later⟩
    have shown : (u.clock.count : Int) = t.clock.count + a := by
      rw [← instant_zoned, ← instant_zoned] at later
      simp only [zoned, ZonedTime.instant, same] at later
      omega
    rw [← shown]
    exact ⟨Int.natCast_nonneg _, u.clock.count_lt⟩
  · rintro ⟨low, high⟩
    obtain ⟨clock, shown⟩ := ClockTime.exists_ofCount? low high
    refine ⟨⟨clock, t.offset⟩, rfl, ?_⟩
    rw [← instant_zoned, ← instant_zoned]
    simp only [zoned, ZonedTime.instant, ClockTime.count_of_ofCount? shown]
    omega

/-- A time can be shifted just to where its clock reaches. -/
theorem shift?_eq_none_iff : t.zoned.shift? a = none ↔ ¬ t.Reaches a := by
  unfold ZonedTime.shift?
  rw [Option.map_eq_none_iff, ClockTime.ofCount?_eq_none_iff, reaches_iff]
  rfl

/-- What a clock reaches it reaches on the way to what is further back. -/
theorem Reaches.closer (back : t.Reaches (-b)) (nonneg : 0 ≤ a) (closer : a ≤ b) :
    t.Reaches (-a) := by
  rw [reaches_iff] at back ⊢
  have := t.clock.count_lt
  omega

end GivenTime

/-! ## Offsets in minutes -/

namespace DateTime

variable {s t : DateTime} {a : Int}

theorem instant_given (t : DateTime) : t.given.instant = t.instant := (t.given.instant_zoned).symm

theorem shift?_given (t : DateTime) (a : Int) :
    t.given.zoned.shift? a = (t.shift? a).map fun u => u.given.zoned := by
  unfold shift? ofClock? ZonedTime.shift?
  rw [dif_pos t.offset_valid, Option.map_map]
  rfl

theorem notAfter_given (s t : DateTime) : s.given.zoned.notAfter t.given.zoned = s.notAfter t := by
  rw [Bool.eq_iff_iff, ZonedTime.notAfter_iff, GivenTime.instant_zoned, GivenTime.instant_zoned,
    notAfter, decide_eq_true_iff, instant_given, instant_given]

end DateTime

end TokenBroker
