import TokenBroker.Time.DateTime
import Mathlib.Algebra.Order.Group.Nat

/-!
# Counting days and microseconds

`Date.ofDayNumber?` finds the date of every count of days below `Calendar.dayCount`
(`Date.exists_ofDayNumber?`), and what it finds has that count (`Date.dayNumber_of_ofDayNumber?`),
which is the number of days in the months and years before (`Date.dayNumber_eq_elapsed`). So adding
a duration to a time has a result just when the local clock stays within the calendar
(`DateTime.exists_shift?`), and the result is that much later (`DateTime.instant_of_shift?`).
-/

namespace TokenBroker

namespace Calendar

theorem daysBeforeYear_add_one (y : Nat) :
    daysBeforeYear (y + 1) = y * 365 + y / 4 - y / 100 + y / 400 := rfl

theorem isLeapYear_iff (y : Nat) :
    isLeapYear y = true ↔ 4 ∣ y ∧ (¬ 100 ∣ y ∨ 400 ∣ y) := by
  simp only [isLeapYear, Bool.and_eq_true, Bool.or_eq_true, beq_iff_eq, bne_iff_ne,
    Nat.dvd_iff_mod_eq_zero, ne_eq]

theorem daysBeforeYear_succ {y : Nat} (h : 1 ≤ y) :
    daysBeforeYear (y + 1) = daysBeforeYear y + (if isLeapYear y then 366 else 365) := by
  obtain ⟨p, rfl⟩ : ∃ p, y = p + 1 := ⟨y - 1, by omega⟩
  have fourth : p / 100 ≤ p / 4 := Nat.div_le_div_left (by decide) (by decide)
  have century : 100 ∣ p + 1 → 4 ∣ p + 1 := (Nat.dvd_trans (by decide) ·)
  have era : 400 ∣ p + 1 → 100 ∣ p + 1 := (Nat.dvd_trans (by decide) ·)
  simp only [daysBeforeYear_add_one, isLeapYear_iff, Nat.succ_div]
  -- the leap day is counted just in the years that the three quotients count
  by_cases h4 : 4 ∣ p + 1
  · by_cases h100 : 100 ∣ p + 1
    · by_cases h400 : 400 ∣ p + 1
      · simp only [h4, h100, h400, not_true_eq_false, false_or, and_self, if_true]
        omega
      · simp only [h4, h100, h400, not_true_eq_false, or_self, and_false, if_true, if_false]
        omega
    · have h400 := mt era h100
      simp only [h4, h100, h400, not_false_eq_true, true_or, and_self, if_true, if_false]
      omega
  · have h100 := mt century h4
    have h400 := mt era h100
    simp only [h4, h100, h400, false_and, if_false]
    omega

theorem daysBeforeYear_le {y z : Nat} (h : y ≤ z) : daysBeforeYear y ≤ daysBeforeYear z := by
  induction h with
  | refl => exact Nat.le_refl _
  | @step z _ ih =>
    cases z with
    | zero => exact ih
    | succ z =>
      rw [daysBeforeYear_succ (Nat.le_add_left 1 z)]
      exact Nat.le_add_right_of_le ih

/-- If all years were leap years, this would be the year of the day `n`. -/
theorem daysBeforeYear_guess_le (n : Nat) : daysBeforeYear (n / 366 + 1) ≤ n := by
  rw [daysBeforeYear_add_one]
  omega

/-- The guess is at most 28 years early. -/
theorem lt_daysBeforeYear_guess {n : Nat} (h : n < dayCount) :
    n < daysBeforeYear (n / 366 + 1 + 28 + 1) := by
  have : n < 3652059 := h
  rw [daysBeforeYear_add_one]
  omega

/-- The twelve months make up the year. -/
theorem daysBeforeYear_add_months {y : Nat} (h : 1 ≤ y) :
    daysBeforeYear y + daysBeforeMonth y 13 = daysBeforeYear (y + 1) := by
  rw [daysBeforeYear_succ h]
  simp only [daysBeforeMonth, daysInMonth]
  split
  · rfl
  · rfl

theorem daysBeforeMonth_succ (y : Nat) {m : Nat} (h : 1 ≤ m) :
    daysBeforeMonth y (m + 1) = daysBeforeMonth y m + daysInMonth y m := by
  cases m with
  | zero => omega
  | succ m => rfl

theorem daysBeforeMonth_le (y : Nat) {m n : Nat} (h : m ≤ n) :
    daysBeforeMonth y m ≤ daysBeforeMonth y n := by
  induction h with
  | refl => exact Nat.le_refl _
  | @step n _ ih =>
    refine Nat.le_trans ih ?_
    cases n with
    | zero => exact Nat.le_refl _
    | succ n => exact Nat.le_add_right _ _

/-! ## Days counted month by month -/

/-- The sum of `f 1` to `f n`. -/
def total (f : Nat → Nat) : Nat → Nat
  | 0 => 0
  | n + 1 => total f n + f (n + 1)

/-- The days of the twelve months of a year. -/
def daysInYear (year : Nat) : Nat := total (daysInMonth year) 12

theorem daysBeforeMonth_eq_total (y m : Nat) :
    daysBeforeMonth y (m + 1) = total (daysInMonth y) m := by
  induction m with
  | zero => rfl
  | succ m ih => rw [daysBeforeMonth_succ y (Nat.le_add_left 1 m), ih, total]

theorem daysBeforeYear_eq_total (n : Nat) : daysBeforeYear (n + 1) = total daysInYear n := by
  induction n with
  | zero => rfl
  | succ n ih =>
    have year : daysBeforeMonth (n + 1) 13 = daysInYear (n + 1) :=
      daysBeforeMonth_eq_total (n + 1) 12
    rw [← daysBeforeYear_add_months (Nat.le_add_left 1 n), ih, year, total]

end Calendar

open Calendar

namespace Date

variable {n y m : Nat}

/-! ## The search for year and month -/

theorem daysBeforeYear_yearOf_le (fuel : Nat) (h : daysBeforeYear y ≤ n) :
    daysBeforeYear (yearOf n fuel y) ≤ n := by
  induction fuel generalizing y with
  | zero => exact h
  | succ fuel ih =>
    unfold yearOf
    split
    · next later => exact ih later
    · exact h

theorem le_yearOf (n fuel y : Nat) : y ≤ yearOf n fuel y := by
  induction fuel generalizing y with
  | zero => exact Nat.le_refl y
  | succ fuel ih =>
    unfold yearOf
    split
    · exact Nat.le_trans (Nat.le_succ y) (ih (y + 1))
    · exact Nat.le_refl y

/-- With fuel enough the search ends in the year of the day. -/
theorem lt_daysBeforeYear_yearOf (fuel : Nat) (h : n < daysBeforeYear (y + fuel + 1)) :
    n < daysBeforeYear (yearOf n fuel y + 1) := by
  induction fuel generalizing y with
  | zero => exact h
  | succ fuel ih =>
    unfold yearOf
    split
    · exact ih (by rwa [Nat.add_right_comm y 1 fuel])
    · next early => exact Nat.lt_of_not_le early

theorem daysBeforeMonth_monthOf_le (fuel : Nat) (h : daysBeforeMonth y m ≤ n) :
    daysBeforeMonth y (monthOf y n fuel m) ≤ n := by
  induction fuel generalizing m with
  | zero => exact h
  | succ fuel ih =>
    unfold monthOf
    split
    · next later => exact ih later
    · exact h

theorem le_monthOf (y n fuel m : Nat) : m ≤ monthOf y n fuel m := by
  induction fuel generalizing m with
  | zero => exact Nat.le_refl m
  | succ fuel ih =>
    unfold monthOf
    split
    · exact Nat.le_trans (Nat.le_succ m) (ih (m + 1))
    · exact Nat.le_refl m

theorem monthOf_le (y n fuel m : Nat) : monthOf y n fuel m ≤ m + fuel := by
  induction fuel generalizing m with
  | zero => exact Nat.le_refl m
  | succ fuel ih =>
    unfold monthOf
    split
    · have := ih (m + 1)
      omega
    · omega

theorem lt_daysBeforeMonth_monthOf (fuel : Nat) (h : n < daysBeforeMonth y (m + fuel + 1)) :
    n < daysBeforeMonth y (monthOf y n fuel m + 1) := by
  induction fuel generalizing m with
  | zero => exact h
  | succ fuel ih =>
    unfold monthOf
    split
    · exact ih (by rwa [Nat.add_right_comm m 1 fuel])
    · next early => exact Nat.lt_of_not_le early

/-! ## Dates and their numbers -/

theorem ofParts?_eq_some {d : Date} {day : Nat} (h : ofParts? y m day = some d) :
    d.year = y ∧ d.month = m ∧ d.day = day := by
  unfold ofParts? at h
  split at h
  · cases h
    exact ⟨rfl, rfl, rfl⟩
  · cases h

@[simp] theorem ofParts?_self (d : Date) : ofParts? d.year d.month d.day = some d := by
  unfold ofParts?
  rw [dif_pos ⟨d.year_valid, d.month_valid, d.day_valid⟩]

theorem dayNumber_of_ofDayNumber? {d : Date} (h : ofDayNumber? n = some d) : d.dayNumber = n := by
  obtain ⟨hy, hm, hd⟩ := ofParts?_eq_some h
  have year := daysBeforeYear_yearOf_le 28 (daysBeforeYear_guess_le n)
  have month : daysBeforeMonth d.year d.month ≤ n - daysBeforeYear d.year := by
    rw [hm, hy]
    exact daysBeforeMonth_monthOf_le 11 (Nat.zero_le _)
  rw [← hy] at year
  unfold dayNumber
  rw [← hm, ← hy] at hd
  omega

/-- Every day of the calendar has a date. -/
theorem exists_ofDayNumber? (h : n < dayCount) : ∃ d, ofDayNumber? n = some d := by
  have one_le : 1 ≤ yearOf n 28 (n / 366 + 1) :=
    Nat.le_trans (Nat.le_add_left 1 _) (le_yearOf n 28 _)
  have year := daysBeforeYear_yearOf_le 28 (daysBeforeYear_guess_le n)
  have next := lt_daysBeforeYear_yearOf 28 (lt_daysBeforeYear_guess h)
  generalize hy : yearOf n 28 (n / 366 + 1) = y at one_le year next
  have last : y ≤ lastYear := by
    refine Nat.le_of_not_lt fun late => ?_
    have := daysBeforeYear_le (show lastYear + 1 ≤ y from late)
    have : n < daysBeforeYear (lastYear + 1) := h
    omega
  have rest : n - daysBeforeYear y < daysBeforeMonth y 13 := by
    have := daysBeforeYear_add_months one_le
    omega
  have first := le_monthOf y (n - daysBeforeYear y) 11 1
  have twelve := monthOf_le y (n - daysBeforeYear y) 11 1
  have low : daysBeforeMonth y (monthOf y (n - daysBeforeYear y) 11 1) ≤ n - daysBeforeYear y :=
    daysBeforeMonth_monthOf_le 11 (Nat.zero_le _)
  have high := lt_daysBeforeMonth_monthOf (m := 1) 11 rest
  unfold ofDayNumber?
  simp only [hy]
  generalize monthOf y (n - daysBeforeYear y) 11 1 = m at first twelve low high
  rw [daysBeforeMonth_succ y first] at high
  unfold ofParts?
  rw [dif_pos ⟨⟨one_le, last⟩, ⟨first, twelve⟩, Nat.le_add_left 1 _, by omega⟩]
  exact ⟨_, rfl⟩

theorem dayNumber_lt_daysBeforeYear {d : Date} (h : d.year ≤ y) :
    d.dayNumber < daysBeforeYear (y + 1) := by
  have hm := daysBeforeMonth_succ d.year d.month_valid.1
  have months : daysBeforeMonth d.year (d.month + 1) ≤ daysBeforeMonth d.year 13 :=
    daysBeforeMonth_le d.year (Nat.succ_le_succ d.month_valid.2)
  have year := daysBeforeYear_add_months d.year_valid.1
  have last : daysBeforeYear (d.year + 1) ≤ daysBeforeYear (y + 1) :=
    daysBeforeYear_le (Nat.succ_le_succ h)
  have hd := d.day_valid
  unfold dayNumber
  omega

theorem dayNumber_lt (d : Date) : d.dayNumber < dayCount :=
  dayNumber_lt_daysBeforeYear d.year_valid.2

/-- The days of the years before a date, of the months before it in its year, and of its month
before it. -/
def elapsed (d : Date) : Nat :=
  total daysInYear (d.year - 1) + total (daysInMonth d.year) (d.month - 1) + (d.day - 1)

theorem dayNumber_eq_elapsed (d : Date) : d.dayNumber = d.elapsed := by
  unfold dayNumber elapsed
  rw [← daysBeforeYear_eq_total, ← daysBeforeMonth_eq_total, Nat.sub_add_cancel d.year_valid.1,
    Nat.sub_add_cancel d.month_valid.1]

end Date

/-- The microseconds from the first day to the end of the calendar. -/
def DateTime.clockEnd : Int := (dayCount * microsPerDay : Nat)

namespace ClockTime

variable {t : ClockTime} {micros : Int}

theorem count_lt_of_dayNumber {n : Nat} (h : t.date.dayNumber < n) :
    t.count < n * microsPerDay := by
  have hm := t.micros_lt
  have := Nat.mul_le_mul_right microsPerDay (Nat.succ_le_of_lt h)
  rw [Nat.succ_mul] at this
  unfold count
  omega

theorem count_lt (t : ClockTime) : (t.count : Int) < DateTime.clockEnd :=
  Int.ofNat_lt.2 (count_lt_of_dayNumber t.date.dayNumber_lt)

theorem count_of_ofCount? (h : ofCount? micros = some t) : (t.count : Int) = micros := by
  unfold ofCount? at h
  split at h
  · next low =>
    obtain ⟨d, hd, rfl⟩ := Option.map_eq_some_iff.1 h
    unfold count
    rw [Date.dayNumber_of_ofDayNumber? hd, Nat.mul_comm, Nat.div_add_mod]
    exact Int.toNat_of_nonneg low
  · cases h

/-- Every count of microseconds of the calendar is shown by a clock. -/
theorem exists_ofCount? (low : 0 ≤ micros) (high : micros < DateTime.clockEnd) :
    ∃ t, ofCount? micros = some t := by
  have days : micros.toNat / microsPerDay < dayCount := by
    rw [Nat.div_lt_iff_lt_mul (by decide)]
    unfold DateTime.clockEnd at high
    omega
  obtain ⟨d, hd⟩ := Date.exists_ofDayNumber? days
  unfold ofCount?
  rw [if_pos low, hd]
  exact ⟨_, rfl⟩

/-- No clock shows what is not in the calendar. -/
theorem ofCount?_eq_none_iff : ofCount? micros = none ↔
    ¬ (0 ≤ micros ∧ micros < DateTime.clockEnd) := by
  constructor
  · intro beyond within
    obtain ⟨t, shown⟩ := exists_ofCount? within.1 within.2
    rw [beyond] at shown
    cases shown
  · intro beyond
    refine Option.eq_none_iff_forall_ne_some.2 fun t shown => beyond ?_
    rw [← count_of_ofCount? shown]
    exact ⟨Int.natCast_nonneg _, t.count_lt⟩

end ClockTime

namespace DateTime

variable {s t u : DateTime} {a micros offset : Int}

/-! ## Order -/

@[simp] theorem notAfter_refl (t : DateTime) : t.notAfter t = true := by
  simp [notAfter]

theorem notAfter_trans (hst : s.notAfter t = true) (htu : t.notAfter u = true) :
    s.notAfter u = true := by
  simp only [notAfter, decide_eq_true_eq] at hst htu ⊢
  exact Int.le_trans hst htu

/-! ## Shifting a time -/

theorem onClock_nonneg (t : DateTime) : 0 ≤ t.onClock := Int.natCast_nonneg _

theorem onClock_lt_of_dayNumber {n : Nat} (h : t.date.dayNumber < n) :
    t.onClock < (n * microsPerDay : Nat) :=
  Int.ofNat_lt.2 (ClockTime.count_lt_of_dayNumber (t := t.given.clock) h)

theorem onClock_lt (t : DateTime) : t.onClock < clockEnd :=
  onClock_lt_of_dayNumber t.date.dayNumber_lt

theorem ofClock?_eq_some (h : ofClock? micros offset = some u) :
    u.onClock = micros ∧ u.offset = offset := by
  unfold ofClock? at h
  split at h
  · obtain ⟨clock, shown, rfl⟩ := Option.map_eq_some_iff.1 h
    exact ⟨ClockTime.count_of_ofCount? shown, rfl⟩
  · cases h

theorem exists_ofClock? (valid : -1440 < offset ∧ offset < 1440) (low : 0 ≤ micros)
    (high : micros < clockEnd) : ∃ u, ofClock? micros offset = some u := by
  obtain ⟨clock, shown⟩ := ClockTime.exists_ofCount? low high
  unfold ofClock?
  rw [dif_pos valid, shown]
  exact ⟨_, rfl⟩

theorem onClock_of_shift? (h : t.shift? a = some u) : u.onClock = t.onClock + a :=
  (ofClock?_eq_some h).1

theorem offset_of_shift? (h : t.shift? a = some u) : u.offset = t.offset :=
  (ofClock?_eq_some h).2

theorem instant_of_shift? (h : t.shift? a = some u) : u.instant = t.instant + a := by
  unfold instant
  rw [onClock_of_shift? h, offset_of_shift? h]
  omega

/-- A time can be shifted as long as its clock stays within the calendar. -/
theorem exists_shift? (t : DateTime) (low : 0 ≤ t.onClock + a) (high : t.onClock + a < clockEnd) :
    ∃ u, t.shift? a = some u :=
  exists_ofClock? t.offset_valid low high

/-- A time that stands still or moves on does not go back. -/
theorem notAfter_shift? (t : DateTime) (h : 0 ≤ a) : t.notAfter ((t.shift? a).getD t) = true := by
  cases shifted : t.shift? a with
  | none => exact t.notAfter_refl
  | some later =>
    have instant := instant_of_shift? shifted
    simp only [Option.getD_some, notAfter, decide_eq_true_eq]
    omega

end DateTime

end TokenBroker
