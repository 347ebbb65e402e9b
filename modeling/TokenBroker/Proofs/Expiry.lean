import TokenBroker.Proofs.Time.Instants
import TokenBroker.Token

/-!
# Expiry

Whether a lifetime is over is asked of clocks: a margin is taken off its end on the clock of that
end, and what is left is compared with another clock, in years, months, days and so on. The answer
is that of instants (`AccessToken.isOver_of_reaches`), as long as the clock of the end shows what is
left. So nothing else about the two times matters, neither how far their clocks are ahead nor
whether that is said (`AccessToken.expiry_exact_on_instants`).
-/

namespace TokenBroker

namespace AccessToken

variable {expiresAt now : GivenTime} {skew : Int}

theorem isOver_of_reaches (within : expiresAt.Reaches (-skew)) (now : GivenTime) :
    isOver (some expiresAt) now skew = .ok (decide (expiresAt.instant ≤ now.instant + skew)) := by
  cases shifted : expiresAt.zoned.shift? (-skew) with
  | none => exact absurd within (GivenTime.shift?_eq_none_iff.1 shifted)
  | some limit =>
    have back := ZonedTime.instant_of_shift? shifted
    simp only [isOver, shifted]
    rw [Except.ok.injEq, Bool.eq_iff_iff, ZonedTime.notAfter_iff, decide_eq_true_iff, back,
      GivenTime.instant_zoned, GivenTime.instant_zoned]
    omega

theorem isOver_of_not_reaches (beyond : ¬ expiresAt.Reaches (-skew)) (now : GivenTime) :
    isOver (some expiresAt) now skew = .error .dateOutOfRange := by
  simp only [isOver, GivenTime.shift?_eq_none_iff.2 beyond]

/-- A margin reaches back to a time of the calendar unless it is more than the clock has ever
shown. -/
theorem isOver_eq (expiresAt now : GivenTime) (nonneg : 0 ≤ skew) :
    isOver (some expiresAt) now skew =
      if skew ≤ expiresAt.clock.count then .ok (decide (expiresAt.instant - skew ≤ now.instant))
      else .error .dateOutOfRange := by
  have reaches : expiresAt.Reaches (-skew) ↔ skew ≤ expiresAt.clock.count := by
    have high := expiresAt.clock.count_lt
    rw [GivenTime.reaches_iff]
    omega
  split
  · next within =>
    rw [isOver_of_reaches (reaches.2 within)]
    simp only [Int.sub_right_le_iff_le_add]
  · next beyond => exact isOver_of_not_reaches (mt reaches.1 beyond) now

/-- A token whose times have offsets in minutes is judged by the time at which its expiry begins. -/
theorem isExpired_eq_limit (t : AccessToken) (now : DateTime) (skew : Int) : t.isExpired now skew =
    match t.expiresAt with
    | none => .ok false
    | some expiresAt =>
      match expiresAt.shift? (-skew) with
      | none => .error .dateOutOfRange
      | some limit => .ok (limit.notAfter now) := by
  unfold isExpired isOver
  cases t.expiresAt with
  | none => rfl
  | some expiresAt =>
    simp only [Option.map_some, DateTime.shift?_given]
    cases expiresAt.shift? (-skew) with
    | none => rfl
    | some limit => exact congrArg Except.ok (limit.notAfter_given now)

/-- **Expiry is exact on instants.** Let the end of a lifetime and the present be given on any
clocks: clocks that are ahead of universal time by any number of microseconds less than a day, or
clocks without an offset, which show universal time. Instants are whole microseconds since the first
day began.

* If the clock of the end shows some time that is a margin before it, then the lifetime is over just
  if the present with the margin added has come to the end. On which clocks the two are given makes
  no difference. What is over is over at all later times, and with all wider margins that reach back
  on the clock. It is over at any time that is the margin before the end.
* A lifetime without an end is never over.
* A token is judged so by the end of its lifetime. -/
theorem expiry_exact_on_instants (now : GivenTime) (skew : Int) :
    (∀ expiresAt : GivenTime, expiresAt.Reaches (-skew) →
      isOver (some expiresAt) now skew = .ok (decide (expiresAt.instant ≤ now.instant + skew)) ∧
      (∀ expiresAt' now' : GivenTime, expiresAt'.instant = expiresAt.instant →
        now'.instant = now.instant →
        expiresAt'.Reaches (-skew) → isOver (some expiresAt') now' skew = isOver
          (some expiresAt) now skew) ∧
      (isOver (some expiresAt) now skew = .ok true →
        ∀ later : GivenTime, now.instant ≤ later.instant →
        isOver (some expiresAt) later skew = .ok true) ∧
      (∀ narrower, 0 ≤ narrower → narrower ≤ skew →
        isOver (some expiresAt) now narrower = .ok true →
        isOver (some expiresAt) now skew = .ok true) ∧
      ∀ limit : GivenTime, limit.instant = expiresAt.instant - skew →
        isOver (some expiresAt) limit skew = .ok true) ∧
      isOver none now skew = .ok false ∧
      ∀ (t : AccessToken) (time : DateTime), t.isExpired time skew =
        isOver (t.expiresAt.map DateTime.given) time.given skew := by
  refine ⟨fun expiresAt within => ?_, rfl, fun t time => rfl⟩
  have judged := isOver_of_reaches within
  refine ⟨judged now, ?_, ?_, ?_, ?_⟩
  · intro expiresAt' now' sameEnd sameTime within'
    rw [isOver_of_reaches within', judged now, sameEnd, sameTime]
  · intro past later notBefore
    simp only [judged, Except.ok.injEq, decide_eq_true_iff] at past ⊢
    omega
  · intro narrower low closer past
    -- on the way to the wider margin the clock shows the narrower one too
    rw [isOver_of_reaches (within.closer low closer)] at past
    simp only [judged, Except.ok.injEq, decide_eq_true_iff] at past ⊢
    omega
  · intro limit boundary
    simp only [judged, Except.ok.injEq, decide_eq_true_iff]
    omega

namespace MixedClocks

/-- The first of March after a leap day, on a clock that is ahead by a microsecond less than a
day. -/
def march : GivenTime where
  clock := ⟨⟨2028, 3, 1, by decide, by decide, by decide⟩, 1, by decide⟩
  offset := some ⟨86399999999, by decide⟩

/-- Two seconds before it, still on the leap day. -/
def leapDay : GivenTime where
  clock := ⟨⟨2028, 2, 29, by decide, by decide, by decide⟩, 86398000001, by decide⟩
  offset := march.offset

/-- The same time without an offset, a day earlier on its clock. -/
def eve : GivenTime where
  clock := ⟨⟨2028, 2, 28, by decide, by decide, by decide⟩, 86398000002, by decide⟩
  offset := none

/-- A microsecond before that. -/
def before : GivenTime where
  clock := ⟨⟨2028, 2, 28, by decide, by decide, by decide⟩, 86398000001, by decide⟩
  offset := none

end MixedClocks

open MixedClocks in
/-- A lifetime that ends in March on its clock is over two seconds early on the leap day of that
clock, which is the day before on a clock that shows universal time, and not a microsecond
sooner. -/
theorem over_across_leap_day :
    march.Reaches (-2000000) ∧ isOver (some march) leapDay 2000000 = .ok true ∧
      isOver (some march) eve 2000000 = .ok true ∧
      isOver (some march) before 2000000 = .ok false := by
  have early : leapDay.instant = march.instant - 2000000 ∧ eve.instant = leapDay.instant ∧
      before.instant = leapDay.instant - 1 := by
    simp only [← GivenTime.instant_zoned]
    decide
  obtain ⟨onLeapDay, onEve, sooner⟩ := early
  have within : march.Reaches (-2000000) := ⟨leapDay, rfl, onLeapDay⟩
  obtain ⟨judged, -, -, -, boundary⟩ := (expiry_exact_on_instants before 2000000).1 march within
  refine ⟨within, boundary leapDay onLeapDay, boundary eve (onEve.trans onLeapDay), ?_⟩
  rw [judged, sooner, onLeapDay, decide_eq_false (by omega)]

end AccessToken

end TokenBroker
