import TokenBroker.Time.Calendar

/-!
# Clocks

What a clock shows, and times on clocks whose distance from universal time is known to the
microsecond. Two times on clocks with one offset are compared as the clocks show them, field by
field, and other times by their difference; a duration is added on the clock. A time may be given
without an offset, and is then one in universal time.
-/

namespace TokenBroker

/-- The number of microseconds of a day. -/
def microsPerDay : Nat := 86400000000

/-- A date and a time of day in microseconds. -/
structure ClockTime where
  date : Date
  micros : Nat
  micros_lt : micros < microsPerDay

namespace ClockTime

/-- The microseconds that the clock has shown since the first day began. -/
def count (t : ClockTime) : Nat := t.date.dayNumber * microsPerDay + t.micros

/-- What a clock shows after a count of microseconds. -/
def ofCount? (micros : Int) : Option ClockTime :=
  if 0 ≤ micros then
    (Date.ofDayNumber? (micros.toNat / microsPerDay)).map fun date =>
      ⟨date, micros.toNat % microsPerDay, Nat.mod_lt _ (by decide)⟩
  else none

def hour (t : ClockTime) : Nat := t.micros / 3600000000

def minute (t : ClockTime) : Nat := t.micros / 60000000 % 60

def second (t : ClockTime) : Nat := t.micros / 1000000 % 60

def microsecond (t : ClockTime) : Nat := t.micros % 1000000

/-- Two clocks in order of what they show, the year first and the microsecond last. -/
def order (s t : ClockTime) : Ordering :=
  (s.date.order t.date).then <| (compare s.hour t.hour).then <| (compare s.minute t.minute).then <|
    (compare s.second t.second).then <| compare s.microsecond t.microsecond

end ClockTime

/-- How far a clock is ahead of universal time, in microseconds. It is less than a day. -/
structure Offset where
  micros : Int
  valid : -microsPerDay < micros ∧ micros < microsPerDay
  deriving DecidableEq

namespace Offset

/-- The offset of universal time. -/
def zero : Offset := ⟨0, by decide⟩

/-- An offset in minutes. -/
def ofMinutes (n : Int) (h : -1440 < n ∧ n < 1440) : Offset :=
  ⟨n * 60000000, by unfold microsPerDay; omega⟩

end Offset

/-- A time on a clock with a known offset. -/
structure ZonedTime where
  clock : ClockTime
  offset : Offset

namespace ZonedTime

/-- The time a number of microseconds later on the same clock. -/
def shift? (t : ZonedTime) (micros : Int) : Option ZonedTime :=
  (ClockTime.ofCount? (t.clock.count + micros)).map fun clock => ⟨clock, t.offset⟩

/-- The microseconds from one time to another: what lies between the days, what lies between the
times of day, and what lies between the offsets. -/
def microsTo (s t : ZonedTime) : Int :=
  ((t.clock.date.dayNumber : Int) - s.clock.date.dayNumber) * microsPerDay +
    ((t.clock.micros : Int) - s.clock.micros) + (s.offset.micros - t.offset.micros)

/-- Whether one time is no later than another. -/
def notAfter (s t : ZonedTime) : Bool :=
  if s.offset = t.offset then (s.clock.order t.clock).isLE else 0 ≤ s.microsTo t

end ZonedTime

/-- A time as it is given, with an offset or without. -/
structure GivenTime where
  clock : ClockTime
  offset : Option Offset

namespace GivenTime

/-- The time on its clock; without an offset that clock shows universal time. -/
def zoned (t : GivenTime) : ZonedTime := ⟨t.clock, t.offset.getD .zero⟩

end GivenTime

end TokenBroker
