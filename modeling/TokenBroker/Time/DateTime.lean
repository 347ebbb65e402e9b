import TokenBroker.Time.Clock
import TokenBroker.Decimal.Notation

/-!
# Date and time

A date and a time of day to the microsecond, with the distance of the local clock from universal
time. Two of them are compared by the instant they denote; a duration is added on the local
calendar, and there is no result outside the years 1 to 9999.
-/

namespace TokenBroker

/-- A date, a time of day in microseconds, and the offset of its clock from universal time in
minutes. -/
structure DateTime where
  date : Date
  micros : Nat
  offset : Int
  micros_lt : micros < microsPerDay
  offset_valid : -1440 < offset ∧ offset < 1440
  deriving DecidableEq

namespace DateTime

instance : Inhabited DateTime := ⟨⟨.first, 0, 0, by decide, by decide⟩⟩

/-- The microseconds that the local clock has shown since the first day began. -/
def onClock (t : DateTime) : Int := (t.date.dayNumber * microsPerDay + t.micros : Nat)

/-- The microseconds since the first day began in universal time. -/
def instant (t : DateTime) : Int := t.onClock - t.offset * 60000000

/-- The time at which a clock with an offset shows a count of microseconds. -/
def ofClock? (micros offset : Int) : Option DateTime :=
  if h : -1440 < offset ∧ offset < 1440 then
    (ClockTime.ofCount? micros).map fun clock =>
      ⟨clock.date, clock.micros, offset, clock.micros_lt, h⟩
  else none

/-- The time a number of microseconds later on the same clock. -/
def shift? (t : DateTime) (micros : Int) : Option DateTime :=
  ofClock? (t.onClock + micros) t.offset

/-- Whether one instant is no later than another. -/
def notAfter (s t : DateTime) : Bool := s.instant ≤ t.instant

/-- The time with its offset in microseconds. -/
def given (t : DateTime) : GivenTime :=
  ⟨⟨t.date, t.micros, t.micros_lt⟩, some (.ofMinutes t.offset t.offset_valid)⟩

/-- A time whose offset is a number of minutes. -/
def ofZoned? (t : ZonedTime) : Option DateTime :=
  if h : 60000000 ∣ t.offset.micros then
    some ⟨t.clock.date, t.clock.micros, t.offset.micros / 60000000, t.clock.micros_lt, by
      have := t.offset.valid
      unfold microsPerDay at this
      omega⟩
  else none

/-! ## Written form -/

/-- How the offset of universal time is written. -/
inductive ZoneStyle
  /-- As `Z`. -/
  | letter
  /-- As `+00:00`. -/
  | numeric
  deriving DecidableEq, Repr

/-- A number in at least `width` digits. -/
def padded (width n : Nat) : List Char :=
  let ds := Binary64.digitsOf n
  List.replicate (width - ds.length) '0' ++ ds

/-- A written offset. -/
def zoneChars (style : ZoneStyle) (offset : Int) : List Char :=
  if offset = 0 ∧ style = .letter then ['Z']
  else
    (if offset < 0 then '-' else '+') ::
      (padded 2 (offset.natAbs / 60) ++ ':' :: padded 2 (offset.natAbs % 60))

/-- A date in digits. -/
def dateChars (d : Date) : List Char :=
  padded 4 d.year ++ '-' :: padded 2 d.month ++ '-' :: padded 2 d.day

/-- A time of day in digits; microseconds show only if there are any. -/
def timeChars (micros : Nat) : List Char :=
  let seconds := micros / 1000000
  let fraction := micros % 1000000
  padded 2 (seconds / 3600) ++ ':' :: padded 2 (seconds / 60 % 60) ++
    ':' :: padded 2 (seconds % 60) ++ (if fraction = 0 then [] else '.' :: padded 6 fraction)

/-- The text of a time. -/
def render (style : ZoneStyle) (t : DateTime) : String :=
  String.ofList (dateChars t.date ++ 'T' :: timeChars t.micros ++ zoneChars style t.offset)

/-- The text of a time with its offset in digits. -/
def text (t : DateTime) : String := t.render .numeric

/-- The time as digits of date and time of day, for names of files. -/
def stamp (t : DateTime) : String :=
  let seconds := t.micros / 1000000
  String.ofList (padded 4 t.date.year ++ padded 2 t.date.month ++ padded 2 t.date.day ++
    '-' :: (padded 2 (seconds / 3600) ++ padded 2 (seconds / 60 % 60) ++ padded 2 (seconds % 60)))

end DateTime

end TokenBroker
