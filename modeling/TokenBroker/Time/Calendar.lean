/-!
# Calendar dates

Dates of the Gregorian calendar in the years 1 to 9999, counted by days from the first of them.
`Date.dayNumber` counts, and `Date.ofDayNumber?` gives back the date of a count.
-/

namespace TokenBroker

namespace Calendar

/-- Every fourth year, but only every fourth of the centuries. -/
def isLeapYear (year : Nat) : Bool :=
  year % 4 == 0 && (year % 100 != 0 || year % 400 == 0)

/-- The length of a month; the leap day is February's. -/
def daysInMonth (year : Nat) : Nat → Nat
  | 1 => 31
  | 2 => if isLeapYear year then 29 else 28
  | 3 => 31
  | 4 => 30
  | 5 => 31
  | 6 => 30
  | 7 => 31
  | 8 => 31
  | 9 => 30
  | 10 => 31
  | 11 => 30
  | 12 => 31
  | _ => 0

/-- The number of days before the first day of a year. -/
def daysBeforeYear (year : Nat) : Nat :=
  let y := year - 1
  y * 365 + y / 4 - y / 100 + y / 400

/-- The number of days of a year before the first day of a month. -/
def daysBeforeMonth (year : Nat) : Nat → Nat
  | 0 => 0
  | 1 => 0
  | month + 1 => daysBeforeMonth year month + daysInMonth year month

/-- The last year of the calendar. -/
def lastYear : Nat := 9999

/-- The number of days from the first day of the year 1 to the last of the year 9999. -/
def dayCount : Nat := daysBeforeYear (lastYear + 1)

end Calendar

open Calendar

/-- A date of the years 1 to 9999. -/
structure Date where
  year : Nat
  month : Nat
  day : Nat
  year_valid : 1 ≤ year ∧ year ≤ lastYear
  month_valid : 1 ≤ month ∧ month ≤ 12
  day_valid : 1 ≤ day ∧ day ≤ daysInMonth year month
  deriving DecidableEq

namespace Date

/-- The date of a year, month and day, if there is one. -/
def ofParts? (year month day : Nat) : Option Date :=
  if h : (1 ≤ year ∧ year ≤ lastYear) ∧ (1 ≤ month ∧ month ≤ 12) ∧
      (1 ≤ day ∧ day ≤ daysInMonth year month) then
    some ⟨year, month, day, h.1, h.2.1, h.2.2⟩
  else none

/-- The first day of all. -/
def first : Date := ⟨1, 1, 1, by decide, by decide, by decide⟩

instance : Inhabited Date := ⟨first⟩

/-- The number of days before the date. -/
def dayNumber (d : Date) : Nat :=
  daysBeforeYear d.year + daysBeforeMonth d.year d.month + (d.day - 1)

/-- Two dates in order of year, month and day. -/
def order (d e : Date) : Ordering :=
  (compare d.year e.year).then <| (compare d.month e.month).then <| compare d.day e.day

/-- The year, from `year` on, that the day `n` falls into. -/
def yearOf (n : Nat) : Nat → Nat → Nat
  | 0, year => year
  | fuel + 1, year => if daysBeforeYear (year + 1) ≤ n then yearOf n fuel (year + 1) else year

/-- The month, from `month` on, that the day `n` of a year falls into. -/
def monthOf (year n : Nat) : Nat → Nat → Nat
  | 0, month => month
  | fuel + 1, month =>
    if daysBeforeMonth year (month + 1) ≤ n then monthOf year n fuel (month + 1) else month

/-- The date with `n` days before it. The search for the year starts at the one that `n` days would
reach if all years were leap years, which is at most 28 years early. -/
def ofDayNumber? (n : Nat) : Option Date :=
  let year := yearOf n 28 (n / 366 + 1)
  let rest := n - daysBeforeYear year
  let month := monthOf year rest 11 1
  ofParts? year month (rest - daysBeforeMonth year month + 1)

end Date

end TokenBroker
