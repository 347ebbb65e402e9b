import TokenBroker.Time.DateTime
import TokenBroker.Decimal.Numeral

/-!
# Reading date and time

A time as text is a date, optionally with a time of day and an offset, or the number of seconds or
milliseconds since the year 1970 in digits. A time without an offset is in universal time
(`GivenTime.zoned`).
-/

namespace TokenBroker

namespace DateTime

/-- Why a value is no time. -/
inductive ReadError
  /-- The text has neither form. -/
  | malformed
  /-- The value denotes no time of the calendar. -/
  | outOfRange
  deriving DecidableEq, Repr

/-- A number of exactly `width` ASCII digits at the front, and the rest. -/
def fixedDigits? (width : Nat) (cs : List Char) : Option (Nat × List Char) := do
  let front := cs.take width
  guard (front.length = width)
  let ds ← front.mapM Text.asciiDigitValue?
  return (Text.ofDigits ds, cs.drop width)

/-- The rest after a character of a class. -/
def afterChar? (p : Char → Bool) : List Char → Option (List Char)
  | c :: rest => if p c then some rest else none
  | [] => none

/-- Year, month and day at the front; the day must be one of its month. -/
def datePart? (cs : List Char) : Option ((Nat × Nat × Nat) × List Char) := do
  let (year, cs) ← fixedDigits? 4 cs
  let cs ← afterChar? (· == '-') cs
  let (month, cs) ← fixedDigits? 2 cs
  let cs ← afterChar? (· == '-') cs
  let (day, cs) ← fixedDigits? 2 cs
  guard (1 ≤ month ∧ month ≤ 12 ∧ 1 ≤ day ∧ day ≤ Calendar.daysInMonth year month)
  return ((year, month, day), cs)

/-- A fraction of a second in microseconds, after a point or comma; further digits are dropped. -/
def fractionPart? (cs : List Char) : Option (Nat × List Char) :=
  match cs with
  | c :: rest =>
    if c = '.' ∨ c = ',' then
      let ds := rest.takeWhile Char.isDigit
      if ds.isEmpty then none
      else
        let kept := (ds ++ List.replicate 6 '0').take 6
        some (Text.ofDigits (kept.map fun d => d.toNat - 0x30), rest.dropWhile Char.isDigit)
    else some (0, cs)
  | [] => some (0, [])

/-- A time of day in microseconds at the front; seconds and their fraction may be left out. -/
def timePart? (cs : List Char) : Option (Nat × List Char) := do
  let (hour, cs) ← fixedDigits? 2 cs
  let cs ← afterChar? (· == ':') cs
  let (minute, cs) ← fixedDigits? 2 cs
  guard (hour < 24 ∧ minute < 60)
  let base := (hour * 60 + minute) * 60
  match cs with
  | ':' :: cs => do
    let (second, cs) ← fixedDigits? 2 cs
    guard (second < 60)
    let (fraction, cs) ← fractionPart? cs
    return ((base + second) * 1000000 + fraction, cs)
  | _ => return (base * 1000000, cs)

/-- The offset that ends a text, in minutes, if there is one. The sign may be a hyphen or a minus
sign. -/
def zonePart? : List Char → Option (Option Int)
  | [] => some none
  | ['Z'] => some (some 0)
  | ['z'] => some (some 0)
  | sign :: cs => do
    guard (sign = '+' ∨ sign = '-' ∨ sign = '\u2212')
    let (hours, cs) ← fixedDigits? 2 cs
    let cs := (afterChar? (· == ':') cs).getD cs
    let (minutes, cs) ← fixedDigits? 2 cs
    guard (cs = [] ∧ hours < 24 ∧ minutes < 60)
    return some (Binary64.signed (sign ≠ '+') (hours * 60 + minutes))

/-- The parts of a text in calendar form: year, month, day, microseconds of the day, offset if there
is one. -/
def calendarForm? (cs : List Char) : Option (Nat × Nat × Nat × Nat × Option Int) := do
  let ((year, month, day), cs) ← datePart? cs
  match cs with
  | [] => return (year, month, day, 0, none)
  | _ => do
    let cs ← afterChar? (fun c => c == 'T' || c == 't' || c == ' ' || c == '_') cs
    let (micros, cs) ← timePart? cs
    let offset ← zonePart? cs
    return (year, month, day, micros, offset)

/-- The microseconds from the first day to the one from which Unix time counts. -/
def epochMicros : Int := 719162 * microsPerDay

/-- Beyond this magnitude a number counts milliseconds. -/
def largestSecond : Nat := 20000000000

/-- The microseconds of a unit that numbers of a magnitude of `num / den` count. -/
def microsPerUnit (num den : Nat) : Nat := if largestSecond * den < num then 1000 else 1000000

/-- The time of a number of microseconds since the year 1970. -/
def ofUnixMicros? (micros : Int) : Option DateTime := ofClock? (epochMicros + micros) 0

/-- The microseconds of an integer number of seconds or milliseconds. -/
def unixMicros (count : Int) : Int := count * microsPerUnit count.natAbs 1

/-- The natural nearest to a number that is not negative, a half going up. -/
def nearestUp (x : Binary64) : Nat :=
  match x with
  | .finite false significand exponent _ =>
    let (num, den) := Binary64.magnitude significand exponent
    (2 * num + den) / (2 * den)
  | _ => 0

/-- The microseconds of a number of seconds or milliseconds: those of the integer below it and those
of the fraction above that, the latter to the nearest. -/
def unixMicrosOfFraction? : Binary64 → Option Int
  | .finite negative significand exponent _ =>
    let (num, den) := Binary64.magnitude significand exponent
    let unit := microsPerUnit num den
    let count := Binary64.signed negative num
    let fraction := Binary64.ofRatio false (count.emod den).toNat den
    let (fn, fd) := match fraction with
      | .finite _ s e _ => Binary64.magnitude s e
      | _ => (0, 1)
    some (count.ediv den * unit + nearestUp (.ofRatio false (fn * unit) fd))
  | _ => none

/-- The time of an integer number of seconds or milliseconds. -/
def ofUnix? (count : Int) : Option DateTime := ofUnixMicros? (unixMicros count)

/-- The time of a number of seconds or milliseconds. -/
def ofUnixFraction? (x : Binary64) : Option DateTime := (unixMicrosOfFraction? x).bind ofUnixMicros?

/-- The microseconds since the year 1970 that a text in digits stands for: an integer of 63 bits, or
a decimal numeral with a point. -/
def digitsForm? (cs : List Char) : Option Int := do
  let (negative, digits) := Numeral.splitSign cs
  let (whole, fraction) := Numeral.splitAt (· == '.') digits
  let ws ← Numeral.plainDigits? whole
  let n := Text.ofDigits ws
  guard (n < Nat.pow 2 63)
  match fraction with
  | none => do
    guard (!ws.isEmpty)
    return unixMicros (Binary64.signed negative n)
  | some _ => unixMicrosOfFraction? (← Numeral.decimal? negative digits)

/-- The first microsecond of the year 0, counted from the year 1970. That year can be written but is
not in the calendar. -/
def yearZeroMicros : Int := -62167219200000000

/-- The time of the parts of a calendar form. -/
def ofParts? (year month day micros : Nat) (offset : Option Int) : Option GivenTime :=
  match Date.ofParts? year month day, offset with
  | some date, none =>
    if h : micros < microsPerDay then some ⟨⟨date, micros, h⟩, none⟩ else none
  | some date, some offset =>
    if h : micros < microsPerDay ∧ -1440 < offset ∧ offset < 1440 then
      some ⟨⟨date, micros, h.1⟩, some (.ofMinutes offset h.2)⟩
    else none
  | none, _ => none

/-- The time of a text, with an offset if the text has one. -/
def readGiven (text : String) : Except ReadError GivenTime :=
  let cs := text.toList
  match calendarForm? cs with
  | some (year, month, day, micros, offset) =>
    match ofParts? year month day micros offset with
    | some t => .ok t
    | none => .error .outOfRange
  | none =>
    match digitsForm? cs with
    | some micros =>
      match ofUnixMicros? micros with
      | some t => .ok t.given
      | none => .error (if yearZeroMicros ≤ micros ∧ micros < 0 then .outOfRange else .malformed)
    | none => .error .malformed

/-- The time of a text. Offsets are written in minutes, so that every one that has been read is a
number of them. -/
def read (text : String) : Except ReadError DateTime :=
  match readGiven text with
  | .ok t =>
    match ofZoned? t.zoned with
    | some t => .ok t
    | none => .error .outOfRange
  | .error e => .error e

end DateTime

end TokenBroker
