import TokenBroker.Text.Wide

/-!
# Punycode

Text as its ASCII characters, a hyphen, and a row of numbers that tell where the other characters
go, in the order of their code points. A number has digits to the base 36, the least first, and ends
at the first digit below a threshold, which moves with the numbers before.
-/

namespace TokenBroker

namespace Text

namespace Punycode

/-- The value of a digit, in which a letter's case does not count. -/
def digit? (b : Nat) : Option Nat :=
  let c := Char.ofNat b
  if c.isUpper then some (b - 0x41)
  else if c.isLower then some (b - 0x61)
  else if c.isDigit then some (b - 0x30 + 26)
  else none

/-- The threshold of the digit at a position. -/
def threshold (position bias : Nat) : Nat := min (max (36 * (position + 1) - bias) 1) 26

/-- The number at the front of some digits, and the rest after it. -/
def number? (bias : Nat) : List Nat → (position scale sum : Nat) → Option (Nat × List Nat)
  | [], _, _, _ => none
  | b :: bs, position, scale, sum => do
    let d ← digit? b
    let sum := sum + d * scale
    let limit := threshold position bias
    if d < limit then some (sum, bs) else number? bias bs (position + 1) (scale * (36 - limit)) sum

/-- A number takes at least one digit. -/
theorem number?_shorter {bias : Nat} {bs rest : List Nat} {position scale sum n : Nat}
    (h : number? bias bs position scale sum = some (n, rest)) : rest.length < bs.length := by
  induction bs generalizing position scale sum with
  | nil => simp [number?] at h
  | cons b bs ih =>
    simp only [number?, Option.bind_eq_bind, Option.bind_eq_some_iff] at h
    obtain ⟨d, _, h⟩ := h
    split at h
    · obtain ⟨_, rfl⟩ := Prod.mk.inj (Option.some.inj h)
      simp
    · exact Nat.lt_succ_of_lt (ih h)

/-- Divides by 35 down to 455, and counts by 36. -/
def reduce (delta : Nat) : Nat × Nat :=
  if 455 < delta then
    let (last, count) := reduce (delta / 35)
    (last, count + 36)
  else (delta, 0)
termination_by delta
decreasing_by exact Nat.div_lt_self (by omega) (by omega)

/-- The bias after a number that led to `length` characters. -/
def adapt (delta : Nat) (first : Bool) (length : Nat) : Nat :=
  let scaled := if first then delta / 700 else delta / 2
  let (last, count) := reduce (scaled + scaled / length)
  count + 36 * last / (last + 38)

/-- Code points read so far, and whether all numbers could be read. -/
structure Outcome where
  points : List Nat
  complete : Bool

/-- The code point that takes the place of one that is too large. -/
def questionMark : Nat := 0x3F

/-- Puts the characters of the numbers in. A number counts the places from the last one, through all
code points since. -/
def insert (points : List Nat) (point place bias : Nat) (first complete : Bool) (bs : List Nat) :
    Outcome :=
  if bs.isEmpty then ⟨points, complete⟩
  else
    match h : number? bias bs 0 1 0 with
    | none => ⟨points, false⟩
    | some (delta, rest) =>
      let length := points.length + 1
      let place := place + delta
      let next := point + place / length
      let tooLarge := pastCodePoints ≤ next
      let next := if tooLarge then questionMark else next
      insert (points.insertIdx (place % length) next) next (place % length + 1)
        (adapt delta first length) false (complete && !tooLarge) rest
termination_by bs.length
decreasing_by exact number?_shorter h

/-- The bytes before the last hyphen, and those after it. -/
def split (bs : List Nat) : List Nat × List Nat :=
  let after := (bs.reverse.takeWhile (· ≠ 0x2D)).reverse
  if after.length = bs.length then ([], bs) else (bs.take (bs.length - after.length - 1), after)

/-- The characters of bytes up to the first number that cannot be read, and whether there is none;
or the position among the numbers of a byte that is not ASCII, and the byte. -/
def read (bs : List Nat) : Except (Nat × Nat) (List (Option Char) × Bool) :=
  let (plain, numbers) := split bs
  match numbers.findIdx? (0x80 ≤ ·) with
  | some i => .error (i, numbers[i]?.getD 0)
  | none =>
    let known := plain.map fun b => if b < 0x80 then b else 0xFFFD
    let outcome := insert known 0x80 0 72 true (plain.all (· < 0x80)) numbers
    .ok (ofUnits16 false outcome.points, outcome.complete)

end Punycode

end Text

end TokenBroker
