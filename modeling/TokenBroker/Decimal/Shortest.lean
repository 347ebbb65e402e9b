import TokenBroker.Decimal.Binary64

/-!
# Shortest decimals

The decimal with the fewest digits that reads back as a given binary number, and of several such the
one nearest to it. The reals that round to the number form an interval around it. A grid of decimals
with `n` digits has a point in the interval only if one of the number's two neighbours on the grid
is in it, so the first grid with such a neighbour gives the answer.
-/

namespace TokenBroker

namespace Binary64

/-- The reals that round to a number, as quotients by `den`; the ends belong to it if `closed`. -/
structure Interval where
  low : Nat
  value : Nat
  high : Nat
  den : Nat
  closed : Bool

/-- The interval of a finite number other than zero. Its lower half is shorter at a power of two,
where the numbers below lie closer together. The ends round to the even significand. -/
def interval (significand : Nat) (exponent : Int) : Interval :=
  let narrow := significand = Nat.pow 2 52 ∧ -1074 < exponent
  let unit := Nat.pow 2 (exponent - 2).toNat
  { low := (if narrow then 4 * significand - 1 else 4 * significand - 2) * unit
    value := 4 * significand * unit
    high := (4 * significand + 2) * unit
    den := Nat.pow 2 (2 - exponent).toNat
    closed := significand % 2 = 0 }

/-- The comparison of `a * 10 ^ grid` with `num / den`. -/
def compareOnGrid (a : Nat) (grid : Int) (num den : Nat) : Ordering :=
  if 0 ≤ grid then compare (a * Nat.pow 10 grid.toNat * den) num
  else compare (a * den) (num * Nat.pow 10 (-grid).toNat)

/-- Whether `a * 10 ^ grid` rounds to the number. -/
def Interval.holds (i : Interval) (grid : Int) (a : Nat) : Bool :=
  match compareOnGrid a grid i.low i.den, compareOnGrid a grid i.high i.den with
  | .gt, .lt => true
  | .eq, _ => i.closed
  | _, .eq => i.closed
  | _, _ => false

/-- The largest point of a grid that is not above the number. -/
def Interval.floorOn (i : Interval) (grid : Int) : Nat :=
  if 0 ≤ grid then i.value / (i.den * Nat.pow 10 grid.toNat)
  else i.value * Nat.pow 10 (-grid).toNat / i.den

/-- The nearer of the points `a` and `a + 1`, the even one of two. -/
def Interval.nearer (i : Interval) (grid : Int) (a : Nat) : Nat :=
  match compareOnGrid (2 * a + 1) grid (2 * i.value) i.den with
  | .gt => a
  | .lt => a + 1
  | .eq => if a % 2 = 0 then a else a + 1

/-- The point of a grid that rounds to the number and is nearest to it. -/
def Interval.pointOn? (i : Interval) (grid : Int) : Option Nat :=
  let a := i.floorOn grid
  match i.holds grid a, i.holds grid (a + 1) with
  | true, true => some (i.nearer grid a)
  | true, false => some a
  | false, true => some (a + 1)
  | false, false => none

/-- The least `k`, from `k` on, with the number below `10 ^ k`. -/
def Interval.exponentAbove (i : Interval) : Nat → Int → Int
  | 0, k => k
  | fuel + 1, k =>
    match compareOnGrid 1 k i.value i.den with
    | .gt => k
    | _ => i.exponentAbove fuel (k + 1)

/-- A first guess at the number of digits before the point, never too large: the lengths of the
quotient in bits, scaled by the logarithm of two. -/
def Interval.exponentGuess (i : Interval) : Int :=
  (((i.value.log2 : Int) - i.den.log2 - 1) * 30103).fdiv 100000

/-- The first grid, from `grid` down, that has a point, with that point. -/
def Interval.firstPoint (i : Interval) : Nat → Int → Nat × Int
  | 0, grid => (i.floorOn grid, grid)
  | fuel + 1, grid =>
    match i.pointOn? grid with
    | some a => (a, grid)
    | none => i.firstPoint fuel (grid - 1)

/-- The shortest decimal `coefficient * 10 ^ exponent` of a finite number other than zero. Seventeen
digits always suffice. -/
def shortest (significand : Nat) (exponent : Int) : Nat × Int :=
  let i := interval significand exponent
  i.firstPoint 17 (i.exponentAbove 8 i.exponentGuess - 1)

end Binary64

end TokenBroker
