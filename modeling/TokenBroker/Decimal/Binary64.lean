/-!
# Binary floating-point numbers

The numbers of the 64-bit binary format, as exact values: a finite number is a significand of at
most 53 bits times a power of two. `ofRatio` rounds a quotient of naturals to the nearest of them, a
tie to the even significand, and `ofDecimal` does so for a decimal numeral. All of it is exact
arithmetic on naturals, so statements about it need no facts about machine arithmetic.
-/

namespace TokenBroker

namespace Binary64

/-- A significand and exponent in the one form that stands for their product: the significand uses
all 53 bits unless the exponent is the least one. -/
def Canonical (significand : Nat) (exponent : Int) : Prop :=
  significand < Nat.pow 2 53 ∧ -1074 ≤ exponent ∧ exponent ≤ 971 ∧
    (Nat.pow 2 52 ≤ significand ∨ exponent = -1074)

instance (significand : Nat) (exponent : Int) : Decidable (Canonical significand exponent) :=
  inferInstanceAs (Decidable (_ ∧ _ ∧ _ ∧ _))

theorem canonical_zero : Canonical 0 (-1074) := by decide

end Binary64

open Binary64 in
/-- A number of the 64-bit binary format; `finite` has a sign of its own, so that there are two
zeros. -/
inductive Binary64
  | nan
  | infinite (negative : Bool)
  | finite (negative : Bool) (significand : Nat) (exponent : Int)
      (canonical : Canonical significand exponent)
  deriving DecidableEq

namespace Binary64

/-- The zero of a sign. -/
def zero (negative : Bool) : Binary64 := .finite negative 0 (-1074) canonical_zero

instance : Inhabited Binary64 := ⟨zero false⟩

/-- The natural nearest to `num / den`, the even one of two. -/
def nearestEven (num den : Nat) : Nat :=
  let quotient := num / den
  let remainder := num % den
  if 2 * remainder < den then quotient
  else if den < 2 * remainder then quotient + 1
  else if quotient % 2 = 0 then quotient
  else quotient + 1

/-- The quotient `num / den` in units of `2 ^ exponent`. -/
def inUnits (num den : Nat) (exponent : Int) : Nat × Nat :=
  if 0 ≤ exponent then (num, den * Nat.pow 2 exponent.toNat)
  else (num * Nat.pow 2 (-exponent).toNat, den)

/-- The exponent at which `num / den` has a quotient of 53 bits, or the least exponent. The lengths
of the two naturals fix it up to one. -/
def exponentFor (num den : Nat) : Int :=
  let low := max ((num.log2 : Int) - den.log2 - 53) (-1074)
  let (n, d) := inUnits num den low
  if Nat.pow 2 53 ≤ n / d then low + 1 else low

/-- The number nearest to `num / den`, of two the one with the even significand; infinite from half
a unit above the largest finite number on. -/
def ofRatio (negative : Bool) (num den : Nat) : Binary64 :=
  let exponent := exponentFor num den
  let (n, d) := inUnits num den exponent
  let rounded := nearestEven n d
  let (significand, exponent) :=
    if rounded = Nat.pow 2 53 then (Nat.pow 2 52, exponent + 1) else (rounded, exponent)
  if num = 0 then zero negative
  else if h : Canonical significand exponent then .finite negative significand exponent h
  else .infinite negative

/-- The number nearest to `coefficient * 10 ^ exponent`. The two bounds only save work: beyond them
the result is infinite or zero. -/
def ofDecimal (negative : Bool) (coefficient : Nat) (exponent : Int) : Binary64 :=
  if coefficient = 0 then zero negative
  else if 400 < exponent then .infinite negative
  else if (coefficient.log2 : Int) + 1 + 3 * exponent < -1080 then zero negative
  else if 0 ≤ exponent then ofRatio negative (coefficient * Nat.pow 10 exponent.toNat) 1
  else ofRatio negative coefficient (Nat.pow 10 (-exponent).toNat)

/-- The number nearest to an integer, if it is finite. -/
def ofInt? (n : Int) : Option Binary64 :=
  match ofRatio (n < 0) n.natAbs 1 with
  | .finite negative significand exponent h => some (.finite negative significand exponent h)
  | _ => none

/-- The magnitude of a significand and exponent, as a quotient. -/
def magnitude (significand : Nat) (exponent : Int) : Nat × Nat :=
  if 0 ≤ exponent then (significand * Nat.pow 2 exponent.toNat, 1)
  else (significand, Nat.pow 2 (-exponent).toNat)

/-- The integer of a sign and a magnitude. -/
def signed (negative : Bool) (n : Nat) : Int := if negative then -n else n

/-- The integer part, without the fraction. -/
def truncate? : Binary64 → Option Int
  | .finite negative significand exponent _ =>
    let (num, den) := magnitude significand exponent
    some (signed negative (num / den))
  | _ => none

/-- The integer that the number is, if it is one. -/
def whole? : Binary64 → Option Int
  | .finite negative significand exponent _ =>
    let (num, den) := magnitude significand exponent
    if num % den = 0 then some (signed negative (num / den)) else none
  | _ => none

/-- Whether the number is finite. -/
def isFinite : Binary64 → Bool
  | .finite .. => true
  | _ => false

/-- Whether the number is greater than zero. -/
def isPositive : Binary64 → Bool
  | .nan => false
  | .infinite negative => !negative
  | .finite negative significand _ _ => !negative && significand != 0

end Binary64

end TokenBroker
