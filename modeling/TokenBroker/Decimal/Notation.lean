import TokenBroker.Decimal.Shortest

/-!
# Decimal notation of binary numbers

How a number's shortest digits are laid out. A `Layout` says which exponents are written
positionally and how the values that are no numbers are spelled; `Layout.render` writes a number in
it.
-/

namespace TokenBroker

namespace Binary64

/-- The choices of a notation. Positional numerals keep at least one digit on either side of the
point; the others have one digit before the point and a signed exponent. -/
structure Layout where
  /-- The least exponent of a leading digit that is written positionally. -/
  positionalFrom : Int
  /-- The least exponent of a leading digit, above that, that is not. -/
  positionalBelow : Int
  /-- The least number of digits of a written exponent. -/
  exponentWidth : Nat
  infinity : String
  nan : String

/-- Texts for readers: sixteen digits before the point at most, four zeros after it at most. -/
def Layout.plain : Layout := ⟨-4, 16, 2, "inf", "nan"⟩

/-- The same numerals, with the spellings that JSON readers know. -/
def Layout.json : Layout := ⟨-4, 16, 2, "Infinity", "NaN"⟩

/-- The decimal digits of a natural. -/
def digitsOf (n : Nat) : List Char := Nat.toDigits 10 n

/-- The digits without the zeros at their end; one digit always stays. -/
def withoutTrailingZeros (ds : List Char) : List Char :=
  match (ds.reverse.dropWhile (· == '0')).reverse with
  | [] => ['0']
  | kept => kept

/-- A written exponent: sign and at least `width` digits. -/
def exponentText (width : Nat) (exponent : Int) : List Char :=
  let ds := digitsOf exponent.natAbs
  (if exponent < 0 then '-' else '+') :: (List.replicate (width - ds.length) '0' ++ ds)

/-- Digits laid out positionally, the first of them with weight `10 ^ exponent`. -/
def positional (ds : List Char) (exponent : Int) : List Char :=
  if exponent < 0 then
    '0' :: '.' :: (List.replicate (-exponent - 1).toNat '0' ++ ds)
  else
    let before := exponent.toNat + 1
    let whole := ds.take before ++ List.replicate (before - ds.length) '0'
    let fraction := ds.drop before
    whole ++ '.' :: (if fraction.isEmpty then ['0'] else fraction)

/-- Digits with one before the point and an exponent. -/
def scientific (width : Nat) (ds : List Char) (exponent : Int) : List Char :=
  let mantissa := match ds with
    | [] => []
    | [d] => [d]
    | d :: rest => d :: '.' :: rest
  mantissa ++ 'e' :: exponentText width exponent

/-- The text of a number in a layout. -/
def Layout.render (layout : Layout) : Binary64 → String
  | .nan => layout.nan
  | .infinite negative => if negative then "-" ++ layout.infinity else layout.infinity
  | .finite negative significand exponent _ =>
    let sign := if negative then ['-'] else []
    if significand = 0 then String.ofList (sign ++ ['0', '.', '0'])
    else
      let (coefficient, grid) := shortest significand exponent
      let ds := digitsOf coefficient
      let lead := grid + ds.length - 1
      let kept := withoutTrailingZeros ds
      let body :=
        if layout.positionalFrom ≤ lead ∧ lead < layout.positionalBelow then positional kept lead
        else scientific layout.exponentWidth kept lead
      String.ofList (sign ++ body)

end Binary64

end TokenBroker
