import TokenBroker.Decimal.Binary64
import TokenBroker.Text.Blank
import TokenBroker.Text.Digit

/-!
# Numerals

Numbers in texts. `wholeNumber?` reads an integer in the digits of any script, as token endpoints
may send one; `settingInt?` and `settingFloat?` read the numbers of settings, in ASCII digits.
Single underscores may stand between digits in all of them.
-/

namespace TokenBroker

namespace Numeral

/-- The largest number of digits of an integer that is read from a text. -/
def maxDigits : Nat := 4300

/-- A sign, and what follows it. -/
def splitSign : List Char → Bool × List Char
  | '-' :: cs => (true, cs)
  | '+' :: cs => (false, cs)
  | cs => (false, cs)

/-- Splits off the fractional part and the exponent: what stands before the first character of a
class, and what stands after it, if there is one. -/
def splitAt (p : Char → Bool) (cs : List Char) : List Char × Option (List Char) :=
  match cs.dropWhile (!p ·) with
  | [] => (cs, none)
  | _ :: rest => (cs.takeWhile (!p ·), some rest)

/-- The digit values of a row of digits with single underscores between them. -/
def digits? (value? : Char → Option Nat) : List Char → Option (List Nat)
  | [] => none
  | [c] => (value? c).map ([·])
  | c :: '_' :: rest => do
    let d ← value? c
    let ds ← digits? value? rest
    return d :: ds
  | c :: rest => do
    let d ← value? c
    let ds ← digits? value? rest
    return d :: ds

/-- The integer that a text stands for: white space around it, a sign, digits of any script with
single underscores between them, and no more than `maxDigits` of those. -/
def wholeNumber? (s : String) : Option Int := do
  let (negative, cs) := splitSign (Text.trim s).toList
  let ds ← digits? Text.digitValue? cs
  guard (ds.length ≤ maxDigits)
  return Binary64.signed negative (Text.ofDigits ds)

/-- The integer of a setting given as text: white space around it, a sign, ASCII digits with single
underscores between them, and a fraction of zeros. -/
def settingInt? (s : String) : Option Int := do
  let (negative, cs) := splitSign (Text.trim s).toList
  let (whole, fraction) := splitAt (· == '.') cs
  guard (fraction.all fun zeros => !zeros.isEmpty && zeros.all (· == '0'))
  let ds ← digits? Text.asciiDigitValue? whole
  return Binary64.signed negative (Text.ofDigits ds)

/-- The digit values of a row of ASCII digits, which may be empty. -/
def plainDigits? (cs : List Char) : Option (List Nat) :=
  cs.mapM Text.asciiDigitValue?

/-- The number of a decimal numeral without underscores: digits with an optional point among or
beside them and an optional exponent. -/
def decimal? (negative : Bool) (cs : List Char) : Option Binary64 := do
  let (mantissa, exponent) := splitAt (fun c => c == 'e' || c == 'E') cs
  let (whole, fraction) := splitAt (· == '.') mantissa
  let ws ← plainDigits? whole
  let fs ← plainDigits? (fraction.getD [])
  guard (!(ws.isEmpty && fs.isEmpty))
  let power : Int ← match exponent with
    | none => some 0
    | some es => do
      let (down, es) := splitSign es
      let ds ← plainDigits? es
      guard (!ds.isEmpty)
      some (Binary64.signed down (Text.ofDigits ds))
  return .ofDecimal negative (Text.ofDigits (ws ++ fs)) (power - fs.length)

/-- The text without its underscores, unless one is first, last or beside another. -/
def withoutUnderscores? (cs : List Char) : Option (List Char) :=
  let doubled := (cs.zip cs.tail).any fun (a, b) => a == '_' && b == '_'
  if cs.head? = some '_' ∨ cs.getLast? = some '_' ∨ doubled then none
  else some (cs.filter (· != '_'))

/-- The number of a sign and a decimal numeral, an infinity or a NaN by name. -/
def signedDecimal? (cs : List Char) : Option Binary64 :=
  let (negative, cs) := splitSign cs
  let name := (String.ofList cs).toLower
  if name = "inf" ∨ name = "infinity" then some (.infinite negative)
  else if name = "nan" then some .nan
  else decimal? negative cs

/-- The number of a setting given as text. There may be white space around it or single underscores
in it, but not both. -/
def settingFloat? (s : String) : Option Binary64 :=
  match signedDecimal? (Text.trim s).toList with
  | some x => some x
  | none => (withoutUnderscores? s.toList).bind signedDecimal?

end Numeral

end TokenBroker
