import TokenBroker.Text.Printable

/-!
# Quoted literals

A text as a quoted literal: between single quotes, or between double quotes when it holds a single
quote and no double quote. A backslash and the enclosing quote are escaped by a backslash; tab, line
feed and carriage return have short escapes; any other character that is not printable is written by
its code point in two, four or eight hexadecimal digits.
-/

namespace TokenBroker

namespace Text

/-- The `width` lowest hexadecimal digits of a number. -/
def hexDigits (width n : Nat) : List Char :=
  (List.range width).reverse.map fun i => Nat.digitChar (n / Nat.pow 16 i % 16)

/-- One character inside a literal whose enclosing quote is `quote`. -/
def quotedChar (quote : Char) (c : Char) : List Char :=
  if c = quote ∨ c = '\\' then ['\\', c]
  else if c = '\t' then ['\\', 't']
  else if c = '\n' then ['\\', 'n']
  else if c = '\r' then ['\\', 'r']
  else if isPrintable c then [c]
  else if c.toNat < 0x100 then '\\' :: 'x' :: hexDigits 2 c.toNat
  else if c.toNat < 0x10000 then '\\' :: 'u' :: hexDigits 4 c.toNat
  else '\\' :: 'U' :: hexDigits 8 c.toNat

/-- The quote that encloses a text. -/
def quoteFor (cs : List Char) : Char :=
  if '\'' ∈ cs ∧ '"' ∉ cs then '"' else '\''

/-- A text as a quoted literal. -/
def quoted (s : String) : String :=
  let quote := quoteFor s.toList
  String.ofList (quote :: s.toList.flatMap (quotedChar quote) ++ [quote])

end Text

end TokenBroker
