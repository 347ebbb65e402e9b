/-!
# Rows of characters

The tables of charsets whose characters stand in rows of cells. A table lists stretches of its rows:
a row, the number of the first cell, and the characters from there on. The replacement character
marks a cell that is empty. `leftOut` gives the characters that such a table lacks.
-/

namespace TokenBroker

namespace Text

/-- A table: stretches of rows. -/
abbrev Rows := List (Nat × Nat × String)

namespace Rows

/-- The character of a cell in a stretch that starts at a cell. -/
def inStretch? (first : Nat) (s : String) (cell : Nat) : Option Char :=
  if first ≤ cell then (s.toList[cell - first]?).filter (· ≠ '\uFFFD') else none

/-- The character of a cell, which counts from zero. -/
def char? (t : Rows) (row cell : Nat) : Option Char :=
  t.findSome? fun (r, first, s) => if r = row then inStretch? first s cell else none

/-- All characters of a table. -/
def chars (t : Rows) : List Char := t.flatMap fun (_, _, s) => s.toList

/-- The character of a cell in a square of 94 rows and cells that both count from 0x21. -/
def square? (t : Rows) (row cell : Nat) : Option Char :=
  if 0x21 ≤ cell then t.char? row (cell - 0x21) else none

end Rows

/-- The characters from a code point on that a list does not hold, in their order. -/
def leftOut (first count : Nat) (known : List Char) : Array Char :=
  let marks := known.foldl (fun (marks : Array Bool) c =>
    if first ≤ c.toNat then marks.setIfInBounds (c.toNat - first) true else marks)
    (Array.replicate count false)
  (List.range count).foldl (fun out i =>
    if marks.getD i false then out else out.push (Char.ofNat (first + i))) #[]

end Text

end TokenBroker
