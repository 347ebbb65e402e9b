import TokenBroker.Base64
import TokenBroker.Text.Wide

/-!
# UTF-7

ASCII text in which a plus sign opens a section of base 64 digits. The digits hold two-byte units,
sixteen bits each, and the section ends at the first byte that is no digit; a minus sign there
belongs to it. A plus sign right before a minus sign is a plus sign.

The reader goes byte by byte. A section that ends with a digit too many, or with bits that are not
zero, is unknown together with the byte after it.
-/

namespace TokenBroker

namespace Text

namespace Utf7

/-- What a section holds that makes up no unit so far. -/
structure Section where
  /-- How many bits are left. -/
  width : Nat := 0
  /-- The bits that are left, as a number. -/
  bits : Nat := 0
  /-- A high surrogate whose partner is awaited. -/
  high : Option Nat := none
  deriving DecidableEq, Repr

/-- Where the reader stands. -/
inductive State
  /-- Outside any section. -/
  | direct
  /-- Behind a plus sign. -/
  | opened
  | inside (part : Section)
  deriving DecidableEq, Repr

/-- What one byte adds, and where the reader stands then. -/
structure Advance where
  units : List (Option Nat) := []
  state : State

/-- Whether a byte stands for itself outside a section. -/
def isDirect (b : Nat) : Bool := b < 0x80 && b ≠ 0x2B

/-- The value of a byte as a digit. -/
def digit? (b : Nat) : Option Nat := Base64.value? (Char.ofNat b)

/-- Whether a unit is the first of two that make up a character. -/
def isHigh (u : Nat) : Bool := 0xD800 ≤ u && u < 0xDC00

/-- A byte outside a section. -/
def outside (b : Nat) : Advance :=
  if b = 0x2B then { state := .opened }
  else { units := [if isDirect b then some b else none], state := .direct }

/-- One more digit of a section. -/
def Section.add (part : Section) (digit : Nat) : Advance :=
  let bits := part.bits * 64 + digit
  let width := part.width + 6
  if width < 16 then { state := .inside { part with width, bits } }
  else
    let scale := Nat.pow 2 (width - 16)
    let unit := bits / scale
    let rest : Section := { width := width - 16, bits := bits % scale }
    let before := part.high.toList.map some
    if isHigh unit then { units := before, state := .inside { rest with high := some unit } }
    else { units := before ++ [some unit], state := .inside rest }

/-- The first byte behind a section. -/
def Section.close (part : Section) (b : Nat) : Advance :=
  if 6 ≤ part.width ∨ part.bits ≠ 0 then { units := [none], state := .direct }
  else
    let before := if isDirect b then part.high.toList.map some else []
    if b = 0x2D then { units := before, state := .direct }
    else
      let after := outside b
      { after with units := before ++ after.units }

/-- One byte. -/
def State.advance (s : State) (b : Nat) : Advance :=
  match s with
  | .direct => outside b
  | .opened =>
    if b = 0x2D then { units := [some 0x2B], state := .direct }
    else
      match digit? b with
      | some d => Section.add {} d
      | none => { units := [none], state := .direct }
  | .inside part =>
    match digit? b with
    | some d => part.add d
    | none => part.close b

/-- What the end of the bytes adds. -/
def State.finish : State → List (Option Nat)
  | .inside part => if part.high.isSome ∨ 6 ≤ part.width ∨ part.bits ≠ 0 then [none] else []
  | _ => []

/-- The units of bytes; none stands for those that are unknown. -/
def unitsFrom (s : State) : List Nat → List (Option Nat)
  | [] => s.finish
  | b :: bs => (s.advance b).units ++ unitsFrom (s.advance b).state bs

/-- The characters of bytes. -/
def read (bs : List Nat) : List (Option Char) := ofKnownUnits (unitsFrom .direct bs)

end Utf7

end Text

end TokenBroker
