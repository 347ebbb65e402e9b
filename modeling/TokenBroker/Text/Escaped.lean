import TokenBroker.Text.Digit
import TokenBroker.Text.Wide

/-!
# Escaped text

Bytes that are Latin-1 but for escapes after a backslash. The full form has escapes by letter, by
octal and by hexadecimal digits, and a backslash before any other byte stands for itself; the raw
form has those of four and eight hexadecimal digits alone. An escape that breaks off is unknown as
far as it goes. No character is known by a name.
-/

namespace TokenBroker

namespace Text

namespace Escaped

/-- What stands at the front of some bytes: its units, where none stands for what is unknown, and
how many bytes after the first belong to it. -/
structure Piece where
  units : List (Option Nat)
  more : Nat

/-- A piece of one unit. -/
def one (u : Nat) (more : Nat) : Piece := ⟨[some u], more⟩

/-- A piece that is unknown. -/
def unknown (more : Nat) : Piece := ⟨[none], more⟩

/-- The number of the digits at the front, at most `count`, and how many they are. -/
def leading (base : Nat) (value? : Char → Option Nat) (count : Nat) (bs : List Nat) : Nat × Nat :=
  let ds := (bs.take count).map fun b => value? (Char.ofNat b)
  let known := (ds.takeWhile Option.isSome).filterMap id
  (known.foldl (fun n d => n * base + d) 0, known.length)

/-- The escape by `count` hexadecimal digits, of which the letter before them has been read. -/
def hexadecimal (count : Nat) (bs : List Nat) : Piece :=
  let (n, found) := leading 16 hexValue? count bs
  if found = count ∧ n < pastCodePoints then one n (1 + count) else unknown (1 + found)

/-- The escape by a name, of which the letter before it has been read. -/
def named : List Nat → Piece
  | 0x7B :: name =>
    let length := (name.takeWhile (· ≠ 0x7D)).length
    if length = name.length then unknown (2 + length)
    else if length = 0 then unknown 2
    else unknown (3 + length)
  | _ => unknown 1

/-- The character that a letter stands for. -/
def letter? (b : Nat) : Option Nat :=
  match Char.ofNat b with
  | '\\' => some 0x5C
  | '\'' => some 0x27
  | '"' => some 0x22
  | 'a' => some 0x07
  | 'b' => some 0x08
  | 't' => some 0x09
  | 'n' => some 0x0A
  | 'v' => some 0x0B
  | 'f' => some 0x0C
  | 'r' => some 0x0D
  | _ => none

/-- The escape behind a backslash. -/
def escape : List Nat → Piece
  | [] => unknown 0
  | b :: bs =>
    match letter? b, Char.ofNat b with
    | some u, _ => one u 1
    | none, '\n' => ⟨[], 1⟩
    | none, 'x' => hexadecimal 2 bs
    | none, 'u' => hexadecimal 4 bs
    | none, 'U' => hexadecimal 8 bs
    | none, 'N' => named bs
    | none, c =>
      if (octalValue? c).isSome then
        let (n, found) := leading 8 octalValue? 3 (b :: bs)
        one n found
      else ⟨[some 0x5C, some b], 1⟩

/-- The escape behind a backslash in the raw form. -/
def rawEscape : List Nat → Piece
  | [] => one 0x5C 0
  | b :: bs =>
    match Char.ofNat b with
    | 'u' => hexadecimal 4 bs
    | 'U' => hexadecimal 8 bs
    | _ => ⟨[some 0x5C, some b], 1⟩

/-- The units of bytes, by what an escape stands for. -/
def units (escape : List Nat → Piece) : List Nat → List (Option Nat)
  | [] => []
  | b :: bs =>
    let piece := if b = 0x5C then escape bs else one b 0
    piece.units ++ units escape (bs.drop piece.more)
termination_by bs => bs.length
decreasing_by
  simp only [List.length_drop, List.length_cons]
  omega

/-- The characters of bytes in the full form. -/
def read (bs : List Nat) : List (Option Char) := ofKnownUnits (units escape bs)

/-- The characters of bytes in the raw form. -/
def readRaw (bs : List Nat) : List (Option Char) := ofKnownUnits (units rawEscape bs)

end Escaped

end Text

end TokenBroker
