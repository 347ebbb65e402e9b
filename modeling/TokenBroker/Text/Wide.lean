/-!
# UTF-16 and UTF-32

Byte strings of two-byte and four-byte units in either byte order. Both readers give one entry for
each character and `none` for each stretch of bytes that is none: a surrogate without its partner, a
value that is no code point, or a unit cut short by the end.
-/

namespace TokenBroker

namespace Text

/-- The order of the bytes of a unit. -/
inductive ByteOrder
  | little
  | big
  deriving DecidableEq, Repr

/-- The number that the bytes of a unit stand for. -/
def ByteOrder.value : ByteOrder → List UInt8 → Nat
  | .big, bytes => bytes.foldl (fun n b => n * 256 + b.toNat) 0
  | .little, bytes => bytes.foldr (fun b n => n * 256 + b.toNat) 0

/-- The character of a code point that is no surrogate. -/
def charOfCodePoint? (n : Nat) : Option Char :=
  if n.isValidChar then some (Char.ofNat n) else none

/-- The characters of four-byte units. -/
def ofUtf32 (order : ByteOrder) : List UInt8 → List (Option Char)
  | a :: b :: c :: d :: rest => charOfCodePoint? (order.value [a, b, c, d]) :: ofUtf32 order rest
  | [] => []
  | _ => [none]

/-- The two-byte units of a byte string, and whether a byte is left over. -/
def units16 (order : ByteOrder) : List UInt8 → List Nat × Bool
  | a :: b :: rest =>
    let (us, odd) := units16 order rest
    (order.value [a, b] :: us, odd)
  | [] => ([], false)
  | [_] => ([], true)

/-- The characters of two-byte units; `odd` tells of a byte left over after the last one. A high
surrogate takes the unit after it if that is a low one. -/
def ofUnits16 (odd : Bool) : List Nat → List (Option Char)
  | [] => if odd then [none] else []
  | [u] =>
    if 0xD800 ≤ u ∧ u < 0xDC00 then [none]
    else charOfCodePoint? u :: (if odd then [none] else [])
  | u :: v :: rest =>
    if 0xD800 ≤ u ∧ u < 0xDC00 then
      if 0xDC00 ≤ v ∧ v < 0xE000 then
        charOfCodePoint? (0x10000 + (u - 0xD800) * 0x400 + (v - 0xDC00)) :: ofUnits16 odd rest
      else
        none :: ofUnits16 odd (v :: rest)
    else
      charOfCodePoint? u :: ofUnits16 odd (v :: rest)
termination_by us => us.length

/-- A number past all code points. -/
def pastCodePoints : Nat := 0x110000

/-- The characters of units and code points of which some are unknown. -/
def ofKnownUnits (us : List (Option Nat)) : List (Option Char) :=
  ofUnits16 false (us.map (·.getD pastCodePoints))

/-- The characters of two-byte units. -/
def ofUtf16 (order : ByteOrder) (bytes : List UInt8) : List (Option Char) :=
  let (us, odd) := units16 order bytes
  ofUnits16 odd us

/-- The text, if every entry is a character. -/
def strictly (cs : List (Option Char)) : Option String :=
  (cs.mapM id).map String.ofList

/-- The text, with a replacement character for each entry that is none. -/
def leniently (cs : List (Option Char)) : String :=
  String.ofList (cs.map (·.getD '\uFFFD'))

end Text

end TokenBroker
