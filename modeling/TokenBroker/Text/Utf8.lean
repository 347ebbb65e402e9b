/-!
# UTF-8

Texts as bytes and back. `encode` writes a text. `front` reads one character off a byte string, or
says how the bytes fail to be one: which defect, and how many bytes belong to it. `decode` reads a
whole byte string and stops at its first defect; `decodeLossy` writes one replacement character for
each.
-/

namespace TokenBroker

namespace Utf8

/-- The bytes of a text. -/
def encode (s : String) : List UInt8 :=
  s.toList.flatMap String.utf8EncodeChar

/-- How a byte string fails to start with a character. -/
inductive Defect
  /-- The first byte starts no character. -/
  | startByte
  /-- A later byte does not continue the character. -/
  | continuationByte
  /-- The bytes end inside the character. -/
  | truncated
  deriving DecidableEq, Repr

/-- The wording of a defect. -/
def Defect.reason : Defect → String
  | .startByte => "invalid start byte"
  | .continuationByte => "invalid continuation byte"
  | .truncated => "unexpected end of data"

/-- What stands at the front of a byte string. -/
inductive Front
  | done
  | char (c : Char) (rest : List UInt8)
  | bad (defect : Defect) (width : Nat) (rest : List UInt8)

/-- Reads the `n` bytes that are still missing of a character, the next of them within `lo` and `hi`
and the others any continuation byte; `value` and `width` are those of the bytes read so far. -/
def continuation (value width lo hi : Nat) : Nat → List UInt8 → Front
  | 0, rest => .char (Char.ofNat value) rest
  | _ + 1, [] => .bad .truncated width []
  | n + 1, b :: rest =>
    if lo ≤ b.toNat ∧ b.toNat ≤ hi then
      continuation (value * 64 + (b.toNat - 0x80)) (width + 1) 0x80 0xBF n rest
    else
      .bad .continuationByte width (b :: rest)

/-- Reads one character. The narrower ranges of a second byte exclude overlong forms, surrogates and
values above the last code point. -/
def front : List UInt8 → Front
  | [] => .done
  | b :: rest =>
    let n := b.toNat
    if n < 0x80 then .char (Char.ofNat n) rest
    else if n < 0xC2 then .bad .startByte 1 rest
    else if n < 0xE0 then continuation (n - 0xC0) 1 0x80 0xBF 1 rest
    else if n = 0xE0 then continuation 0 1 0xA0 0xBF 2 rest
    else if n = 0xED then continuation 0xD 1 0x80 0x9F 2 rest
    else if n < 0xF0 then continuation (n - 0xE0) 1 0x80 0xBF 2 rest
    else if n = 0xF0 then continuation 0 1 0x90 0xBF 3 rest
    else if n < 0xF4 then continuation (n - 0xF0) 1 0x80 0xBF 3 rest
    else if n = 0xF4 then continuation 4 1 0x80 0x8F 3 rest
    else .bad .startByte 1 rest

/-- The first defect of a byte string: its place, its bytes and what is wrong. -/
structure Error where
  position : Nat
  width : Nat
  first : UInt8
  defect : Defect
  deriving DecidableEq, Repr

/-- A byte in two hexadecimal digits. -/
def hexByte (b : UInt8) : String :=
  String.ofList [Nat.digitChar (b.toNat / 16), Nat.digitChar (b.toNat % 16)]

/-- A defect of one byte names the byte, a longer one its first and last position. -/
def Error.message (e : Error) : String :=
  if e.width = 1 then
    s!"'utf-8' codec can't decode byte 0x{hexByte e.first} in position {e.position}: {e.defect.reason}"
  else
    let last := e.position + e.width - 1
    s!"'utf-8' codec can't decode bytes in position {e.position}-{last}: {e.defect.reason}"

/-- Reads at most `fuel` characters, the first at byte `position`. -/
def decodeChars : Nat → Nat → List UInt8 → Except Error (List Char)
  | 0, _, _ => .ok []
  | fuel + 1, position, bytes =>
    match front bytes with
    | .done => .ok []
    | .char c rest => do
      let cs ← decodeChars fuel (position + (bytes.length - rest.length)) rest
      .ok (c :: cs)
    | .bad defect width _ => .error ⟨position, width, bytes.headD 0, defect⟩

/-- The text of a byte string, or its first defect. -/
def decode (bytes : List UInt8) : Except Error String :=
  (decodeChars bytes.length 0 bytes).map String.ofList

/-- Reads at most `fuel` characters or defects. -/
def entriesOf : Nat → List UInt8 → List (Option Char)
  | 0, _ => []
  | fuel + 1, bytes =>
    match front bytes with
    | .done => []
    | .char c rest => some c :: entriesOf fuel rest
    | .bad _ _ rest => none :: entriesOf fuel rest

/-- The characters of a byte string; none stands for each defect. -/
def entries (bytes : List UInt8) : List (Option Char) := entriesOf bytes.length bytes

/-- The text of a byte string, with a replacement character for each defect. -/
def decodeLossy (bytes : List UInt8) : String :=
  String.ofList ((entries bytes).map (·.getD '\uFFFD'))

end Utf8

end TokenBroker
