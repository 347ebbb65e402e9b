import TokenBroker.Text.Quoted

/-!
# Reading bytes as text

The reader of a charset with characters of several bytes takes one step at a time: it looks at the
bytes that are left and finds characters, or bytes that are none, or the start of a character whose
other bytes are missing. `Reading.run` repeats the step to the end. Each stretch of bytes that is no
character counts as one unknown character, and so does what is unfinished at the end.
-/

namespace TokenBroker

namespace Text

/-- Why bytes cannot be read at all in a charset that is named. -/
inductive CharsetError
  /-- Units of so many bits, and nothing tells the order of their bytes. -/
  | noByteOrder (bits : Nat)
  /-- A charset that is defined to have no text. -/
  | undefinedText
  /-- A charset in which unknown characters cannot be replaced. -/
  | noReplacement
  /-- A form of bytes that holds no text. -/
  | notText
  /-- A form of texts that holds no bytes. -/
  | notBytes
  /-- A byte that is not ASCII, and its position. -/
  | notAscii (position byte : Nat)
  /-- An unfinished character that is too long to be kept. -/
  | tooLongStart
  /-- A character of a set from which none can be taken one at a time. -/
  | unusableSet
  /-- A name with a NUL. -/
  | nullInName
  /-- Parts of a parameter of which only some are numbered. -/
  | unorderedParts
  deriving DecidableEq, Repr

/-- The message of a charset error. -/
def CharsetError.message : CharsetError → String
  | .noByteOrder bits => s!"UTF-{bits} stream does not start with BOM"
  | .undefinedText => "undefined encoding"
  | .noReplacement => "Unsupported error handling replace"
  | .notText => ""
  | .notBytes => ""
  | .notAscii position byte =>
    let digits := String.ofList (hexDigits 2 byte)
    s!"'ascii' codec can't decode byte 0x{digits} in position {position}: ordinal not in range(128)"
  | .tooLongStart => "pending buffer overflow"
  | .unusableSet => "internal codec error"
  | .nullInName => "embedded null character"
  | .unorderedParts => ""

namespace Reading

/-- What a reader finds at the first of the bytes that are left. The bytes that it takes are counted
without that one. -/
inductive Step (σ : Type)
  /-- Characters, which may be none, and the state in which the reader goes on. -/
  | text (cs : List Char) (more : Nat) (state : σ)
  /-- Bytes that are no character. -/
  | unknown (more : Nat)
  /-- The start of a character. -/
  | unfinished
  /-- Bytes that cannot be told. -/
  | unusable

/-- How many bytes of an unfinished character are kept. -/
def longestStart : Nat := 8

/-- The characters of bytes; none stands for each that is unknown. -/
def run {σ : Type} (step : σ → Nat → List Nat → Step σ) (state : σ) :
    List Nat → Except CharsetError (List (Option Char))
  | [] => .ok []
  | b :: bs =>
    match step state b bs with
    | .text cs more state => (run step state (bs.drop more)).map (cs.map some ++ ·)
    | .unknown more => (run step state (bs.drop more)).map (none :: ·)
    | .unfinished => if longestStart ≤ bs.length then .error .tooLongStart else .ok [none]
    | .unusable => .error .unusableSet
termination_by bs => bs.length
decreasing_by
  all_goals simp only [List.length_drop, List.length_cons]
  all_goals omega

/-- One character of bytes in a charset without states. -/
def char (c : Char) (more : Nat) : Step Unit := .text [c] more ()

/-- A character that may be unknown, of which the first byte counts alone then. -/
def char? (c : Option Char) (more : Nat) : Step Unit :=
  match c with
  | some c => char c more
  | none => .unknown 0

/-- A step of a charset in which bytes below 0x80 stand for themselves and others come in pairs. -/
def pairs (pair? : Nat → Nat → Option Char) (_ : Unit) (b : Nat) (bs : List Nat) : Step Unit :=
  if b < 0x80 then char (Char.ofNat b) 0
  else
    match bs with
    | [] => .unfinished
    | c :: _ => char? (pair? b c) 1

end Reading

end Text

end TokenBroker
