import TokenBroker.Text.DoubleByte.KsX1001
import TokenBroker.Text.DoubleByte.Rows
import TokenBroker.Text.Reading

/-!
# Korean charsets

The readers of the charsets that are made of KS X 1001: its two-byte form, the form of Windows,
which adds all other Hangul syllables in their order, and Johab, which puts a syllable together of
its letters.
-/

namespace TokenBroker

namespace Text

namespace Korean

/-- The characters of KS X 1001 under two bytes from 0x80 on. -/
def ksX1001? (b c : Nat) : Option Char :=
  if 0x80 ≤ b ∧ 0x80 ≤ c then ksX1001.square? (b - 0x80) (c - 0x80) else none

/-! ## Syllables -/

/-- The consonants with which a syllable begins. -/
def initials : List Char := "ㄱㄲㄴㄷㄸㄹㅁㅂㅃㅅㅆㅇㅈㅉㅊㅋㅌㅍㅎ".toList

/-- The vowels. -/
def vowels : List Char := "ㅏㅐㅑㅒㅓㅔㅕㅖㅗㅘㅙㅚㅛㅜㅝㅞㅟㅠㅡㅢㅣ".toList

/-- The consonants with which a syllable ends. -/
def finals : List Char := "ㄱㄲㄳㄴㄵㄶㄷㄹㄺㄻㄼㄽㄾㄿㅀㅁㅂㅄㅅㅆㅇㅈㅊㅋㅌㅍㅎ".toList

/-- The syllable of an initial and a vowel by their places, and of a final by its place from one on;
the final of place zero is none. -/
def syllable (initial vowel final : Nat) : Char :=
  Char.ofNat (0xAC00 + initial * 588 + vowel * 28 + final)

/-- The syllables that KS X 1001 lacks. -/
def furtherSyllables : Array Char := leftOut 0xAC00 11172 ksX1001.chars

/-! ## The two-byte form -/

/-- The letter of a byte in the row of letters. -/
def letter (c : Nat) : Char := Char.ofNat (0x3131 + (c - 0xA1))

/-- The syllable that is made up of the letters of three bytes. A filler may stand for the final. -/
def madeUp? (c d e : Nat) : Option Char := do
  if c < 0xA1 ∨ d < 0xA1 ∨ e < 0xA1 then none
  let initial ← initials.idxOf? (letter c)
  let vowel ← vowels.idxOf? (letter d)
  let final ← if e = 0xD4 then some 0 else (finals.idxOf? (letter e)).map (· + 1)
  return syllable initial vowel final

open Reading

/-- A step in the two-byte form. A filler begins a syllable of eight bytes, in which every other one
is that of the row of letters. -/
def twoByteStep (_ : Unit) (b : Nat) (bs : List Nat) : Step Unit :=
  if b < 0x80 then char (Char.ofNat b) 0
  else
    match bs with
    | [] => .unfinished
    | c :: rest =>
      if b = 0xA4 ∧ c = 0xD4 then
        match rest with
        | p :: x :: q :: y :: r :: z :: _ =>
          if p = 0xA4 ∧ q = 0xA4 ∧ r = 0xA4 then char? (madeUp? x y z) 7 else .unknown 0
        | _ => .unfinished
      else char? (ksX1001? b c) 1

/-! ## The form of Windows -/

/-- The cell of a trail byte that is a letter of ASCII or from 0x81 on. -/
def cell? (c : Nat) : Option Nat :=
  if 0x41 ≤ c ∧ c ≤ 0x5A then some (c - 0x41)
  else if 0x61 ≤ c ∧ c ≤ 0x7A then some (c - 0x61 + 26)
  else if 0x81 ≤ c ∧ c ≤ 0xFE then some (c - 0x81 + 52)
  else none

/-- The place among the further syllables: rows of 178 cells, then rows that end where KS X 1001
begins. -/
def syllablePlace? (b c : Nat) : Option Nat := do
  let cell ← cell? c
  if 0x81 ≤ b ∧ b ≤ 0xA0 then some ((b - 0x81) * 178 + cell)
  else if 0xA1 ≤ b ∧ cell < 84 then some (5696 + (b - 0xA1) * 84 + cell)
  else none

/-- The characters of the form of Windows. -/
def windows? (b c : Nat) : Option Char :=
  ksX1001? b c <|> (syllablePlace? b c).bind (furtherSyllables[·]?)

/-! ## Johab -/

/-- A part of a syllable in Johab. -/
inductive Part
  | missing
  | place (n : Nat)

/-- The initial of five bits. -/
def initial? (n : Nat) : Option Part :=
  if n = 1 then some .missing else if 2 ≤ n ∧ n ≤ 20 then some (.place (n - 2)) else none

/-- The vowel of five bits. -/
def vowel? (n : Nat) : Option Part :=
  if n = 2 then some .missing
  else if 3 ≤ n ∧ n ≤ 7 then some (.place (n - 3))
  else if 10 ≤ n ∧ n ≤ 15 then some (.place (n - 5))
  else if 18 ≤ n ∧ n ≤ 23 then some (.place (n - 7))
  else if 26 ≤ n ∧ n ≤ 29 then some (.place (n - 9))
  else none

/-- The final of five bits. -/
def final? (n : Nat) : Option Part :=
  if n = 1 then some .missing
  else if 2 ≤ n ∧ n ≤ 17 then some (.place (n - 2))
  else if 19 ≤ n ∧ n ≤ 29 then some (.place (n - 3))
  else none

/-- The character of the parts: a syllable, a letter alone, or a blank. -/
def joined? : Part → Part → Part → Option Char
  | .missing, .missing, .missing => some '\u3000'
  | .missing, .missing, .place k => finals[k]?
  | .missing, .place j, .missing => vowels[j]?
  | .place i, .missing, .missing => initials[i]?
  | .place i, .place j, .missing => some (syllable i j 0)
  | .place i, .place j, .place k => some (syllable i j (k + 1))
  | _, _, _ => none

/-- The characters of KS X 1001 that are no letters and no syllables, as Johab places them: two rows
of 94 cells share a lead byte. -/
def johabSymbol? (b c : Nat) : Option Char :=
  if b = 0xDF ∨ 0xF9 < b ∨ c < 0x31 ∨ (0x80 ≤ c ∧ c < 0x91) ∨ c % 0x80 = 0x7F ∨
      (b = 0xDA ∧ 0xA1 ≤ c ∧ c ≤ 0xD3) then none
  else
    let pair := if b < 0xE0 then 2 * b - 2 * 0xD9 else 2 * b - 0x197
    let place := if c < 0x91 then c - 0x31 else c - 0x43
    if b = 0xD8 then none
    else ksX1001.square? (pair + place / 94 + 0x21) (place % 94 + 0x21)

/-- The characters of Johab. -/
def johab? (b c : Nat) : Option Char :=
  if b < 0xD8 then do
    joined? (← initial? (b / 4 % 32)) (← vowel? ((b * 8 + c / 32) % 32)) (← final? (c % 32))
  else johabSymbol? b c

end Korean

end Text

end TokenBroker
