import TokenBroker.Text.DoubleByte.Jis
import TokenBroker.Text.Reading

/-!
# Japanese charsets

The readers of the shifted forms, in which katakana are single bytes and the rows of the sets are
folded into the lead bytes that remain, and of the extended forms, in which the bytes of a cell are
raised by 0x80 and two lead bytes select katakana and a second set. Both exist for JIS X 0208 and
for the two editions of JIS X 0213.
-/

namespace TokenBroker

namespace Text

namespace Japanese

/-- The editions of JIS X 0213. -/
inductive Edition
  | first
  /-- The edition of 2004, with ten characters more and one in another shape. -/
  | second
  deriving DecidableEq, Repr

/-- The half-width katakana under bytes from 0xA1 to 0xDF. -/
def katakana? (b : Nat) : Option Char :=
  if 0xA1 ≤ b ∧ b ≤ 0xDF then some (Char.ofNat (0xFEC0 + b)) else none

/-- The Roman letters of JIS X 0201: ASCII with a yen sign and an overline. -/
def roman? (b : Nat) : Option Char :=
  if b = 0x5C then some '¥' else if b = 0x7E then some '‾' else
    if b < 0x80 then some (Char.ofNat b) else none

/-- The cells of the first plane that only the second edition fills. -/
def laterCells : List (Nat × Nat) :=
  [(0x2E, 0x21), (0x2F, 0x7E), (0x4F, 0x54), (0x4F, 0x7E), (0x74, 0x27), (0x7E, 0x7A), (0x7E, 0x7B),
    (0x7E, 0x7C), (0x7E, 0x7D), (0x7E, 0x7E)]

/-- The text of a cell of the first plane. -/
def firstPlane? (row cell : Nat) : Option (List Char) :=
  (jisX0208.square? row cell <|> jisX0213First.square? row cell).map ([·]) <|>
    (jisX0213Pairs.lookup (row, cell)).map String.toList

/-- The character of a cell of the second plane. -/
def secondPlane? (e : Edition) (row cell : Nat) : Option Char :=
  if e = .first ∧ row = 0x7D ∧ cell = 0x3B then some '鬝' else jisX0213Second.square? row cell

open Reading

/-- What a cell of the first plane is to a reader. A cell that the edition leaves empty counts as
whole. -/
def firstPlane (e : Edition) (row cell : Nat) : Step Unit :=
  if e = .first ∧ laterCells.contains (row, cell) then .unknown 1
  else
    match firstPlane? row cell with
    | some cs => .text cs 1 ()
    | none => .unknown 0

/-! ## Shifted forms -/

/-- The number of a lead byte of the shifted forms. -/
def lead? (b : Nat) : Option Nat :=
  if 0x81 ≤ b ∧ b ≤ 0x9F then some (b - 0x81)
  else if 0xE0 ≤ b ∧ b ≤ 0xFC then some (b - 0xC1)
  else none

/-- The number of a trail byte of the shifted forms. -/
def trail? (c : Nat) : Option Nat :=
  if 0x40 ≤ c ∧ c ≤ 0x7E then some (c - 0x40)
  else if 0x80 ≤ c ∧ c ≤ 0xFC then some (c - 0x41)
  else none

/-- The row and the cell of a lead and a trail byte: two rows of 94 cells share a lead byte. The row
counts from zero and the cell from 0x21. -/
def folded (lead trail : Nat) : Nat × Nat := (2 * lead + trail / 94, trail % 94 + 0x21)

/-- The characters of the shifted form of JIS X 0208. -/
def shifted? (b c : Nat) : Option Char := do
  let (row, cell) := folded (← lead? b) (← trail? c)
  jisX0208.square? (row + 0x21) cell

/-- A step in a shifted form, by what is single bytes in it and what pairs are. -/
def shiftedStep (single? : Nat → Option Char) (isLead : Nat → Bool) (pair : Nat → Nat → Step Unit)
    (_ : Unit) (b : Nat) (bs : List Nat) : Step Unit :=
  match single? b with
  | some x => char x 0
  | none =>
    if isLead b then
      match bs with
      | [] => .unfinished
      | c :: _ => pair b c
    else .unknown 0

/-- Whether a byte leads a pair in the standard forms. -/
def isLead (b : Nat) : Bool := (lead? b).isSome

/-- The single bytes of the form of JIS X 0208: ASCII and katakana. -/
def asciiOrKatakana? (b : Nat) : Option Char :=
  if b < 0x80 then some (Char.ofNat b) else katakana? b

/-- A step in the shifted form of JIS X 0208. -/
def shiftJisStep : Unit → Nat → List Nat → Step Unit :=
  shiftedStep asciiOrKatakana? isLead fun b c => char? (shifted? b c) 1

/-- The single bytes of the form of Windows, in which all bytes that lead no pair are characters. -/
def windowsSingle? (b : Nat) : Option Char :=
  if b ≤ 0x80 then some (Char.ofNat b)
  else if b = 0xA0 then some '\uf8f0'
  else if 0xFD ≤ b then some (Char.ofNat (0xF8F1 + (b - 0xFD)))
  else katakana? b

/-- The pairs of the form of Windows, with private characters from the lead byte 0xF0 on. -/
def windows? (b c : Nat) : Option Char := do
  let trail ← trail? c
  windowsJapanese.char? b trail <|>
    (if b ≤ 0xEA then shifted? b c
    else if 0xF0 ≤ b ∧ b ≤ 0xF9 then some (Char.ofNat (0xE000 + 188 * (b - 0xF0) + trail))
    else none)

/-- A step in the shifted form of Windows. -/
def windowsStep : Unit → Nat → List Nat → Step Unit :=
  shiftedStep windowsSingle? (fun _ => true) fun b c => char? (windows? b c) 1

/-- The row of the second plane that the rows beyond the first plane stand for. -/
def secondRow (row : Nat) : Nat :=
  if 0x67 ≤ row then row + 0x07
  else if 0x63 ≤ row ∨ row = 0x5F then row - 0x37
  else row - 0x3D

/-- A step in the shifted form of JIS X 0213, in which the wide backslash is the plain one, whose
own byte is the yen sign. -/
def shiftJis0213Step (e : Edition) : Unit → Nat → List Nat → Step Unit :=
  shiftedStep (fun b => roman? b <|> katakana? b) isLead fun b c =>
    match lead? b, trail? c with
    | some lead, some trail =>
      let (row, cell) := folded lead trail
      if row = 0 ∧ cell = 0x40 then char '\\' 1
      else if row < 0x5E then firstPlane e (row + 0x21) cell
      else char? (secondPlane? e (secondRow row) cell) 1
    | _, _ => .unknown 0

/-! ## Extended forms -/

/-- The lead byte of katakana in the extended forms. -/
def katakanaLead : Nat := 0x8E

/-- The lead byte of the second set in the extended forms. -/
def secondLead : Nat := 0x8F

/-- A step in an extended form, by the pairs of its first set and the characters of its second one,
both without the raise of 0x80. -/
def extendedStep (pair : Nat → Nat → Step Unit) (second? : Nat → Nat → Option Char)
    (_ : Unit) (b : Nat) (bs : List Nat) : Step Unit :=
  if b < 0x80 then char (Char.ofNat b) 0
  else
    match bs with
    | [] => .unfinished
    | c :: rest =>
      if b = katakanaLead then char? (katakana? c) 1
      else if b = secondLead then
        match rest with
        | [] => .unfinished
        | d :: _ =>
          if 0x80 ≤ c ∧ 0x80 ≤ d then char? (second? (c - 0x80) (d - 0x80)) 2 else .unknown 0
      else if 0x80 ≤ c then pair (b - 0x80) (c - 0x80)
      else .unknown 0

/-- A step in the extended form of JIS X 0208, whose second set is JIS X 0212. -/
def eucStep : Unit → Nat → List Nat → Step Unit :=
  extendedStep (fun row cell => char? (jisX0208.square? row cell) 1) jisX0212.square?

/-- A step in the extended form of JIS X 0213, whose second set is the second plane and, in the rows
that are free there, JIS X 0212. -/
def euc0213Step (e : Edition) : Unit → Nat → List Nat → Step Unit :=
  extendedStep
    (fun row cell => if row = 0x22 ∧ cell = 0x32 then char '～' 1 else firstPlane e row cell)
    fun row cell => secondPlane? e row cell <|> jisX0212.square? row cell

end Japanese

end Text

end TokenBroker
