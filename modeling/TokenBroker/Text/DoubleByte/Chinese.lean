import TokenBroker.Text.DoubleByte.Big5
import TokenBroker.Text.DoubleByte.Gb
import TokenBroker.Text.DoubleByte.HongKong
import TokenBroker.Text.Reading

/-!
# Chinese charsets

The readers of GB 2312 and of the charsets that extend it, and of Big5 and of those that extend it.
All but HZ are ASCII below 0x80 and take two bytes for other characters; GB 18030 takes four for
what has none of two. HZ has bytes below 0x80 alone and shifts between ASCII and GB 2312.
-/

namespace TokenBroker

namespace Text

namespace Chinese

/-- The characters of GB 2312 under two bytes from 0x80 on. -/
def gb2312? (b c : Nat) : Option Char :=
  if 0x80 ≤ b ∧ 0x80 ≤ c then gb2312.square? (b - 0x80) (c - 0x80) else none

/-- The ideographs of the basic block that GB 2312 lacks. -/
def furtherIdeographs : Array Char := leftOut 0x4E00 20902 gb2312.chars

/-- The cell of a trail byte that is 0x40 to 0x7E or 0x80 to 0xFE. -/
def cell? (c : Nat) : Option Nat :=
  if 0x40 ≤ c ∧ c ≤ 0x7E then some (c - 0x40)
  else if 0x80 ≤ c ∧ c ≤ 0xFE then some (c - 0x41)
  else none

/-- The cells before the trail byte 0xA1, where GB 2312 begins. -/
def cellsBefore : Nat := 96

/-- The place among the further ideographs: rows of 190 cells first, then rows that end where GB
2312 begins. -/
def ideographPlace? (b cell : Nat) : Option Nat :=
  if 0x81 ≤ b ∧ b ≤ 0xA0 then some ((b - 0x81) * 190 + cell)
  else if 0xAA ≤ b ∧ b ≤ 0xFE ∧ cell < cellsBefore then
    some (6080 + (b - 0xAA) * cellsBefore + cell)
  else none

/-- The characters of GBK. -/
def gbk? (b c : Nat) : Option Char := do
  let cell ← cell? c
  gbkExtra.char? b cell <|> gb2312? b c <|> (ideographPlace? b cell).bind (furtherIdeographs[·]?)

/-- The private characters of GB 18030: two zones of rows of 94 cells, one of rows before GB 2312,
and runs that fill gaps. -/
def private? (b c cell : Nat) : Option Char :=
  let inRun := gb18030Private.findSome? fun (lead, trail, count, first) =>
    if b = lead ∧ trail ≤ c ∧ c < trail + count then some (Char.ofNat (first + (c - trail)))
    else none
  inRun <|>
    if 0xA1 ≤ c then
      if 0xAA ≤ b ∧ b ≤ 0xAF then some (Char.ofNat (0xE000 + (b - 0xAA) * 94 + (c - 0xA1)))
      else if 0xF8 ≤ b ∧ b ≤ 0xFE then some (Char.ofNat (0xE234 + (b - 0xF8) * 94 + (c - 0xA1)))
      else none
    else if 0xA1 ≤ b ∧ b ≤ 0xA7 then some (Char.ofNat (0xE4C6 + (b - 0xA1) * cellsBefore + cell))
    else none

/-- The characters of GB 18030 in two bytes. -/
def gb18030Pair? (b c : Nat) : Option Char :=
  gbk? b c <|> (cell? c).bind fun cell => gb18030Extra.char? b cell <|> private? b c cell

/-- The number of four-byte codes of the basic plane. -/
def basicCodes : Nat := 39420

/-- The code point of a four-byte code of the basic plane, by the number of the code. -/
def basicPoint (number : Nat) : Nat :=
  gb18030Runs.foldl (fun point (first, start) =>
    if first ≤ number then start + (number - first) else point) 0

/-- The number of a four-byte code after others of its first byte. -/
def fourNumber (c d e : Nat) : Nat := (c - 0x30) * 1260 + (d - 0x81) * 10 + (e - 0x30)

/-- The characters of GB 18030 in four bytes. -/
def gb18030Four? (b c d e : Nat) : Option Char :=
  if b < 0x81 ∨ 0xFE < b ∨ d < 0x81 ∨ 0xFE < d ∨ e < 0x30 ∨ 0x39 < e then none
  else if b < 0x85 then
    let number := (b - 0x81) * 12600 + fourNumber c d e
    if number < basicCodes then some (Char.ofNat (basicPoint number)) else none
  else if 0x90 ≤ b then
    let point := 0x10000 + (b - 0x90) * 12600 + fourNumber c d e
    if point ≤ 0x10FFFF then some (Char.ofNat point) else none
  else none

open Reading

/-- A step in GB 18030, where a second byte that is a digit tells of four. -/
def gb18030Step (_ : Unit) (b : Nat) (bs : List Nat) : Step Unit :=
  if b < 0x80 then char (Char.ofNat b) 0
  else
    match bs with
    | [] => .unfinished
    | c :: rest =>
      if 0x30 ≤ c ∧ c ≤ 0x39 then
        match rest with
        | d :: e :: _ => char? (gb18030Four? b c d e) 3
        | _ => .unfinished
      else char? (gb18030Pair? b c) 1

/-- A step in HZ; the state tells whether GB 2312 is shifted in. -/
def hzStep (shifted : Bool) (b : Nat) (bs : List Nat) : Step Bool :=
  if b = 0x7E then
    match bs with
    | [] => .unfinished
    | c :: _ =>
      if c = 0x7E ∧ !shifted then .text ['~'] 1 shifted
      else if c = 0x7B ∧ !shifted then .text [] 1 true
      else if c = 0x0A ∧ !shifted then .text [] 1 shifted
      else if c = 0x7D ∧ shifted then .text [] 1 false
      else .unknown 0
  else if 0x80 ≤ b then .unknown 0
  else if !shifted then .text [Char.ofNat b] 0 shifted
  else
    match bs with
    | [] => .unfinished
    | c :: _ =>
      match gb2312.square? b c with
      | some x => .text [x] 1 shifted
      | none => .unknown 0

/-- The cell of a trail byte that is 0x40 to 0x7E or 0xA1 to 0xFE. -/
def narrowCell? (c : Nat) : Option Nat :=
  if 0x40 ≤ c ∧ c ≤ 0x7E then some (c - 0x40)
  else if 0xA1 ≤ c ∧ c ≤ 0xFE then some (c - 0x62)
  else none

/-- The characters of Big5. -/
def big5? (b c : Nat) : Option Char := (narrowCell? c).bind (big5.char? b)

/-- The characters of Big5 as Windows has them. -/
def windowsBig5? (b c : Nat) : Option Char :=
  (narrowCell? c).bind fun cell => windowsBig5.char? b cell <|> big5.char? b cell

/-- The pairs of bytes that stand for a letter with a mark of its own. -/
def marked? (b c : Nat) : Option String :=
  if b ≠ 0x88 then none
  else if c = 0x62 then some "\u00ca\u0304"
  else if c = 0x64 then some "\u00ca\u030c"
  else if c = 0xA3 then some "\u00ea\u0304"
  else if c = 0xA5 then some "\u00ea\u030c"
  else none

/-- The characters of Big5 with the Hong Kong supplement, which replaces all of the rows 0xC7 and
0xC8 and the end of the row 0xC6. -/
def hongKong? (b c : Nat) : Option (List Char) :=
  let replaced := b = 0xC7 || b = 0xC8 || (b = 0xC6 && 0xA1 ≤ c)
  let plain := if replaced then none else big5? b c
  (plain <|> (narrowCell? c).bind (hongKong.char? b)).map ([·]) <|> (marked? b c).map String.toList

/-- A step in Big5 with the Hong Kong supplement. -/
def hongKongStep (_ : Unit) (b : Nat) (bs : List Nat) : Step Unit :=
  if b < 0x80 then char (Char.ofNat b) 0
  else
    match bs with
    | [] => .unfinished
    | c :: _ =>
      match hongKong? b c with
      | some cs => .text cs 1 ()
      | none => .unknown 0

end Chinese

end Text

end TokenBroker
