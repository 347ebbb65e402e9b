import TokenBroker.Text.DoubleByte.Chinese
import TokenBroker.Text.DoubleByte.Japanese
import TokenBroker.Text.DoubleByte.Korean

/-!
# ISO 2022

Charsets with bytes below 0x80 alone, in which escape sequences say to which set the bytes that
follow belong. A sequence puts a set into one of three places: the first, from which bytes are read,
the second, which a shift puts into its stead, and the third, from which one character at a time can
be taken.
-/

namespace TokenBroker

namespace Text

namespace Iso2022

/-- The sets that a sequence can select. -/
inductive Set
  | ascii
  | latin1
  | greek
  | roman
  | katakana
  | jisX0208
  | jisX0208Older
  | jisX0212
  | jisX0213First (e : Japanese.Edition)
  | jisX0213Second
  | ksX1001
  | gb2312
  deriving DecidableEq, Repr

/-- The sets by the final byte of their sequences, and whether they take two bytes. The older
edition of JIS X 0208 has the same characters under a sequence of its own. -/
def marks : List (Set × Nat × Bool) :=
  [(.ascii, 0x42, false), (.latin1, 0x41, false), (.greek, 0x46, false), (.roman, 0x4A, false),
    (.katakana, 0x49, false), (.jisX0208, 0x42, true), (.jisX0208Older, 0x40, true),
    (.jisX0212, 0x44, true), (.jisX0213First .first, 0x4F, true), (.jisX0213First .second, 0x51, true),
    (.jisX0213Second, 0x50, true), (.ksX1001, 0x43, true), (.gb2312, 0x41, true)]

/-- A member of the family: the sets that it knows besides ASCII, whether it shifts, and whether it
takes single characters from the third place. -/
structure Variant where
  sets : List Set
  shifts : Bool := false
  takesSingle : Bool := false
  /-- Whether a prefix may announce the later edition of JIS X 0208. -/
  announces : Bool := true

/-- Which sets stand in the three places, whether the second is shifted in, and whether an unknown
sequence passes through. -/
structure State where
  first : Set := .ascii
  second : Set := .ascii
  third : Set := .ascii
  shifted : Bool := false
  passing : Bool := false

/-- The set that a variant knows under a final byte. -/
def Variant.set? (v : Variant) (mark : Nat) (wide : Bool) : Option Set :=
  (marks.find? fun (s, m, w) => m = mark && w = wide && (s = .ascii || v.sets.contains s)).map (·.1)

/-- The number of bytes of a character. -/
def Set.width (s : Set) : Nat := if marks.any fun (t, _, w) => t = s && w then 2 else 1

/-- The letters of ISO 8859-7 as these charsets have them. -/
def greekLetters : String :=
  "\u00a0‘’£��¦§¨©�«¬\u00ad�―°±²³΄΅Ά·ΈΉΊ»Ό½ΎΏΐΑΒΓΔΕΖΗΘΙΚΛΜΝΞΟΠΡ�ΣΤΥΦΧΨΩΪΫάέήίΰαβγδεζηθικλμ" ++
    "νξοπρςστυφχψωϊϋόύώ"

/-- The text of one byte in a set. -/
def Set.one? (b : Nat) : Set → Option (List Char)
  | .roman => (Japanese.roman? b).map ([·])
  | .katakana => (Japanese.katakana? (b + 0x80)).map ([·])
  | _ => none

/-- The text of two bytes in a set. -/
def Set.two? (b c : Nat) : Set → Option (List Char)
  | .jisX0208 => (Text.jisX0208.square? b c).map ([·])
  | .jisX0208Older => (Text.jisX0208.square? b c).map ([·])
  | .jisX0212 => (Text.jisX0212.square? b c).map ([·])
  | .jisX0213First e =>
    if e = .first ∧ Japanese.laterCells.contains (b, c) then none else Japanese.firstPlane? b c
  | .jisX0213Second => (Text.jisX0213Second.square? b c).map ([·])
  | .ksX1001 => (Text.ksX1001.square? b c).map ([·])
  | .gb2312 => (Text.gb2312.square? b c).map ([·])
  | _ => none

/-- The character of a byte in the third place. -/
def Set.raised? (b : Nat) : Set → Option Char
  | .ascii => if b < 0x80 then some (Char.ofNat b) else none
  | .latin1 => if b < 0x80 then some (Char.ofNat (b + 0x80)) else none
  | .greek =>
    if 0x80 ≤ b then none
    else if b < 0x20 then some (Char.ofNat (b + 0x80))
    else (greekLetters.toList[b - 0x20]?).filter (· ≠ '\uFFFD')
  | _ => none

open Reading

/-- The longest sequence. -/
def longestSequence : Nat := 16

/-- Whether a byte ends a sequence. -/
def isEnd (b : Nat) : Bool := (0x41 ≤ b && b ≤ 0x5A) || b = 0x40

/-- Whether a byte after an escape begins a sequence. -/
def isIntroducer (b : Nat) : Bool := [0x28, 0x29, 0x24, 0x2E, 0x26].contains b

/-- The number of bytes up to the end of a sequence, from `seen` bytes on: none is decided by the
bytes that are there, or the sequence never ends. The two bytes of an announcement, and the escape
after them, end none. -/
def sequenceEnd (announces : Bool) (seen : Nat) : List Nat → Option (Option Nat)
  | [] => if longestSequence ≤ seen then some none else none
  | b :: bs =>
    if longestSequence ≤ seen then some none
    else if isEnd b then some (some (seen + 1))
    else if announces ∧ b = 0x26 ∧ bs.head? = some 0x40 then
      sequenceEnd announces (seen + 3) (bs.drop 2)
    else sequenceEnd announces (seen + 1) bs
termination_by bs => bs.length
decreasing_by
  all_goals simp only [List.length_drop, List.length_cons]
  all_goals omega

/-- The state after a set has been put into a place, which the intermediate byte names. -/
def State.designate? (v : Variant) (s : State) (place mark : Nat) (wide : Bool) : Option State := do
  let set ← v.set? mark wide
  if place = 0x28 then some { s with first := set }
  else if place = 0x29 then some { s with second := set }
  else if place = 0x2E ∧ v.takesSingle ∧ !wide then some { s with third := set }
  else none

/-- The state after the sequence of some bytes, which are given without the escape. -/
def State.after? (v : Variant) (s : State) : List Nat → Option State
  | [a, b] => if a = 0x24 then s.designate? v 0x28 b true else s.designate? v a b false
  | [a, b, c] => if a = 0x24 ∧ b ≠ 0x2E then s.designate? v b c true else none
  | [_, _, c, d, e] =>
    if v.announces ∧ c = 0x1B ∧ d = 0x24 ∧ e = 0x42 then s.designate? v 0x28 e true else none
  | _ => none

/-- A step at an escape. -/
def escapeStep (v : Variant) (s : State) (bs : List Nat) : Step State :=
  match bs with
  | [] => .unfinished
  | b :: rest =>
    if isIntroducer b then
      match sequenceEnd v.announces 1 bs with
      | none => .unfinished
      | some none => .unknown 0
      | some (some length) =>
        match s.after? v (bs.take (length - 1)) with
        | some s => .text [] (length - 1) s
        | none => .unknown (length - 1)
    else if v.takesSingle ∧ b = 0x4E then
      match rest with
      | [] => .unfinished
      | c :: _ =>
        if s.third = .ascii ∨ s.third = .latin1 ∨ s.third = .greek then
          match s.third.raised? c with
          | some x => .text [x] 2 s
          | none => .unknown 2
        else .unusable
    else .text ['\x1b'] 0 { s with passing := true }

/-- A step in a set. -/
def Set.step (set : Set) (s : State) (b : Nat) (bs : List Nat) : Step State :=
  if set = .ascii then .text [Char.ofNat b] 0 s
  else if set.width = 2 then
    match bs with
    | [] => .unfinished
    | c :: _ =>
      match set.two? b c with
      | some cs => .text cs 1 s
      | none => .unknown 1
  else
    match set.one? b with
    | some cs => .text cs 0 s
    | none => .unknown 0

/-- A step in a variant. -/
def step (v : Variant) (s : State) (b : Nat) (bs : List Nat) : Step State :=
  if s.passing then .text [Char.ofNat b] 0 { s with passing := !isEnd b }
  else if b = 0x1B then escapeStep v s bs
  else if b = 0x0F ∧ v.shifts then .text [] 0 { s with shifted := false }
  else if b = 0x0E ∧ v.shifts then .text [] 0 { s with shifted := true }
  else if b = 0x0A then .text ['\n'] 0 { s with shifted := false }
  else if b < 0x20 then .text [Char.ofNat b] 0 s
  else if 0x80 ≤ b then .unknown 0
  else Set.step (if s.shifted then s.second else s.first) s b bs

/-- The Korean variant. -/
def korean : Variant := { sets := [.ksX1001], shifts := true, announces := false }

/-- The Japanese variant. -/
def japanese : Variant := { sets := [.jisX0208, .jisX0208Older, .roman] }

/-- The Japanese variant with the supplementary set. -/
def japanese1 : Variant := { sets := [.jisX0208, .jisX0208Older, .jisX0212, .roman] }

/-- The variant for several languages. -/
def japanese2 : Variant :=
  { sets := [.jisX0208, .jisX0208Older, .jisX0212, .ksX1001, .gb2312, .roman, .latin1, .greek]
    takesSingle := true }

/-- The Japanese variant with an edition of JIS X 0213. -/
def japanese0213 (e : Japanese.Edition) : Variant :=
  { sets := [.jisX0208, .jisX0213First e, .jisX0213Second] }

/-- The Japanese variant with the supplementary set and katakana. -/
def japaneseExtended : Variant where
  sets := [.jisX0208, .jisX0208Older, .jisX0212, .roman, .katakana]

end Iso2022

end Text

end TokenBroker
