import Mathlib.Data.Option.Basic
import TokenBroker.Proofs.Time.Calendar
import TokenBroker.Time.Reader

/-!
# Reading times as written

Every time is read back from the text that it is written as, in either style of universal time
(`DateTime.read_render`). Numbers are written in fields of fixed width, so that each field can be
taken from the front of the text (`fixedDigits?_padded`) and leaves the next one.
-/

namespace TokenBroker

namespace DateTime

variable {n w : Nat} {cs rest : List Char}

/-! ## Fields of digits -/

theorem padded_succ (hw : 0 < w) (n : Nat) :
    padded (w + 1) n = padded w (n / 10) ++ [Nat.digitChar (n % 10)] := by
  unfold padded Binary64.digitsOf
  rcases Nat.lt_or_ge n 10 with small | large
  · have zero : n / 10 = 0 := Nat.div_eq_of_lt small
    rw [Nat.toDigits_of_lt_base small, zero, Nat.mod_eq_of_lt small]
    obtain ⟨v, rfl⟩ := Nat.exists_eq_add_of_lt hw
    simp [List.replicate_succ']
  · rw [Nat.toDigits_eq_if (by decide), if_neg (Nat.not_lt_of_le large)]
    simp

/-- A row of digits of a width that stands for a number. -/
structure Denotes (w n : Nat) (cs : List Char) : Prop where
  length : cs.length = w
  digits : ∀ c ∈ cs, c.isDigit = true
  value : Text.ofDigits (cs.map fun c => c.toNat - 0x30) = n

theorem isDigit_digitChar (h : n < 10) : (Nat.digitChar n).isDigit = true := by
  have code := Nat.toNat_digitChar_of_lt_ten h
  simp only [Char.isDigit, Bool.and_eq_true, decide_eq_true_eq, UInt32.le_iff_toNat_le]
  simp only [Char.toNat] at code
  constructor
  · show 48 ≤ _
    omega
  · show _ ≤ 57
    omega

/-- A number that fits a field is written in it. -/
theorem denotes_padded (hw : 0 < w) (hn : n < 10 ^ w) : Denotes w n (padded w n) := by
  induction w, hw using Nat.le_induction generalizing n with
  | base =>
    have small : n < 10 := by simpa using hn
    have one : padded 1 n = [Nat.digitChar n] := by
      unfold padded Binary64.digitsOf
      rw [Nat.toDigits_of_lt_base small]
      rfl
    rw [one]
    refine ⟨rfl, ?_, ?_⟩
    · simpa using isDigit_digitChar small
    · simp [Text.ofDigits, Nat.toNat_digitChar_of_lt_ten small]
  | succ w hw ih =>
    have front := ih (n := n / 10) (by rw [Nat.pow_succ] at hn; omega)
    have last : n % 10 < 10 := Nat.mod_lt n (by decide)
    rw [padded_succ hw]
    refine ⟨?_, ?_, ?_⟩
    · rw [List.length_append, front.length]
      rfl
    · intro c hc
      rcases List.mem_append.1 hc with hc | hc
      · exact front.digits c hc
      · rw [List.mem_singleton.1 hc]
        exact isDigit_digitChar last
    · rw [List.map_append, List.map_singleton, Text.ofDigits_append_singleton, front.value,
        Nat.toNat_digitChar_of_lt_ten last]
      omega

theorem mapM_asciiDigitValue? (h : ∀ c ∈ cs, c.isDigit = true) :
    cs.mapM Text.asciiDigitValue? = some (cs.map fun c => c.toNat - 0x30) := by
  induction cs with
  | nil => rfl
  | cons c cs ih =>
    have hc : Text.asciiDigitValue? c = some (c.toNat - 0x30) := by
      rw [Text.asciiDigitValue?, if_pos (h c List.mem_cons_self)]
    rw [List.mapM_cons, hc, ih fun d hd => h d (List.mem_cons_of_mem c hd)]
    rfl

/-- A field is taken from the front of a text. -/
theorem fixedDigits?_padded (hw : 0 < w) (hn : n < 10 ^ w) (rest : List Char) :
    fixedDigits? w (padded w n ++ rest) = some (n, rest) := by
  have field := denotes_padded hw hn
  have front : (padded w n ++ rest).take w = padded w n := List.take_left' field.length
  have back : (padded w n ++ rest).drop w = rest := List.drop_left' field.length
  unfold fixedDigits?
  simp [guard, front, back, field.length, mapM_asciiDigitValue? field.digits, field.value]

/-! ## Date, time of day and offset -/

theorem daysInMonth_le (year month : Nat) : Calendar.daysInMonth year month ≤ 31 := by
  unfold Calendar.daysInMonth
  split
  all_goals first | decide | (split <;> decide)

theorem datePart?_dateChars (d : Date) (rest : List Char) :
    datePart? (dateChars d ++ rest) = some ((d.year, d.month, d.day), rest) := by
  have hy : d.year < 10 ^ 4 := by
    have := d.year_valid.2
    unfold Calendar.lastYear at this
    omega
  have hm : d.month < 10 ^ 2 := by
    have := d.month_valid.2
    omega
  have hd : d.day < 10 ^ 2 := by
    have := d.day_valid.2
    have := daysInMonth_le d.year d.month
    omega
  have year := fixedDigits?_padded (by decide : 0 < 4) hy
  have month := fixedDigits?_padded (by decide : 0 < 2) hm
  have day := fixedDigits?_padded (by decide : 0 < 2) hd
  have valid := And.intro d.month_valid.1 (And.intro d.month_valid.2 d.day_valid)
  unfold datePart? dateChars
  simp [guard, year, month, day, afterChar?, valid]

/-- What can follow a time of day in a written time. -/
def EndsTime (rest : List Char) : Prop :=
  ∀ c ∈ rest.head?, c ≠ '.' ∧ c ≠ ',' ∧ c.isDigit = false

theorem takeWhile_isDigit (h : ∀ c ∈ cs, c.isDigit = true) (ends : EndsTime rest) :
    (cs ++ rest).takeWhile Char.isDigit = cs ∧ (cs ++ rest).dropWhile Char.isDigit = rest := by
  rw [List.takeWhile_append_of_pos h, List.dropWhile_append_of_pos h]
  cases rest with
  | nil => simp
  | cons c rest =>
    have other : c.isDigit = false := (ends c rfl).2.2
    simp [other]

theorem fractionPart?_written {fraction : Nat} (h : fraction < 10 ^ 6) (ends : EndsTime rest) :
    fractionPart? ((if fraction = 0 then [] else '.' :: padded 6 fraction) ++ rest) =
      some (fraction, rest) := by
  by_cases whole : fraction = 0
  · rw [if_pos whole, List.nil_append, whole]
    cases rest with
    | nil => rfl
    | cons c rest =>
      obtain ⟨point, comma, -⟩ := ends c rfl
      simp [fractionPart?, point, comma]
  · rw [if_neg whole]
    have field := denotes_padded (by decide) h
    obtain ⟨digits, others⟩ := takeWhile_isDigit field.digits ends
    have some_digits : padded 6 fraction ≠ [] := by
      intro none
      have := field.length
      rw [none] at this
      cases this
    have kept (zeros : List Nat) :
        ((padded 6 fraction).map (fun c : Char => c.toNat - 0x30) ++ zeros).take 6 =
          (padded 6 fraction).map fun c : Char => c.toNat - 0x30 :=
      List.take_left' (by rw [List.length_map, field.length])
    simp [fractionPart?, digits, others, some_digits, kept, field.value]

theorem timePart?_timeChars {micros : Nat} (h : micros < microsPerDay) (ends : EndsTime rest) :
    timePart? (timeChars micros ++ rest) = some (micros, rest) := by
  unfold microsPerDay at h
  have hh : micros / 1000000 / 3600 < 10 ^ 2 := by omega
  have hm : micros / 1000000 / 60 % 60 < 10 ^ 2 := by omega
  have hs : micros / 1000000 % 60 < 10 ^ 2 := by omega
  have hf : micros % 1000000 < 10 ^ 6 := Nat.mod_lt _ (by decide)
  have hour := fixedDigits?_padded (by decide : 0 < 2) hh
  have minute := fixedDigits?_padded (by decide : 0 < 2) hm
  have second := fixedDigits?_padded (by decide : 0 < 2) hs
  have fraction := fractionPart?_written hf ends
  have valid : micros / 1000000 / 3600 < 24 ∧ micros / 1000000 / 60 % 60 < 60 := by omega
  have valid' : micros / 1000000 % 60 < 60 := by omega
  unfold timePart? timeChars
  simp [guard, hour, minute, second, fraction, afterChar?, valid, valid']
  omega

theorem zonePart?_zoneChars (style : ZoneStyle) {offset : Int}
    (h : -1440 < offset ∧ offset < 1440) :
    zonePart? (zoneChars style offset) = some (some offset) := by
  by_cases utc : offset = 0 ∧ style = .letter
  · rw [zoneChars, if_pos utc, utc.1]
    rfl
  · rw [zoneChars, if_neg utc]
    generalize size : offset.natAbs = d
    have hours := fixedDigits?_padded (by decide : 0 < 2) (by omega : d / 60 < 10 ^ 2)
    have minutes := fixedDigits?_padded (by decide : 0 < 2) (by omega : d % 60 < 10 ^ 2) []
    have valid : d / 60 < 24 ∧ d % 60 < 60 := by omega
    rw [List.append_nil] at minutes
    by_cases negative : offset < 0
    · simp [guard, zonePart?, negative, hours, minutes, afterChar?, valid, Binary64.signed]
      omega
    · simp [guard, zonePart?, negative, hours, minutes, afterChar?, valid, Binary64.signed]
      omega

theorem endsTime_zoneChars (style : ZoneStyle) (offset : Int) :
    EndsTime (zoneChars style offset) := by
  intro c hc
  unfold zoneChars at hc
  split at hc
  · cases hc
    decide
  · cases hc
    split <;> decide

/-! ## The whole text -/

theorem calendarForm?_chars (style : ZoneStyle) (t : DateTime) :
    calendarForm? (dateChars t.date ++ 'T' :: timeChars t.micros ++ zoneChars style t.offset) =
      some (t.date.year, t.date.month, t.date.day, t.micros, some t.offset) := by
  have time := timePart?_timeChars t.micros_lt (endsTime_zoneChars style t.offset)
  have zone := zonePart?_zoneChars style t.offset_valid
  unfold calendarForm?
  simp [datePart?_dateChars, time, zone, afterChar?]

/-- A written time is read with its offset. -/
theorem readGiven_render (style : ZoneStyle) (t : DateTime) :
    readGiven (t.render style) = .ok t.given := by
  have valid := And.intro t.micros_lt t.offset_valid
  unfold readGiven render
  simp only [String.toList_ofList, calendarForm?_chars, ofParts?, Date.ofParts?_self, dif_pos valid]
  rfl

theorem ofZoned?_given (t : DateTime) : ofZoned? t.given.zoned = some t := by
  have minutes : t.given.zoned.offset.micros = t.offset * 60000000 := rfl
  have whole : t.offset * 60000000 / 60000000 = t.offset := Int.mul_ediv_cancel _ (by decide)
  unfold ofZoned?
  simp only [minutes, whole, Int.dvd_mul_left, dite_true]
  rfl

/-- A written time reads as itself. -/
theorem read_render (style : ZoneStyle) (t : DateTime) : read (t.render style) = .ok t := by
  unfold read
  simp only [readGiven_render, ofZoned?_given]

end DateTime

end TokenBroker
