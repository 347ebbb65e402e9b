import Mathlib.Data.List.Basic
import TokenBroker.Base64
import TokenBroker.Endpoint.Request
import TokenBroker.Proofs.Text.Utf8
import TokenBroker.Text.Digit

/-!
# Reading what a client writes

The other ends of `Base64.encode` and `Form.encode`: how a server reads base64 and form-encoded
fields. Both readers are strict, and what is written is read back (`Base64.decode_encode`,
`Form.decode_encode`), whatever characters the names and values are made of. For fields this rests
on the written form of a byte, which has none of the characters that separate names, values and
fields (`Form.not_separator_of_mem_encodeByte`).
-/

namespace TokenBroker

/-! ## Base64 -/

namespace Base64

/-- The bytes of a written form. The bits that a padded group leaves over have to be zero. -/
def decode : List Char → Option (List UInt8)
  | [] => some []
  | [a, b, '=', '='] => do
    let a ← value? a
    let b ← value? b
    if b % 16 = 0 then some [UInt8.ofNat (a * 4 + b / 16)] else none
  | [a, b, c, '='] => do
    let a ← value? a
    let b ← value? b
    let c ← value? c
    if c % 4 = 0 then some [UInt8.ofNat (a * 4 + b / 16), UInt8.ofNat (b % 16 * 16 + c / 4)]
    else none
  | a :: b :: c :: d :: rest => do
    let a ← value? a
    let b ← value? b
    let c ← value? c
    let d ← value? d
    let bytes ← decode rest
    some (UInt8.ofNat (a * 4 + b / 16) :: UInt8.ofNat (b % 16 * 16 + c / 4) ::
      UInt8.ofNat (c % 4 * 64 + d) :: bytes)
  | _ => none

/-- A digit is no padding. -/
theorem digit_ne_padding {n : Nat} (h : n < 64) : digit n ≠ '=' := by
  intro padding
  have value := value?_digit h
  rw [padding] at value
  cases value

theorem ofNat_eq {n : Nat} {b : UInt8} (h : n = b.toNat) : UInt8.ofNat n = b := by
  rw [h, UInt8.ofNat_toNat]

/-- What is written of bytes is read back as those bytes. -/
theorem decode_encode (bytes : List UInt8) : decode (encode bytes) = some bytes := by
  fun_induction encode bytes with
  | case1 => rfl
  | case2 a =>
    have ha := a.toNat_lt
    simp only [decode, value?_digit (show a.toNat / 4 < 64 by omega),
      value?_digit (show a.toNat % 4 * 16 < 64 by omega), Option.bind_eq_bind, Option.bind_some]
    rw [if_pos (by omega), ofNat_eq (b := a) (by omega)]
  | case3 a b =>
    have ha := a.toNat_lt
    have hb := b.toNat_lt
    have third : digit (b.toNat % 16 * 4) ≠ '=' := digit_ne_padding (by omega)
    rw [decode]
    · simp only [value?_digit (show a.toNat / 4 < 64 by omega),
        value?_digit (show a.toNat % 4 * 16 + b.toNat / 16 < 64 by omega),
        value?_digit (show b.toNat % 16 * 4 < 64 by omega), Option.bind_eq_bind, Option.bind_some]
      rw [if_pos (by omega), ofNat_eq (b := a) (by omega), ofNat_eq (b := b) (by omega)]
    · exact third
  | case4 a b c rest ih =>
    have ha := a.toNat_lt
    have hb := b.toNat_lt
    have hc := c.toNat_lt
    have last : digit (c.toNat % 64) ≠ '=' := digit_ne_padding (by omega)
    rw [decode]
    · simp only [value?_digit (show a.toNat / 4 < 64 by omega),
        value?_digit (show a.toNat % 4 * 16 + b.toNat / 16 < 64 by omega),
        value?_digit (show b.toNat % 16 * 4 + c.toNat / 64 < 64 by omega),
        value?_digit (show c.toNat % 64 < 64 by omega), ih, Option.bind_eq_bind, Option.bind_some]
      rw [ofNat_eq (b := a) (by omega), ofNat_eq (b := b) (by omega), ofNat_eq (b := c) (by omega)]
    -- a whole group is read as one only if it does not end in padding
    · intro _ padding
      exact absurd padding last
    · intro padding
      exact absurd padding last

end Base64

/-! ## Fields -/

namespace Form

/-- The bytes of a written name or value: `+` is a blank, `%` stands before the two digits of a
byte, and any other character has to be one of ASCII. -/
def decodeBytes : List Char → Option (List UInt8)
  | [] => some []
  | '%' :: high :: low :: cs => do
    let high ← Text.hexValue? high
    let low ← Text.hexValue? low
    let bytes ← decodeBytes cs
    some (UInt8.ofNat (high * 16 + low) :: bytes)
  | c :: cs =>
    if c = '%' ∨ 0x80 ≤ c.toNat then none
    else do
      let bytes ← decodeBytes cs
      some ((if c = '+' then 0x20 else UInt8.ofNat c.toNat) :: bytes)

/-- The name or value of a written form. -/
def decodeText (cs : List Char) : Option String :=
  (decodeBytes cs).bind fun bytes => (Utf8.decode bytes).toOption

/-- What stands before and after the first separator, if there is one. -/
def splitFirst? (separator : Char) (cs : List Char) : Option (List Char × List Char) :=
  match cs.dropWhile (· ≠ separator) with
  | [] => none
  | _ :: rest => some (cs.takeWhile (· ≠ separator), rest)

/-- The field of a written form. -/
def decodeField (cs : List Char) : Option (String × String) := do
  let (name, value) ← splitFirst? '=' cs
  some (← decodeText name, ← decodeText value)

/-- The fields of a written form, in its order. Nothing between two `&` is no field. -/
def decode (s : String) : Option (List (String × String)) :=
  ((s.toList.splitOn '&').filter (· ≠ [])).mapM decodeField

/-! ### Bytes -/

/-- What a check of all bytes has found holds of each. -/
theorem forall_byte {P : UInt8 → Bool}
    (h : (List.range 256).all (fun n => P (UInt8.ofNat n)) = true) (b : UInt8) : P b = true := by
  have hb := List.all_eq_true.1 h b.toNat (List.mem_range.2 b.toNat_lt)
  rwa [UInt8.ofNat_toNat] at hb

/-- What separates fields, the name of a field from its value, and an id from a secret. -/
def separators : List Char := ['&', '=', ':']

theorem not_separator_of_mem_encodeByte {b : UInt8} {c : Char} (h : c ∈ encodeByte b) :
    c ∉ separators := by
  have all := forall_byte (P := fun b => (encodeByte b).all (!separators.contains ·))
    (by decide +kernel) b
  simpa using List.all_eq_true.1 all c h

/-- A byte that stands for itself is one of ASCII, and its character has no other meaning. -/
theorem unreserved_char {b : UInt8} (h : isUnreserved b = true) :
    let c := Char.ofNat b.toNat
    c ≠ '%' ∧ c ≠ '+' ∧ c.toNat < 0x80 ∧ UInt8.ofNat c.toNat = b := by
  have all := forall_byte
    (P := fun b => !isUnreserved b ||
      let c := Char.ofNat b.toNat
      decide (c ≠ '%' ∧ c ≠ '+' ∧ c.toNat < 0x80 ∧ UInt8.ofNat c.toNat = b))
    (by decide +kernel) b
  simpa [h] using all

theorem hexValue?_hexDigit : ∀ n < 16, Text.hexValue? (hexDigit n) = some n := by
  decide

theorem decodeBytes_plain {c : Char} (h : c ≠ '%') (ascii : c.toNat < 0x80) (cs : List Char) :
    decodeBytes (c :: cs) =
      (decodeBytes cs).map ((if c = '+' then 0x20 else UInt8.ofNat c.toNat) :: ·) := by
  rw [decodeBytes]
  · rw [if_neg (by simp [h, ascii])]
    cases decodeBytes cs <;> rfl
  · rintro _ _ _ rfl
    exact absurd rfl h

/-- The written form of a byte is read back, whatever follows it. -/
theorem decodeBytes_encodeByte (b : UInt8) (cs : List Char) :
    decodeBytes (encodeByte b ++ cs) = (decodeBytes cs).map (b :: ·) := by
  unfold encodeByte
  split
  · next unreserved =>
    obtain ⟨escape, blank, ascii, same⟩ := unreserved_char unreserved
    rw [List.singleton_append, decodeBytes_plain escape ascii, if_neg blank, same]
  · split
    · next blank =>
      rw [List.singleton_append, decodeBytes_plain (by decide) (by decide), if_pos rfl, blank]
    · have hb := b.toNat_lt
      have same : UInt8.ofNat (b.toNat / 16 * 16 + b.toNat % 16) = b := by
        rw [Nat.div_add_mod', UInt8.ofNat_toNat]
      rw [List.cons_append, List.cons_append, List.singleton_append, decodeBytes,
        hexValue?_hexDigit _ (by omega), hexValue?_hexDigit _ (by omega)]
      simp only [Option.bind_eq_bind, Option.bind_some, same]
      cases decodeBytes cs <;> rfl

theorem decodeBytes_encoded (bytes : List UInt8) :
    decodeBytes (bytes.flatMap encodeByte) = some bytes := by
  induction bytes with
  | nil => rfl
  | cons b bytes ih => rw [List.flatMap_cons, decodeBytes_encodeByte, ih, Option.map_some]

/-! ### Names and values -/

/-- What is written of a name or value is read back. -/
theorem decodeText_encodeText (s : String) : decodeText (encodeText s) = some s := by
  unfold decodeText encodeText
  rw [decodeBytes_encoded, Option.bind_some, Utf8.decode_encode]
  rfl

theorem not_separator_of_mem_encodeText {s : String} {c : Char} (h : c ∈ encodeText s) :
    c ∉ separators := by
  obtain ⟨b, -, hc⟩ := List.mem_flatMap.1 h
  exact not_separator_of_mem_encodeByte hc

theorem splitFirst?_append {separator : Char} {cs : List Char} (absent : separator ∉ cs)
    (rest : List Char) : splitFirst? separator (cs ++ separator :: rest) = some (cs, rest) := by
  have other : ∀ c ∈ cs, decide (c ≠ separator) = true := by
    intro c hc
    rw [decide_eq_true_iff]
    rintro rfl
    exact absent hc
  unfold splitFirst?
  rw [List.dropWhile_append_of_pos other, List.takeWhile_append_of_pos other]
  simp

/-! ### Fields -/

theorem decodeField_encodeField (field : String × String) :
    decodeField (encodeField field) = some field := by
  have absent : '=' ∉ encodeText field.1 := fun h => not_separator_of_mem_encodeText h (by decide)
  unfold decodeField encodeField
  rw [splitFirst?_append absent]
  simp only [Option.bind_eq_bind, Option.bind_some, decodeText_encodeText]

theorem not_mem_encodeField (field : String × String) : '&' ∉ encodeField field := by
  intro h
  rcases List.mem_append.1 h with name | value
  · exact not_separator_of_mem_encodeText name (by decide)
  · rcases List.mem_cons.1 value with sign | value
    · cases sign
    · exact not_separator_of_mem_encodeText value (by decide)

theorem mapM_decodeField (fields : List (String × String)) :
    (fields.map encodeField).mapM decodeField = some fields := by
  induction fields with
  | nil => rfl
  | cons field fields ih =>
    rw [List.map_cons, List.mapM_cons, decodeField_encodeField, ih]
    rfl

/-- What is written of fields is read back as those fields. -/
theorem decode_encode (fields : List (String × String)) : decode (encode fields) = some fields := by
  have parts : ((encode fields).toList.splitOn '&').filter (· ≠ []) = fields.map encodeField := by
    unfold encode
    rw [String.toList_ofList]
    cases fields with
    | nil => rfl
    | cons field fields =>
      rw [List.splitOn_intercalate _ _ (by simp), List.filter_eq_self]
      · intro part hp
        obtain ⟨f, -, rfl⟩ := List.mem_map.1 hp
        simp [encodeField]
      · intro part hp
        obtain ⟨f, -, rfl⟩ := List.mem_map.1 hp
        exact not_mem_encodeField f
  unfold decode
  rw [parts, mapM_decodeField]

end Form

end TokenBroker
