import TokenBroker.Text.Utf8

/-!
# Texts as bytes and back

The bytes of a character are read back as that character, whatever follows them
(`Utf8.front_encodeChar`), so a text that is written is read back (`Utf8.decode_encode`). The ranges
in which `Utf8.front` accepts a second byte are narrower after some first bytes; no code point
leaves them, since none of a character is a surrogate (`Utf8.codePoint_cases`).
-/

namespace TokenBroker

namespace Utf8

variable {c : Char} {v : Nat}

/-- The code point of a character is none of the surrogates. -/
theorem codePoint_cases (c : Char) : c.toNat < 0xD800 ∨ 0xE000 ≤ c.toNat ∧ c.toNat < 0x110000 := by
  have valid : c.toNat.isValidChar := c.valid
  unfold Nat.isValidChar at valid
  omega

theorem toNat_byte {b : Nat} (h : b < 256) : (UInt8.ofNat b).toNat = b :=
  UInt8.toNat_ofNat_of_lt' h

/-- A byte that is in its range continues a character. -/
theorem continuation_succ {value width lo hi b : Nat} (n : Nat) (rest : List UInt8) (low : lo ≤ b)
    (high : b ≤ hi) (byte : b < 256) :
    continuation value width lo hi (n + 1) (UInt8.ofNat b :: rest) =
      continuation (value * 64 + (b - 0x80)) (width + 1) 0x80 0xBF n rest := by
  rw [continuation, toNat_byte byte, if_pos ⟨low, high⟩]

/-- The last byte of a character. -/
theorem continuation_one {value width lo hi b : Nat} (rest : List UInt8) (low : lo ≤ b)
    (high : b ≤ hi) (byte : b < 256) (whole : value * 64 + (b - 0x80) = c.toNat) :
    continuation value width lo hi 1 (UInt8.ofNat b :: rest) = .char c rest := by
  rw [continuation_succ 0 rest low high byte, continuation, whole, Char.ofNat_toNat]

/-! ## Characters by the number of their bytes -/

theorem front_oneByte (hv : c.toNat = v) (small : v ≤ 0x7F) (rest : List UInt8) :
    front (UInt8.ofNat v :: rest) = .char c rest := by
  rw [front]
  simp only [toNat_byte (show v < 256 by omega)]
  rw [if_pos (by omega), ← hv, Char.ofNat_toNat]

theorem front_twoBytes (hv : c.toNat = v) (low : 0x80 ≤ v) (high : v ≤ 0x7FF) (rest : List UInt8) :
    front (UInt8.ofNat (v / 64 % 32 + 192) :: UInt8.ofNat (v % 64 + 128) :: rest) =
      .char c rest := by
  rw [front]
  simp only [toNat_byte (show v / 64 % 32 + 192 < 256 by omega)]
  rw [if_neg (by omega), if_neg (by omega), if_pos (by omega)]
  exact continuation_one rest (by omega) (by omega) (by omega) (by omega)

theorem front_threeBytes (hv : c.toNat = v) (low : 0x800 ≤ v) (high : v ≤ 0xFFFF)
    (rest : List UInt8) :
    front (UInt8.ofNat (v / 4096 % 16 + 224) :: UInt8.ofNat (v / 64 % 64 + 128) ::
      UInt8.ofNat (v % 64 + 128) :: rest) = .char c rest := by
  have range := codePoint_cases c
  rw [hv] at range
  rw [front]
  simp only [toNat_byte (show v / 4096 % 16 + 224 < 256 by omega)]
  rw [if_neg (by omega), if_neg (by omega), if_neg (by omega)]
  -- E0 and ED leave less room for the second byte
  split
  · rw [continuation_succ _ _ (by omega) (by omega) (by omega)]
    exact continuation_one rest (by omega) (by omega) (by omega) (by omega)
  · split
    · rw [continuation_succ _ _ (by omega) (by omega) (by omega)]
      exact continuation_one rest (by omega) (by omega) (by omega) (by omega)
    · rw [if_pos (by omega), continuation_succ _ _ (by omega) (by omega) (by omega)]
      exact continuation_one rest (by omega) (by omega) (by omega) (by omega)

theorem front_fourBytes (hv : c.toNat = v) (low : 0x10000 ≤ v) (rest : List UInt8) :
    front (UInt8.ofNat (v / 262144 % 8 + 240) :: UInt8.ofNat (v / 4096 % 64 + 128) ::
      UInt8.ofNat (v / 64 % 64 + 128) :: UInt8.ofNat (v % 64 + 128) :: rest) = .char c rest := by
  have range := codePoint_cases c
  rw [hv] at range
  rw [front]
  simp only [toNat_byte (show v / 262144 % 8 + 240 < 256 by omega)]
  rw [if_neg (by omega), if_neg (by omega), if_neg (by omega), if_neg (by omega), if_neg (by omega),
    if_neg (by omega)]
  -- and so do F0 and F4
  split
  · rw [continuation_succ _ _ (by omega) (by omega) (by omega),
      continuation_succ _ _ (by omega) (by omega) (by omega)]
    exact continuation_one rest (by omega) (by omega) (by omega) (by omega)
  · split
    · rw [continuation_succ _ _ (by omega) (by omega) (by omega),
        continuation_succ _ _ (by omega) (by omega) (by omega)]
      exact continuation_one rest (by omega) (by omega) (by omega) (by omega)
    · rw [if_pos (by omega), continuation_succ _ _ (by omega) (by omega) (by omega),
        continuation_succ _ _ (by omega) (by omega) (by omega)]
      exact continuation_one rest (by omega) (by omega) (by omega) (by omega)

/-- The bytes of a character are read back, whatever follows them. -/
theorem front_encodeChar (c : Char) (rest : List UInt8) :
    front (String.utf8EncodeChar c ++ rest) = .char c rest := by
  have value : c.val.toNat = c.toNat := rfl
  unfold String.utf8EncodeChar
  simp only [value]
  split
  · next one => exact front_oneByte rfl one rest
  · next one =>
    split
    · next two => exact front_twoBytes rfl (by omega) two rest
    · next two =>
      split
      · next three => exact front_threeBytes rfl (by omega) three rest
      · next three => exact front_fourBytes rfl (by omega) rest

/-! ## Texts -/

theorem decodeChars_encoded {fuel : Nat} (cs : List Char) (enough : cs.length ≤ fuel)
    (position : Nat) :
    decodeChars fuel position (cs.flatMap String.utf8EncodeChar) = .ok cs := by
  induction cs generalizing fuel position with
  | nil => cases fuel <;> rfl
  | cons c cs ih =>
    cases fuel with
    | zero => simp at enough
    | succ fuel =>
      rw [List.length_cons, Nat.add_le_add_iff_right] at enough
      rw [List.flatMap_cons, decodeChars]
      simp only [front_encodeChar, ih enough]
      rfl

theorem length_le_encode (s : String) : s.toList.length ≤ (encode s).length := by
  unfold encode
  generalize s.toList = cs
  induction cs with
  | nil => exact Nat.le_refl _
  | cons c cs ih =>
    have bytes := List.length_pos_iff.2 (String.utf8EncodeChar_ne_nil (c := c))
    rw [List.flatMap_cons, List.length_append, List.length_cons]
    omega

/-- What is written of a text is read back as that text. -/
theorem decode_encode (s : String) : decode (encode s) = .ok s := by
  have read := decodeChars_encoded s.toList (length_le_encode s) 0
  unfold decode
  rw [show encode s = s.toList.flatMap String.utf8EncodeChar from rfl] at read ⊢
  rw [read]
  show Except.ok (String.ofList s.toList) = _
  rw [String.ofList_toList]

end Utf8

end TokenBroker
