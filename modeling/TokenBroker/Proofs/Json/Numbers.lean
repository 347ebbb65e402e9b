import TokenBroker.Json.Printer
import TokenBroker.Proofs.Decimal.Shortest
import TokenBroker.Proofs.Text.Digits

/-!
# Numbers read as written

Integers with few enough digits and finite binary numbers are read back from their texts
(`Json.readNumber_renderInt`, `Binary64.writes_render` with `Json.readNumber_numeral`). A numeral of
a binary number is made of its shortest digits, in either notation; the parts are read one by one,
and both notations denote the shortest decimal (`Binary64.numeral_positional`,
`Binary64.numeral_scientific`).
-/

namespace TokenBroker

open Text (valueOf AllDigits EndsDigits IsWhole Significant)

variable {cs whole fs rest : List Char} {power : Option Int} {negative : Bool}

namespace Json

/-- What can follow a number in a text. -/
def EndsNumber (rest : List Char) : Prop :=
  ∀ c ∈ rest.head?, c.isDigit = false ∧ c ≠ '.' ∧ c ≠ 'e' ∧ c ≠ 'E'

theorem EndsNumber.digits (ends : EndsNumber rest) : EndsDigits rest :=
  fun c head => (ends c head).1

/-! ## Parts of a numeral -/

/-- A written sign. -/
def signText (negative : Bool) : List Char := if negative then ['-'] else []

/-- A written fraction, unless it is empty. -/
def fractionText (fs : List Char) : List Char := if fs = [] then [] else '.' :: fs

/-- A written power of ten. -/
def powerText : Option Int → List Char
  | none => []
  | some power => 'e' :: Binary64.exponentText 2 power

theorem integerPart_append (isWhole : IsWhole whole) (ends : EndsDigits rest) :
    integerPart (whole ++ rest) = some (whole, rest) := by
  rcases isWhole with rfl | significant
  · rfl
  · have digits := Text.splitDigits_append significant.digits ends
    obtain ⟨d, tail, rfl, leading⟩ := significant.leading
    unfold integerPart
    rw [List.cons_append] at *
    split
    · next same => exact absurd (List.cons.inj same).1 leading
    · rw [digits]

theorem fractionPart_append (digits : AllDigits fs) (ends : EndsDigits rest)
    (point : '.' ∉ rest.head?) :
    fractionPart (fractionText fs ++ rest) = if fs = [] then none else some (fs, rest) := by
  unfold fractionText
  split
  · rw [List.nil_append]
    unfold fractionPart
    split
    · exact absurd rfl point
    · rfl
  · next some =>
    rw [List.cons_append]
    unfold fractionPart
    simp only [Text.splitDigits_append digits ends]
    split
    · next none => exact absurd (congrArg Prod.fst none) some
    · rfl

theorem signed_natAbs (n : Int) : Binary64.signed (decide (n < 0)) n.natAbs = n := by
  unfold Binary64.signed
  split
  · next negative =>
    have := of_decide_eq_true negative
    omega
  · next nonneg =>
    have := of_decide_eq_false (Bool.eq_false_iff.2 nonneg)
    omega

/-- A written exponent is a sign and digits. -/
theorem exists_exponentText (power : Int) :
    ∃ ds, Binary64.exponentText 2 power = (if power < 0 then '-' else '+') :: ds ∧ AllDigits ds ∧
    ds ≠ [] ∧
      valueOf ds = power.natAbs := by
  refine ⟨_, rfl, ?_, ?_, ?_⟩
  · intro c member
    rcases List.mem_append.1 member with zero | digit
    · exact Text.allDigits_zeros _ c zero
    · exact Text.allDigits_digitsOf _ c digit
  · exact List.append_ne_nil_of_right_ne_nil _ Nat.toDigits_ne_nil
  · rw [Text.valueOf_zeros_append, Text.valueOf_digitsOf]

theorem exponentPart_append (power : Option Int) (ends : EndsNumber rest) :
    exponentPart (powerText power ++ rest) = power.map (·, rest) := by
  cases power with
  | none =>
    rw [powerText, List.nil_append]
    unfold exponentPart
    cases rest with
    | nil => rfl
    | cons c rest =>
      obtain ⟨-, -, lower, upper⟩ := ends c rfl
      simp only [lower, upper, or_self, if_false]
      rfl
  | some power =>
    obtain ⟨ds, text, digits, some, value⟩ := exists_exponentText power
    have sign : Numeral.splitSign ((if power < 0 then '-' else '+') :: (ds ++ rest)) =
        (decide (power < 0), ds ++ rest) := by
      by_cases below : power < 0
      · rw [if_pos below, decide_eq_true below]
        rfl
      · rw [if_neg below, decide_eq_false below]
        rfl
    rw [powerText, text, List.cons_append, List.cons_append]
    unfold exponentPart
    simp only [true_or, if_true, sign, Text.splitDigits_append digits ends.digits]
    unfold valueOf at value
    rw [value, signed_natAbs, Option.map_some]

/-! ## Numerals -/

theorem EndsDigits.powerText (ends : EndsNumber rest) : EndsDigits (powerText power ++ rest) := by
  cases power with
  | none => exact ends.digits
  | some power =>
    intro c head
    cases head
    rfl

theorem EndsDigits.fractionText (ends : EndsNumber rest) :
    EndsDigits (fractionText fs ++ (Json.powerText power ++ rest)) := by
  unfold Json.fractionText
  split
  · exact EndsDigits.powerText ends
  · intro c head
    cases head
    rfl

theorem point_not_mem_powerText (ends : EndsNumber rest) :
    '.' ∉ (powerText power ++ rest).head? := by
  intro head
  cases power with
  | none => exact (ends '.' head).2.1 rfl
  | some power => cases head

/-- A number that does not start with a minus has none. -/
theorem splitMinus_signText (negative : Bool) (isWhole : IsWhole whole) (tail : List Char) :
    splitMinus (signText negative ++ (whole ++ tail)) = (negative, whole ++ tail) := by
  cases negative with
  | true => rfl
  | false =>
    have digits := isWhole.digits
    cases whole with
    | nil =>
      rcases isWhole with none | significant
      · cases none
      · obtain ⟨d, row, none, -⟩ := significant.leading
        cases none
    | cons d row =>
      simp only [signText, Bool.false_eq_true, if_false, List.nil_append, List.cons_append]
      unfold splitMinus
      split
      · next minus =>
        obtain ⟨rfl, -⟩ := List.cons.inj minus
        have digit := digits '-' List.mem_cons_self
        cases digit
      · rfl

/-- A numeral with a fraction or a power of ten, or both, is read part by part. -/
theorem readNumber_numeral (isWhole : IsWhole whole) (digits : AllDigits fs)
    (binary : fs ≠ [] ∨ power ≠ none) (ends : EndsNumber rest) :
    readNumber (signText negative ++ (whole ++ (fractionText fs ++ (powerText power ++ rest)))) =
      .ok (.float (.ofDecimal negative (valueOf (whole ++ fs)) (power.getD 0 - fs.length)),
        rest) := by
  have first : integerPart (whole ++ (fractionText fs ++ (powerText power ++ rest))) =
      some (whole, fractionText fs ++ (powerText power ++ rest)) :=
    integerPart_append isWhole (EndsDigits.fractionText ends)
  have second : fractionPart (fractionText fs ++ (powerText power ++ rest)) =
      if fs = [] then none else some (fs, powerText power ++ rest) :=
    fractionPart_append digits (EndsDigits.powerText ends) (point_not_mem_powerText ends)
  have third := exponentPart_append power ends
  unfold readNumber valueOf
  simp only [splitMinus_signText negative isWhole, first, second]
  by_cases none : fs = []
  · subst none
    obtain ⟨power, rfl⟩ := Option.ne_none_iff_exists'.1 (binary.resolve_left fun some => some rfl)
    simp only [fractionText, if_true, List.nil_append, Option.elim_none, third, Option.map_some,
      Option.elim_some, Option.getD_some]
  · simp only [none, if_false, Option.elim_some, third]
    cases power with
    | none => rfl
    | some power => rfl

/-- Few enough digits with nothing behind them are an integer. -/
theorem readNumber_whole (isWhole : IsWhole whole) (short : whole.length ≤ Numeral.maxDigits)
    (ends : EndsNumber rest) :
    readNumber (signText negative ++ (whole ++ rest)) =
      .ok (.int (Binary64.signed negative (valueOf whole)), rest) := by
  have first := integerPart_append isWhole ends.digits
  have second : fractionPart (fractionText [] ++ rest) = if [] = [] then none else some
      ([], rest) :=
    fractionPart_append (fun _ none => absurd none List.not_mem_nil) ends.digits
      (fun point => (ends '.' point).2.1 rfl)
  have third := exponentPart_append none ends
  unfold readNumber valueOf
  simp only [fractionText, powerText, if_true, List.nil_append, Option.map_none] at second third
  simp only [splitMinus_signText negative isWhole, first, second, Option.elim_none, third]
  rw [if_neg (by omega)]

theorem renderInt_eq (n : Int) : renderInt n = signText (decide (n < 0)) ++
    Binary64.digitsOf n.natAbs := by
  unfold renderInt signText
  simp only [decide_eq_true_eq]

/-- A whole number is read as it was written. -/
theorem readNumber_renderInt {n : Int}
    (short : (Binary64.digitsOf n.natAbs).length ≤ Numeral.maxDigits) (ends : EndsNumber rest) :
    readNumber (renderInt n ++ rest) = .ok (.int n, rest) := by
  rw [renderInt_eq, List.append_assoc, readNumber_whole (Text.isWhole_digitsOf _) short ends,
    Text.valueOf_digitsOf, signed_natAbs]

end Json

namespace Binary64

variable {ds : List Char} {coefficient m : Nat} {exponent e : Int}

/-! ## Notations -/

/-- The texts that are made of the parts of a numeral and denote a natural times a power of ten. -/
inductive Numeral (coefficient : Nat) (exponent : Int) : List Char → Prop
  | parts {whole fs : List Char} {power : Option Int} (isWhole : IsWhole whole)
      (digits : AllDigits fs) (binary : fs ≠ [] ∨ power ≠ none)
      (value : point (valueOf (whole ++ fs)) (power.getD 0 - fs.length) =
        point coefficient exponent) :
      Numeral coefficient exponent (whole ++ (Json.fractionText fs ++ Json.powerText power))

theorem point_scaled (a n : Nat) (exponent : Int) :
    point (a * 10 ^ n) exponent = point a (exponent + n) := by
  unfold point
  rw [zpow_add₀ (by norm_num), zpow_natCast]
  push_cast
  ring

theorem Numeral.congr {coefficient' : Nat} {exponent' : Int}
    (numeral : Numeral coefficient exponent cs)
    (same : point coefficient exponent = point coefficient' exponent') :
    Numeral coefficient' exponent' cs := by
  cases numeral with
  | parts isWhole digits binary value => exact .parts isWhole digits binary (value.trans same)

/-- The texts that are made of the parts of a numeral and are read as a number. -/
inductive Writes (negative : Bool) (x : Binary64) : List Char → Prop
  | parts {whole fs : List Char} {power : Option Int} (isWhole : IsWhole whole)
      (digits : AllDigits fs) (binary : fs ≠ [] ∨ power ≠ none)
      (value : ofDecimal negative (valueOf (whole ++ fs)) (power.getD 0 - fs.length) = x) :
      Writes negative x (whole ++ (Json.fractionText fs ++ Json.powerText power))

/-- What denotes a decimal that rounds to a number is read as the number. -/
theorem Numeral.writes (numeral : Numeral coefficient exponent cs) (negative : Bool)
    (canonical : Canonical m e) (pos : 0 < m) (within : Within m e (point coefficient exponent)) :
    Writes negative (.finite negative m e canonical) cs := by
  cases numeral with
  | parts isWhole digits binary value =>
    rw [← value] at within
    exact .parts isWhole digits binary (ofDecimal_of_within canonical pos within negative)

theorem Numeral.pointed (isWhole : IsWhole whole) (digits : AllDigits fs) (some : fs ≠ [])
    (value : point (valueOf (whole ++ fs)) (-fs.length) = point coefficient exponent) :
    Numeral coefficient exponent (whole ++ '.' :: fs) := by
  have numeral : Numeral coefficient exponent
      (whole ++ (Json.fractionText fs ++ Json.powerText none)) :=
    .parts isWhole digits (.inl some) (by rwa [Option.getD_none, zero_sub])
  rwa [Json.fractionText, if_neg some, Json.powerText, List.append_nil] at numeral

/-- Digits behind a point and zeros. -/
theorem numeral_behind (significant : Significant ds) (zeros : Nat) :
    Numeral (valueOf ds) (-(zeros + ds.length : Nat))
      ('0' :: '.' :: (List.replicate zeros '0' ++ ds)) := by
  have digits : AllDigits (List.replicate zeros '0' ++ ds) := by
    intro c member
    rcases List.mem_append.1 member with zero | digit
    · exact Text.allDigits_zeros _ c zero
    · exact significant.digits c digit
  have some : List.replicate zeros '0' ++ ds ≠ [] := by
    obtain ⟨d, tail, rfl, -⟩ := significant.leading
    exact List.append_ne_nil_of_right_ne_nil _ (List.cons_ne_nil d tail)
  refine .pointed (.inl rfl) digits some ?_
  rw [← List.append_assoc, ← List.replicate_one, ← List.replicate_add, Text.valueOf_zeros_append,
    List.length_append, List.length_replicate]

/-- Digits and zeros before a point, and one zero behind it. -/
theorem numeral_before (significant : Significant ds) (zeros : Nat) :
    Numeral (valueOf ds) zeros (ds ++ List.replicate zeros '0' ++ '.' :: ['0']) := by
  have isWhole := significant.append (Text.allDigits_zeros zeros)
  refine .pointed (.inr isWhole) (Text.allDigits_zeros 1) (List.cons_ne_nil _ _) ?_
  rw [← List.replicate_one, List.append_assoc, ← List.replicate_add, Text.valueOf_append_zeros,
    point_scaled, List.length_replicate]
  congr 1
  omega

/-- Digits with a point among them. -/
theorem numeral_around (significant : Significant ds) {n : Nat} (some : 0 < n)
    (short : n < ds.length) :
    Numeral (valueOf ds) (n - ds.length) (ds.take n ++ '.' :: ds.drop n) := by
  have front : ds.take n ≠ [] := List.ne_nil_of_length_pos (by rw [List.length_take]; omega)
  have tail : ds.drop n ≠ [] := List.ne_nil_of_length_pos (by rw [List.length_drop]; omega)
  have row := List.take_append_drop n ds
  have isWhole : Significant (ds.take n) := by
    rw [← row] at significant
    exact significant.of_append front
  refine .pointed (.inr isWhole)
    (fun c member => significant.digits c (List.mem_of_mem_drop member)) tail ?_
  rw [row, List.length_drop]
  congr 1
  omega

/-- Digits around a point denote the digits, the first of them with the weight that is given. -/
theorem numeral_positional (significant : Significant ds) (lead : Int) :
    Numeral (valueOf ds) (lead + 1 - ds.length) (positional ds lead) := by
  unfold positional
  split
  · next below =>
    convert numeral_behind significant (-lead - 1).toNat using 1
    omega
  · next nonneg =>
    obtain ⟨n, rfl⟩ := Int.eq_ofNat_of_zero_le (show 0 ≤ lead by omega)
    simp only [Int.toNat_natCast]
    rcases Nat.lt_or_ge (n + 1) ds.length with short | fits
    · have tail : ds.drop (n + 1) ≠ [] :=
        List.ne_nil_of_length_pos (by rw [List.length_drop]; omega)
      rw [show n + 1 - ds.length =
        0 by omega, List.replicate_zero, List.append_nil, if_neg (by simpa using tail)]
      exact numeral_around significant n.succ_pos short
    · rw [List.drop_eq_nil_of_le fits, List.take_of_length_le fits, if_pos List.isEmpty_nil]
      convert numeral_before significant (n + 1 - ds.length) using 1
      omega

/-- Digits with an exponent denote the digits, the first of them with the weight that is given. -/
theorem numeral_scientific (significant : Significant ds) (lead : Int) :
    Numeral (valueOf ds) (lead + 1 - ds.length) (scientific 2 ds lead) := by
  obtain ⟨d, fs, rfl, leading⟩ := significant.leading
  have row : Significant ([d] ++ fs) := significant
  have isWhole : IsWhole [d] := .inr (row.of_append (List.cons_ne_nil _ _))
  have digits : AllDigits fs := fun c member => significant.digits c (List.mem_cons_of_mem d member)
  have numeral : Numeral (valueOf (d :: fs)) (lead + 1 - (d :: fs).length)
      ([d] ++ (Json.fractionText fs ++ Json.powerText (some lead))) := by
    refine .parts isWhole digits (.inr (Option.some_ne_none lead)) ?_
    congr 1
    rw [Option.getD_some, List.length_cons]
    push_cast
    ring
  unfold scientific
  cases fs with
  | nil => exact numeral
  | cons c fs => exact numeral

/-! ## Binary numbers -/

/-- The shortest digits of a number, laid out in either way, denote its shortest decimal. -/
theorem numeral_shortest (pos : 0 < (shortest m e).1) :
    let ds := digitsOf (shortest m e).1
    let lead := (shortest m e).2 + ds.length - 1
    Numeral (shortest m e).1 (shortest m e).2 (positional (withoutTrailingZeros ds) lead) ∧
      Numeral (shortest m e).1 (shortest m e).2 (scientific 2 (withoutTrailingZeros ds) lead) := by
  intro ds lead
  have significant := Text.significant_digitsOf pos
  obtain ⟨n, zeros⟩ := Text.exists_zeros significant
  have kept := Text.significant_withoutTrailingZeros significant
  have value : (shortest m e).1 = valueOf (withoutTrailingZeros ds) * 10 ^ n := by
    rw [← Text.valueOf_append_zeros, ← zeros, Text.valueOf_digitsOf]
  have length : ds.length = (withoutTrailingZeros ds).length + n := by
    have := congrArg List.length zeros
    rwa [List.length_append, List.length_replicate] at this
  have same : point (valueOf (withoutTrailingZeros ds))
      (lead + 1 - (withoutTrailingZeros ds).length) = point (shortest m e).1 (shortest m e).2 := by
    conv_rhs => rw [value, point_scaled]
    congr 1
    simp only [lead, length]
    push_cast
    ring
  exact ⟨(numeral_positional kept lead).congr same, (numeral_scientific kept lead).congr same⟩

theorem shortest_pos (canonical : Canonical m e) (pos : 0 < m) : 0 < (shortest m e).1 := by
  have positive := (within_shortest canonical pos).pos pos
  rcases Nat.eq_zero_or_pos (shortest m e).1 with zero | some
  · rw [zero] at positive
    simp [point] at positive
  · exact some

/-- The text of a finite number is one that is read as it. -/
theorem writes_render (negative : Bool) (canonical : Canonical m e) :
    ∃ cs, (Layout.json.render (.finite negative m e canonical)).toList = Json.signText negative ++
      cs ∧
      Writes negative (.finite negative m e canonical) cs := by
  have sign : (if negative then ['-'] else []) = Json.signText negative := rfl
  unfold Layout.render
  simp only [sign]
  rcases Nat.eq_zero_or_pos m with rfl | pos
  · -- a zero has the least exponent, as it is read
    have least : e = -1074 := canonical.2.2.2.resolve_left (by decide)
    subst least
    have writes : Writes negative (.finite negative 0 (-1074) canonical)
        (['0'] ++ (Json.fractionText ['0'] ++ Json.powerText none)) :=
      .parts (.inl rfl) (Text.allDigits_zeros 1) (.inl (List.cons_ne_nil _ _)) rfl
    rw [if_pos rfl, String.toList_ofList]
    exact ⟨_, rfl, writes⟩
  · have within := within_shortest canonical pos
    obtain ⟨positional, scientific⟩ := numeral_shortest (shortest_pos canonical pos)
    rw [if_neg pos.ne', String.toList_ofList]
    refine ⟨_, rfl, ?_⟩
    split
    · exact positional.writes negative canonical pos within
    · exact scientific.writes negative canonical pos within

end Binary64

end TokenBroker
