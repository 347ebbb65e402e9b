import Mathlib.Data.List.TakeWhile
import Mathlib.Tactic.Ring
import TokenBroker.Decimal.Notation
import TokenBroker.Json.Reader

/-!
# Rows of digits

What a row of decimal digits stands for (`Text.valueOf`): the digits of a natural stand for it,
zeros behind a row scale it, and zeros before it count for nothing. Two kinds of rows are told apart
from others: those that can start a numeral (`Text.IsWhole`), and those without a zero in front
(`Text.Significant`), which the digits of a positive natural are and stay when the zeros at their
end are dropped.
-/

namespace TokenBroker

namespace Text

variable {cs ds rest : List Char} {n : Nat}

/-- The natural that a row of digits stands for. -/
def valueOf (cs : List Char) : Nat := ofDigits (Json.digitValues cs)

theorem valueOf_eq (cs : List Char) : valueOf cs = Nat.ofDigitChars 10 cs 0 := by
  unfold valueOf ofDigits Json.digitValues Nat.ofDigitChars
  rw [List.foldl_map]
  congr 1
  funext n c
  rw [Nat.mul_comm]
  rfl

theorem ofDigitChars_scaled (cs : List Char) (init : Nat) :
    Nat.ofDigitChars 10 cs init = init * 10 ^ cs.length + Nat.ofDigitChars 10 cs 0 := by
  induction cs generalizing init with
  | nil => simp
  | cons c cs ih =>
    rw [Nat.ofDigitChars_cons, Nat.ofDigitChars_cons, ih, ih (10 * 0 + _), List.length_cons,
      Nat.pow_succ]
    ring

theorem valueOf_append (cs ds : List Char) :
    valueOf (cs ++ ds) = valueOf cs * 10 ^ ds.length + valueOf ds := by
  rw [valueOf_eq, valueOf_eq, valueOf_eq, Nat.ofDigitChars_append, ofDigitChars_scaled]

@[simp] theorem valueOf_zeros (n : Nat) : valueOf (List.replicate n '0') = 0 := by
  induction n with
  | zero => rfl
  | succ n ih =>
    rw [List.replicate_succ', valueOf_append, ih]
    rfl

/-- Zeros behind a row scale it. -/
theorem valueOf_append_zeros (cs : List Char) (n : Nat) :
    valueOf (cs ++ List.replicate n '0') = valueOf cs * 10 ^ n := by
  rw [valueOf_append, valueOf_zeros, List.length_replicate, Nat.add_zero]

/-- Zeros before a row count for nothing. -/
theorem valueOf_zeros_append (cs : List Char) (n : Nat) :
    valueOf (List.replicate n '0' ++ cs) = valueOf cs := by
  rw [valueOf_append, valueOf_zeros, Nat.zero_mul, Nat.zero_add]

@[simp] theorem valueOf_digitsOf (n : Nat) : valueOf (Binary64.digitsOf n) = n := by
  rw [valueOf_eq]
  exact Nat.ofDigitChars_toDigits (by decide) (by decide)

/-! ## Kinds of rows -/

/-- A row of digits. -/
def AllDigits (cs : List Char) : Prop := ∀ c ∈ cs, c.isDigit = true

/-- A text that does not go on with a digit. -/
def EndsDigits (rest : List Char) : Prop := ∀ c ∈ rest.head?, c.isDigit = false

/-- A row of digits that does not start with a zero. -/
structure Significant (cs : List Char) : Prop where
  digits : AllDigits cs
  leading : ∃ d tail, cs = d :: tail ∧ d ≠ '0'

/-- A row of digits that can start a numeral: a zero alone, or one that does not start with a
zero. -/
def IsWhole (cs : List Char) : Prop := cs = ['0'] ∨ Significant cs

theorem IsWhole.digits (whole : IsWhole cs) : AllDigits cs := by
  rcases whole with rfl | significant
  · intro c member
    rw [List.mem_singleton.1 member]
    rfl
  · exact significant.digits

theorem Significant.append (significant : Significant cs) (digits : AllDigits ds) :
    Significant (cs ++ ds) := by
  obtain ⟨d, tail, rfl, leading⟩ := significant.leading
  refine ⟨?_, d, tail ++ ds, rfl, leading⟩
  intro c member
  rcases List.mem_append.1 member with front | back
  · exact significant.digits c front
  · exact digits c back

/-- The front of a row without a zero in front is one. -/
theorem Significant.of_append (significant : Significant (cs ++ ds)) (some : cs ≠ []) :
    Significant cs := by
  obtain ⟨d, tail, row, leading⟩ := significant.leading
  obtain ⟨c, cs, rfl⟩ := List.exists_cons_of_ne_nil some
  obtain ⟨rfl, -⟩ := List.cons.inj row
  exact ⟨fun x member => significant.digits x (List.mem_append_left ds member), c, cs, rfl, leading⟩

theorem allDigits_zeros (n : Nat) : AllDigits (List.replicate n '0') := by
  intro c member
  rw [List.eq_of_mem_replicate member]
  rfl

theorem allDigits_digitsOf (n : Nat) : AllDigits (Binary64.digitsOf n) :=
  fun _ member => Nat.isDigit_of_mem_toDigits (by decide) (by decide) member

/-- By induction on the digits, of which the last one is split off. -/
theorem significant_digitsOf (pos : 0 < n) : Significant (Binary64.digitsOf n) := by
  refine ⟨allDigits_digitsOf n, ?_⟩
  induction n using Nat.strongRecOn with
  | _ n ih =>
    unfold Binary64.digitsOf
    rw [Nat.toDigits_eq_if (by decide)]
    split
    · next small =>
      refine ⟨_, [], rfl, ?_⟩
      intro zero
      have code := congrArg Char.toNat zero
      rw [Nat.toNat_digitChar_of_lt_ten small] at code
      have : '0'.toNat = 48 := rfl
      omega
    · next large =>
      obtain ⟨d, tail, row, leading⟩ := ih (n / 10) (by omega) (by omega)
      refine ⟨d, tail ++ [(n % 10).digitChar], ?_, leading⟩
      unfold Binary64.digitsOf at row
      rw [row]
      rfl

theorem isWhole_digitsOf (n : Nat) : IsWhole (Binary64.digitsOf n) := by
  rcases Nat.eq_zero_or_pos n with rfl | pos
  · exact .inl rfl
  · exact .inr (significant_digitsOf pos)

/-- What is dropped from the end of a row are zeros. -/
theorem exists_zeros (significant : Significant ds) :
    ∃ n, ds = Binary64.withoutTrailingZeros ds ++ List.replicate n '0' := by
  obtain ⟨n, zeros⟩ : ∃ n, ds.reverse.takeWhile (· == '0') = List.replicate n '0' := by
    refine ⟨_, List.eq_replicate_of_mem ?_⟩
    intro c member
    simpa using List.mem_takeWhile_imp member
  have row : ds = (ds.reverse.dropWhile (· == '0')).reverse ++ List.replicate n '0' := by
    calc ds = (ds.reverse.takeWhile (· == '0') ++ ds.reverse.dropWhile (· == '0')).reverse := by
          rw [List.takeWhile_append_dropWhile, List.reverse_reverse]
      _ = (ds.reverse.dropWhile (· == '0')).reverse ++ List.replicate n '0' := by
          rw [List.reverse_append, zeros, List.reverse_replicate]
  refine ⟨n, row.trans ?_⟩
  congr 1
  unfold Binary64.withoutTrailingZeros
  split
  · next none =>
    obtain ⟨d, tail, start, leading⟩ := significant.leading
    rw [none, List.nil_append, start] at row
    cases n with
    | zero => cases row
    | succ n => exact absurd (List.cons.inj row).1 leading
  · rfl

theorem significant_withoutTrailingZeros (significant : Significant ds) :
    Significant (Binary64.withoutTrailingZeros ds) := by
  obtain ⟨n, row⟩ := exists_zeros significant
  rw [row] at significant
  apply significant.of_append
  unfold Binary64.withoutTrailingZeros
  split
  · exact List.cons_ne_nil _ _
  · assumption

/-! ## Taking a row from the front of a text -/

theorem splitDigits_append (digits : AllDigits cs) (ends : EndsDigits rest) :
    Json.splitDigits (cs ++ rest) = (cs, rest) := by
  unfold Json.splitDigits
  rw [List.takeWhile_append_of_pos digits, List.dropWhile_append_of_pos digits]
  cases rest with
  | nil => simp
  | cons c rest =>
    have other : c.isDigit = false := ends c rfl
    simp [other]

end Text

end TokenBroker
