import Bookmarks.Number.Literal
import Bookmarks.Proofs.Number.Decimal
import Mathlib.Data.List.Basic
import Mathlib.Data.List.Induction
import Mathlib.Data.List.TakeWhile

/-! Runs of decimal digits and what they are worth. A double is written with digits of which the
first is no zero; leaving out the closing zeros does not change the decimal. -/

namespace Bookmarks

open Literal (isAsciiDigit natOf)

namespace Literal

theorem isAsciiDigit_of_isDigit {c : Char} (h : c.isDigit) : isAsciiDigit c = true := by
  have bounds : '0' ≤ c ∧ c ≤ '9' := by simpa [Char.isDigit, Char.le_def] using h
  simp [isAsciiDigit, Text.asciiDigit?, bounds]

theorem isAsciiDigit_toDigits (n : Nat) : ∀ c ∈ Nat.toDigits 10 n, isAsciiDigit c = true := by
  intro c h
  exact isAsciiDigit_of_isDigit (Nat.isDigit_of_mem_toDigits (by decide) (by decide) h)

theorem isAsciiDigit_zeros (k : Nat) : ∀ c ∈ List.replicate k '0', isAsciiDigit c = true := by
  intro c h
  rw [List.eq_of_mem_replicate h]
  decide

theorem natOf_eq (digits : List Char) : natOf digits = Nat.ofDigitChars 10 digits 0 := rfl

theorem natOf_toDigits (n : Nat) : natOf (Nat.toDigits 10 n) = n := by
  rw [natOf_eq, Nat.ofDigitChars_ten_toDigits]

theorem natOf_zeros_append (k : Nat) (digits : List Char) :
    natOf (List.replicate k '0' ++ digits) = natOf digits := by
  rw [natOf_eq, Nat.ofDigitChars_append, Nat.ofDigitChars_replicate_zero, Nat.mul_zero, natOf_eq]

theorem natOf_append_zeros (k : Nat) (digits : List Char) :
    natOf (digits ++ List.replicate k '0') = natOf digits * 10 ^ k := by
  rw [natOf_eq, Nat.ofDigitChars_append, Nat.ofDigitChars_replicate_zero, Nat.mul_comm, natOf_eq]

theorem natOf_append_singleton (digits : List Char) (c : Char) :
    natOf (digits ++ [c]) = 10 * natOf digits + (c.toNat - 48) := by
  simp [natOf]

theorem bounds_of_isAsciiDigit {c : Char} (digit : isAsciiDigit c = true) :
    48 ≤ c.toNat ∧ c.toNat ≤ 57 := by
  have bounds : '0' ≤ c ∧ c ≤ '9' := by simpa [isAsciiDigit, Text.asciiDigit?] using digit
  exact bounds

theorem isDigit_of_isAsciiDigit {c : Char} (digit : isAsciiDigit c = true) :
    Text.isDigit c = true := by
  have ⟨low, high⟩ := bounds_of_isAsciiDigit digit
  rw [Text.isDigit, Text.digitValue?, Text.digitZeros, List.findSome?_cons,
    if_pos ⟨low, by omega⟩]
  rfl

theorem isBlank_of_isAsciiDigit {c : Char} (digit : isAsciiDigit c = true) :
    Text.isBlank c = false := by
  have := bounds_of_isAsciiDigit digit
  rw [Text.isBlank, Bool.eq_false_iff]
  simp only [Text.blankRanges, Text.Ranges.has, Bool.or_false, ne_eq, Bool.and_eq_true,
    Bool.not_eq_true', decide_eq_false_iff_not, Bool.or_eq_true, decide_eq_true_eq]
  omega

theorem digit_le {c : Char} (digit : isAsciiDigit c = true) : c.toNat - 48 ≤ 9 := by
  have := bounds_of_isAsciiDigit digit
  omega

theorem natOf_lt {digits : List Char} (areDigits : ∀ c ∈ digits, isAsciiDigit c = true) :
    natOf digits < 10 ^ digits.length := by
  induction digits using List.reverseRecOn with
  | nil => exact Nat.one_pos
  | append_singleton digits c ih =>
    have before := ih fun d hd => areDigits d (List.mem_append_left _ hd)
    have last := digit_le (areDigits c (by simp))
    rw [natOf_append_singleton, List.length_append, List.length_singleton, Nat.pow_succ]
    omega

theorem eq_of_digit {c d : Char} (hc : isAsciiDigit c = true) (hd : isAsciiDigit d = true)
    (same : c.toNat - 48 = d.toNat - 48) : c = d := by
  have := bounds_of_isAsciiDigit hc
  have := bounds_of_isAsciiDigit hd
  exact Char.toNat_inj.1 (by omega)

/-- Digits are told by how many they are and what they are worth. -/
theorem eq_of_natOf_eq {digits digits' : List Char}
    (areDigits : ∀ c ∈ digits, isAsciiDigit c = true)
    (areDigits' : ∀ c ∈ digits', isAsciiDigit c = true)
    (same_length : digits.length = digits'.length) (same : natOf digits = natOf digits') :
    digits = digits' := by
  induction digits using List.reverseRecOn generalizing digits' with
  | nil => exact (List.length_eq_zero_iff.1 same_length.symm).symm
  | append_singleton digits c ih =>
    obtain none | ⟨digits', d, rfl⟩ := List.eq_nil_or_concat digits'
    · simp [none] at same_length
    · simp only [List.concat_eq_append] at *
      simp only [List.forall_mem_append, List.forall_mem_singleton] at areDigits areDigits'
      rw [natOf_append_singleton, natOf_append_singleton] at same
      have small := digit_le areDigits.2
      have small' := digit_le areDigits'.2
      have last : c = d := eq_of_digit areDigits.2 areDigits'.2 (by omega)
      have before : digits = digits' :=
        ih areDigits.1 areDigits'.1 (by simpa using same_length) (by omega)
      rw [last, before]

theorem head_toDigits {n : Nat} (h : 0 < n) : (Nat.toDigits 10 n).head? ≠ some '0' := by
  induction n using Nat.strongRecOn with
  | ind n ih =>
    rw [Nat.toDigits_eq_if (by decide)]
    split
    · next small =>
      have : ∀ m < 10, 0 < m → m.digitChar ≠ '0' := by decide
      simpa using this n small h
    · next large =>
      have shorter := ih (n / 10) (by omega) (by omega)
      rw [List.head?_append_of_ne_nil _ Nat.toDigits_ne_nil]
      exact shorter

end Literal

namespace Double

theorem ofDecimal_congr (negative : Bool) {digits digits' : Nat} {exponent exponent' : Int}
    (h : decimalRank digits exponent = decimalRank digits' exponent') :
    ofDecimal negative digits exponent = ofDecimal negative digits' exponent' := by
  simp [ofDecimal, h]

/-- Digits as a double is written with: there is one, and the first is no zero. -/
structure IsLeading (digits : List Char) : Prop where
  areDigits : ∀ c ∈ digits, isAsciiDigit c = true
  ne_nil : digits ≠ []
  head : digits.head? ≠ some '0'

theorem leadingForm_append_zeros (digits : Nat) (exponent : Int) :
    ∃ k, Nat.toDigits 10 digits = (leadingForm digits exponent).1 ++ List.replicate k '0' := by
  let zeros := (Nat.toDigits 10 digits).reverse.takeWhile (· == '0')
  have parted : (Nat.toDigits 10 digits).reverse =
      zeros ++ (Nat.toDigits 10 digits).reverse.dropWhile (· == '0') :=
    List.takeWhile_append_dropWhile.symm
  have same : zeros.reverse = List.replicate zeros.length '0' := by
    apply List.eq_replicate_iff.2
    refine ⟨List.length_reverse, ?_⟩
    intro c h
    have := List.mem_takeWhile_imp (List.mem_reverse.1 h)
    simpa using this
  refine ⟨zeros.length, ?_⟩
  rw [← List.reverse_reverse (Nat.toDigits 10 digits), parted, List.reverse_append, same]
  rfl

theorem isLeading_leadingForm {digits : Nat} (h : 0 < digits) (exponent : Int) :
    IsLeading (leadingForm digits exponent).1 := by
  have ⟨k, parted⟩ := leadingForm_append_zeros digits exponent
  have nonempty : (leadingForm digits exponent).1 ≠ [] := by
    intro none
    have zero := Literal.natOf_toDigits digits
    rw [parted, none, Literal.natOf_append_zeros] at zero
    have : natOf [] * 10 ^ k = 0 := Nat.zero_mul _
    omega
  refine ⟨?_, nonempty, ?_⟩
  · intro c hc
    apply Literal.isAsciiDigit_toDigits digits
    rw [parted]
    exact List.mem_append_left _ hc
  · have head := Literal.head_toDigits h
    rwa [parted, List.head?_append_of_ne_nil _ nonempty] at head

/-- Leaving out closing zeros keeps the decimal. -/
theorem decimalRank_leadingForm (digits : Nat) (exponent : Int) :
    decimalRank (natOf (leadingForm digits exponent).1)
      ((leadingForm digits exponent).2 + 1 - (leadingForm digits exponent).1.length) =
      decimalRank digits exponent := by
  have ⟨k, parted⟩ := leadingForm_append_zeros digits exponent
  have value : digits = natOf (leadingForm digits exponent).1 * 10 ^ k := by
    rw [← Literal.natOf_append_zeros, ← parted, Literal.natOf_toDigits]
  have size : (Nat.toDigits 10 digits).length = (leadingForm digits exponent).1.length + k := by
    rw [parted, List.length_append, List.length_replicate]
  have point : (leadingForm digits exponent).2 + 1 - (leadingForm digits exponent).1.length =
      exponent + k := by
    have : (leadingForm digits exponent).2 =
        exponent + (Nat.toDigits 10 digits).length - 1 := rfl
    omega
  rw [point]
  conv => rhs; rw [value, ← Int.add_sub_cancel exponent k]
  exact (decimalRank_mul_pow _ _ k).symm

end Double

end Bookmarks
