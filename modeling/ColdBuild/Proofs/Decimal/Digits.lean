import ColdBuild.Proofs.Decimal.Numeral

/-!
# Significant digits

A number has `k` digits if it is a decimal with a significand below `10 ^ k` (`Decimal.HasDigits`).
Zeros at either end of a numeral do not count. What is left begins and ends with another digit, and
so there is no decimal of the same value with fewer digits: how many significant digits a numeral
has depends on what it says alone (`Numeral.hasDigits_iff`).
-/
namespace ColdBuild

section

variable {c : Char} {digits : List Char}

/-- What a digit stands for. -/
theorem digit_bounds (digit : c.isDigit = true) :
    c.toNat - '0'.toNat < 10 ∧ (c ≠ '0' → 0 < c.toNat - '0'.toNat) := by
  obtain ⟨least, most⟩ := Char.isDigit_iff_toNat.mp digit
  have zero : '0'.toNat = 48 := rfl
  have nine : '9'.toNat = 57 := rfl
  refine ⟨by omega, fun other => ?_⟩
  have different : c.toNat ≠ 48 := fun same => other (Char.toNat_inj.mp same)
  omega

theorem ofDigitChars_lt (isDigit : ∀ c ∈ digits, c.isDigit = true) :
    Nat.ofDigitChars 10 digits 0 < 10 ^ digits.length := by
  induction digits with
  | nil => decide
  | cons c digits ih =>
    have rest := ih fun c mem => isDigit c (List.mem_cons_of_mem _ mem)
    have first := (digit_bounds (isDigit c List.mem_cons_self)).1
    rw [Nat.ofDigitChars_cons, Nat.ofDigitChars_eq_ofDigitChars_zero, List.length_cons]
    calc 10 ^ digits.length * (10 * 0 + (c.toNat - '0'.toNat)) + Nat.ofDigitChars 10 digits 0
        < 10 ^ digits.length * (10 * 0 + (c.toNat - '0'.toNat)) + 10 ^ digits.length :=
          Nat.add_lt_add_left rest _
      _ = 10 ^ digits.length * (c.toNat - '0'.toNat + 1) := by ring
      _ ≤ 10 ^ digits.length * 10 := Nat.mul_le_mul_left _ first
      _ = 10 ^ (digits.length + 1) := (Nat.pow_succ ..).symm

/-- The first digit decides how large a number is. -/
theorem pow_le_ofDigitChars (digit : c.isDigit = true) (first : c ≠ '0') :
    10 ^ digits.length ≤ Nat.ofDigitChars 10 (c :: digits) 0 := by
  have pos := (digit_bounds digit).2 first
  rw [Nat.ofDigitChars_cons, Nat.ofDigitChars_eq_ofDigitChars_zero]
  calc 10 ^ digits.length = 10 ^ digits.length * 1 := (Nat.mul_one _).symm
    _ ≤ 10 ^ digits.length * (10 * 0 + (c.toNat - '0'.toNat)) :=
      Nat.mul_le_mul_left _ (by omega)
    _ ≤ _ := Nat.le_add_right _ _

/-- The last digit is the remainder. -/
theorem ofDigitChars_concat_mod (digit : c.isDigit = true) (last : c ≠ '0') :
    Nat.ofDigitChars 10 (digits ++ [c]) 0 % 10 ≠ 0 := by
  obtain ⟨lt, pos⟩ := digit_bounds digit
  rw [Nat.ofDigitChars_append, Nat.ofDigitChars_cons, Nat.ofDigitChars_nil, Nat.mul_add_mod,
    Nat.mod_eq_of_lt lt]
  exact (pos last).ne'

theorem head?_dropWhile_ne (digits : List Char) :
    (digits.dropWhile (· = '0')).head? ≠ some '0' := by
  intro zero
  have first := List.head?_dropWhile_not (fun c => decide (c = '0')) digits
  rw [zero] at first
  cases first

end

namespace Decimal

/-- The number is a decimal of at most `k` digits. -/
def HasDigits (k : Nat) (q : ℚ) : Prop := ∃ d : Decimal, d.significand < 10 ^ k ∧ d.toRat = q

variable {k : Nat} {q : ℚ} {d : Decimal}

theorem HasDigits.mono {k' : Nat} (h : HasDigits k q) (le : k ≤ k') : HasDigits k' q := by
  obtain ⟨d, lt, value⟩ := h
  exact ⟨d, lt.trans_le (Nat.pow_le_pow_right (by decide) le), value⟩

/-- A power of ten has one digit, also that which has one more place. -/
theorem HasDigits.of_le (pos : 0 < k) (le : d.significand ≤ 10 ^ k) : HasDigits k d.toRat := by
  rcases Nat.lt_or_eq_of_le le with lt | power
  · exact ⟨d, lt, rfl⟩
  · refine ⟨⟨1, k + d.exponent⟩, Nat.one_lt_pow pos.ne' (by decide), ?_⟩
    rw [toRat, toRat, power, zpow_add₀ (by norm_num), zpow_natCast]
    push_cast
    ring

theorem toRat_pos (pos : 0 < d.significand) : 0 < d.toRat := by
  unfold toRat
  positivity

theorem HasDigits.pos (h : HasDigits k q) (positive : 0 < q) : 0 < k := by
  obtain ⟨d, lt, rfl⟩ := h
  refine Nat.pos_of_ne_zero fun zero => ?_
  have none : d.significand = 0 := by simpa [zero] using lt
  rw [toRat, none, Nat.cast_zero, zero_mul] at positive
  exact lt_irrefl 0 positive

/-- The same value at a finer position has zeros at the end. -/
theorem significand_mul_pow {d' : Decimal} {zeros : Nat} (same : d'.toRat = d.toRat)
    (finer : d'.exponent = d.exponent + zeros) : d'.significand * 10 ^ zeros = d.significand := by
  have scale : (10 : ℚ) ^ d.exponent ≠ 0 := zpow_ne_zero _ (by norm_num)
  rw [toRat, toRat, finer, zpow_add₀ (by norm_num), zpow_natCast, mul_comm (10 ^ d.exponent),
    ← mul_assoc] at same
  exact_mod_cast mul_right_cancel₀ scale same

/-- A significand that does not end with a zero is not greater than any other of the same value. -/
theorem significand_le {d' : Decimal} (last : d.significand % 10 ≠ 0) (same : d'.toRat = d.toRat) :
    d.significand ≤ d'.significand := by
  rcases Int.le_total d'.exponent d.exponent with finer | coarser
  · obtain ⟨zeros, distance⟩ := Int.eq_ofNat_of_zero_le (Int.sub_nonneg_of_le finer)
    rw [← significand_mul_pow same.symm (by omega : d.exponent = d'.exponent + zeros)]
    exact Nat.le_mul_of_pos_right _ (Nat.pow_pos (by decide))
  · obtain ⟨zeros, distance⟩ := Int.eq_ofNat_of_zero_le (Int.sub_nonneg_of_le coarser)
    have multiple := significand_mul_pow same (by omega : d'.exponent = d.exponent + zeros)
    cases zeros with
    | zero => exact (by simpa using multiple.symm : d.significand = d'.significand).le
    | succ zeros =>
      rw [← multiple, Nat.pow_succ, ← Nat.mul_assoc, Nat.mul_mod_left] at last
      exact absurd rfl last

end Decimal

namespace Numeral

open Decimal (HasDigits)

/-- The digits between the zeros at both ends. -/
theorem exists_core (n : Numeral) :
    ∃ core before after, n.digits = List.replicate before '0' ++
        (core ++ List.replicate after '0') ∧
      core.length = n.significantDigits ∧ core.head? ≠ some '0' ∧ core.getLast? ≠ some '0' := by
  obtain ⟨rest, rest_eq⟩ : ∃ rest, rest = n.digits.dropWhile (· = '0') := ⟨_, rfl⟩
  obtain ⟨before, all⟩ := eq_zeros_append n.digits
  obtain ⟨after, back⟩ := eq_zeros_append rest.reverse
  have front : rest = (rest.reverse.dropWhile (· = '0')).reverse ++ List.replicate after '0' := by
    have reversed := congrArg List.reverse back
    rwa [List.reverse_reverse, List.reverse_append, List.reverse_replicate] at reversed
  refine ⟨(rest.reverse.dropWhile (· = '0')).reverse, before, after, ?_, ?_, ?_, ?_⟩
  · rw [← front, rest_eq]
    exact all
  · rw [List.length_reverse, significantDigits, rest_eq]
  · intro zero
    have first := head?_dropWhile_ne n.digits
    rw [← rest_eq, front, List.head?_append, zero] at first
    exact first rfl
  · rw [List.getLast?_reverse]
    exact head?_dropWhile_ne rest.reverse

/-- A numeral has as many significant digits as what it says needs. -/
theorem hasDigits_iff {n : Numeral} (isDigit : ∀ c ∈ n.digits, c.isDigit = true) {k : Nat} :
    HasDigits k n.magnitude.toRat ↔ n.significantDigits ≤ k := by
  obtain ⟨core, before, after, shape, length, first, last⟩ := exists_core n
  have coreDigit : ∀ c ∈ core, c.isDigit = true := fun c mem => isDigit c (by simp [shape, mem])
  obtain ⟨position, place⟩ : ∃ position,
      n.exponent.getD 0 - (n.fraction.getD []).length = position - core.length - after :=
    ⟨n.exponent.getD 0 - (n.fraction.getD []).length + after + core.length, by omega⟩
  have value : n.magnitude.toRat =
      Decimal.toRat ⟨Nat.ofDigitChars 10 core 0, position - core.length⟩ :=
    toRat_magnitude before after shape place
  rw [value, ← length]
  constructor
  · rintro ⟨d, lt, same⟩
    rcases List.eq_nil_or_concat' core with rfl | ⟨initial, c, rfl⟩
    · exact Nat.zero_le k
    · rw [List.getLast?_concat] at last
      have notZero : c ≠ '0' := fun zero => last (congrArg some zero)
      have least := Decimal.significand_le
        (ofDigitChars_concat_mod (coreDigit c (by simp)) notZero) same
      obtain ⟨c', others, cons⟩ := List.exists_cons_of_ne_nil
        (List.append_ne_nil_of_right_ne_nil initial (List.cons_ne_nil c []))
      rw [cons] at first coreDigit least ⊢
      rw [List.head?_cons] at first
      have notZero' : c' ≠ '0' := fun zero => first (congrArg some zero)
      have size : 10 ^ others.length ≤ Nat.ofDigitChars 10 (c' :: others) 0 :=
        pow_le_ofDigitChars (coreDigit c' (by simp)) notZero'
      have order : 10 ^ others.length < 10 ^ k := size.trans_lt (least.trans_lt lt)
      rw [List.length_cons]
      exact (Nat.pow_lt_pow_iff_right (by decide)).mp order
  · intro le
    exact HasDigits.mono ⟨_, ofDigitChars_lt coreDigit, rfl⟩ le

end Numeral

end ColdBuild
