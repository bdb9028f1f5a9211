import ColdBuild.Proofs.Binary64.Nearest
import Mathlib.Tactic.FieldSimp

/-!
# Rounding errors

A number that is reached from `q` by at most `k` roundings lies between `q * (1 - u) ^ k` and
`q * (1 + u) ^ k`, where `u` is `2 ^ -53` (`Within`). The conversion of a natural number, a sum and
a quotient add one rounding each. Sums do so at any magnitude, because magnitudes below the normal
ones are added exactly; quotients do if they are of normal size. The error of a chain of at most
`2 ^ 53` roundings stays close to linear in its length (`one_add_pow_le`).
-/
namespace ColdBuild.Binary64

/-- The exact value of a finite number. -/
def toRat (x : Binary64) : ℚ := x.signedUnits / one

/-- The part by which one rounding changes a number at most. -/
def roundoff : ℚ := 1 / 2 ^ 53

/-- The exponent is named, because the power is too long to be written out. -/
theorem one_eq {exponent : Nat} (h : exponent = 1074) : one = 2 ^ exponent := by
  have shifted : one = 1 <<< exponent := by
    rw [h]
    unfold one
    rfl
  rw [shifted, Nat.one_shiftLeft]

theorem one_pos : 0 < one := by
  obtain ⟨exponent, h⟩ : ∃ exponent, exponent = 1074 := ⟨_, rfl⟩
  exact one_eq h ▸ Nat.two_pow_pos exponent

/-- There is much room between the normal magnitudes and one. -/
theorem le_one : 2 ^ 252 ≤ one := by
  obtain ⟨exponent, h⟩ : ∃ exponent, exponent = 1074 := ⟨_, rfl⟩
  rw [one_eq h]
  exact Nat.pow_le_pow_right (by decide) (by omega)

/-- There is much room between one and infinity. -/
theorem lt_units_infinityCode : one * 2 ^ 200 < units infinityCode := by
  obtain ⟨exponent, h⟩ : ∃ exponent, exponent = 1074 := ⟨_, rfl⟩
  obtain ⟨last, top⟩ : ∃ last, last = 2046 := ⟨_, rfl⟩
  have parts : infinityCode = last * 2 ^ 52 + 2 ^ 52 := by rw [top]; decide
  rw [parts, units_of_parts (.inr le_rfl) (by norm_num), one_eq h, ← Nat.pow_add, ← Nat.pow_add]
  exact Nat.pow_lt_pow_right (by decide) (by omega)

theorem toRat_of_nonneg {x : Binary64} (nonneg : x.negative = false) :
    x.toRat = units x.code / one := by
  simp [toRat, signedUnits, nonneg]

theorem isFinite_iff {x : Binary64} : x.isFinite = true ↔ x.code < infinityCode := by
  rw [isFinite, decide_eq_true_iff]

/-- Rounding far below infinity changes a value by one rounding error at most. -/
theorem nearest_error {num den : Nat} {q : ℚ} (pos : 0 < den) (value : (num / den : ℚ) = q * one)
    (small : q ≤ 2 ^ 199) (normal : 2 ^ 52 ≤ q * one ∨ ∃ exactly, (units exactly : ℚ) = q * one) :
    (nearest false num den).code < infinityCode ∧
      |(nearest false num den).toRat - q| ≤ q * roundoff := by
  obtain ⟨code, rounded, found⟩ := nearestCode_isNearest num pos
  rw [value] at found
  have scale : (0 : ℚ) < one := by exact_mod_cast one_pos
  have error := found.relative_error normal
  have below : code < infinityCode := by
    rw [← units_strictMono.lt_iff_lt, ← Nat.cast_lt (α := ℚ)]
    have room : (one * 2 ^ 200 : ℚ) < units infinityCode := by exact_mod_cast lt_units_infinityCode
    have bounded : q * one ≤ 2 ^ 199 * one := mul_le_mul_of_nonneg_right small scale.le
    have upper := (abs_le.mp error).2
    linarith
  have chosen : (nearest false num den).code = code := by
    rw [← Nat.min_eq_right below.le]
    exact rounded
  refine ⟨chosen ▸ below, ?_⟩
  rw [toRat_of_nonneg rfl, chosen, roundoff, ← mul_le_mul_iff_of_pos_right scale,
    ← abs_of_pos scale, ← abs_mul, abs_of_pos scale, sub_mul, div_mul_cancel₀ _ scale.ne']
  linarith

/-- Natural numbers up to `2 ^ 53` are converted exactly. -/
theorem units_ofNat {n : Nat} (le : n ≤ 2 ^ 53) :
    (ofNat n).code < infinityCode ∧ units (ofNat n).code = n * one := by
  obtain ⟨exponent, h⟩ : ∃ exponent, exponent = 1074 := ⟨_, rfl⟩
  obtain ⟨code, exactly⟩ := exists_units_eq exponent le
  rw [← one_eq h] at exactly
  have below : code < infinityCode := by
    rw [← units_strictMono.lt_iff_lt, exactly]
    have room := lt_units_infinityCode
    have bounded := Nat.mul_le_mul_right one le
    omega
  have rounded : (ofNat n).code = min infinityCode code := by
    refine nearestCode_of_isNearest Nat.one_pos ?_
    rw [Nat.cast_one, div_one, ← exactly]
    exact .refl code
  rw [rounded, Nat.min_eq_right below.le]
  exact ⟨below, exactly⟩

section

variable {x y : Binary64}

theorem not_isNaN (finite : x.code < infinityCode) : x.isNaN = false := by
  simp only [isNaN, decide_eq_false_iff_not]
  omega

theorem not_isInfinite (finite : x.code < infinityCode) : x.isInfinite = false := by
  simp only [isInfinite, decide_eq_false_iff_not]
  omega

/-- Finite numbers that are not negative are added in units and rounded once. -/
theorem add_of_nonneg (hx : x.negative = false) (hy : y.negative = false)
    (finite : x.code < infinityCode) (finite' : y.code < infinityCode) :
    x + y = nearest false (units x.code + units y.code) 1 := by
  have sum : x.signedUnits + y.signedUnits = ((units x.code + units y.code : Nat) : Int) := by
    simp [signedUnits, hx, hy]
  change add x y = _
  simp only [add, not_isNaN finite, not_isNaN finite', not_isInfinite finite,
    not_isInfinite finite', sum, hx, hy, Bool.or_self, Bool.false_eq_true, if_false,
    Int.natAbs_natCast]
  split
  · next none =>
    have zero : units x.code + units y.code = 0 := by exact_mod_cast none
    rw [zero]
    decide
  · have notNegative : ¬ (((units x.code + units y.code : Nat) : Int) < 0) := by omega
    rw [decide_eq_false notNegative]

/-- Finite numbers that are not negative are divided in units and rounded once. -/
theorem div_of_nonneg (hx : x.negative = false) (hy : y.negative = false)
    (finite : x.code < infinityCode) (finite' : y.code < infinityCode) (nonzero : y.code ≠ 0) :
    x / y = nearest false (units x.code * one) (units y.code) := by
  change div x y = _
  simp only [div, not_isNaN finite, not_isNaN finite', not_isInfinite finite,
    not_isInfinite finite', hx, hy, Bool.or_self, Bool.false_eq_true, if_false, nonzero,
    bne_self_eq_false]

end

theorem mul_roundoff_le_one {k : Nat} (few : k ≤ 2 ^ 53) : k * roundoff ≤ 1 := by
  rw [roundoff, mul_one_div, div_le_one (by norm_num)]
  exact_mod_cast few

/-- Errors of up to `2 ^ 53` roundings add up, and little more. -/
theorem one_add_pow_le {k : Nat} (few : k ≤ 2 ^ 53) :
    (1 + roundoff) ^ k ≤ 1 + k * roundoff + (k * roundoff) ^ 2 := by
  induction k with
  | zero => simp
  | succ k ih =>
    have step := mul_le_mul_of_nonneg_right (ih (by omega))
      (show 0 ≤ 1 + roundoff by norm_num [roundoff])
    have rest : k * roundoff * roundoff * (k * roundoff) ≤ k * roundoff * roundoff :=
      mul_le_of_le_one_right (by norm_num [roundoff]) (mul_roundoff_le_one (by omega))
    rw [pow_succ]
    push_cast
    nlinarith [sq_nonneg roundoff]

/-- The number is finite, not negative, and was reached from `q` by at most `k` roundings. -/
structure Within (x : Binary64) (k : Nat) (q : ℚ) : Prop where
  nonneg : x.negative = false
  finite : x.code < infinityCode
  lower : q * (1 - roundoff) ^ k ≤ x.toRat
  upper : x.toRat ≤ q * (1 + roundoff) ^ k

namespace Within

variable {x y : Binary64} {k : Nat} {p q : ℚ}

theorem toRat_nonneg (within : x.Within k q) : 0 ≤ x.toRat := by
  rw [toRat_of_nonneg within.nonneg]
  positivity

theorem target_nonneg (within : x.Within k q) : 0 ≤ q := by
  have grown : (0 : ℚ) < (1 + roundoff) ^ k := pow_pos (by norm_num [roundoff]) k
  exact nonneg_of_mul_nonneg_left (within.toRat_nonneg.trans within.upper) grown

/-- Without a rounding the value is exact. -/
theorem toRat_eq (within : x.Within 0 q) : x.toRat = q := by
  have lower := within.lower
  have upper := within.upper
  rw [pow_zero, mul_one] at lower upper
  exact le_antisymm upper lower

theorem zero (k : Nat) : Binary64.zero.Within k 0 where
  nonneg := rfl
  finite := by decide
  lower := by rw [zero_mul, toRat_of_nonneg rfl]; positivity
  upper := by rw [zero_mul, toRat_of_nonneg rfl]; simp [Binary64.zero, units_zero]

/-- One more rounding of a value that was reached by `k` roundings. -/
theorem of_error {v : ℚ} (nonneg : x.negative = false) (finite : x.code < infinityCode)
    (lower : q * (1 - roundoff) ^ k ≤ v) (upper : v ≤ q * (1 + roundoff) ^ k)
    (error : |x.toRat - v| ≤ v * roundoff) : x.Within (k + 1) q where
  nonneg := nonneg
  finite := finite
  lower := by
    have shrunk := mul_le_mul_of_nonneg_right lower
      (show 0 ≤ 1 - roundoff by norm_num [roundoff])
    rw [pow_succ, ← mul_assoc]
    linarith [(abs_le.mp error).1]
  upper := by
    have grown := mul_le_mul_of_nonneg_right upper
      (show 0 ≤ 1 + roundoff by norm_num [roundoff])
    rw [pow_succ, ← mul_assoc]
    linarith [(abs_le.mp error).2]

/-- A rounding that is not made does no harm. -/
theorem succ (within : x.Within k q) : x.Within (k + 1) q :=
  of_error within.nonneg within.finite within.lower within.upper <| by
    rw [sub_self, abs_zero]
    exact mul_nonneg within.toRat_nonneg (by norm_num [roundoff])

theorem exactly_ofNat {n : Nat} (le : n ≤ 2 ^ 53) : (ofNat n).Within 0 n := by
  obtain ⟨finite, exactly⟩ := units_ofNat le
  have value : (ofNat n).toRat = n := by
    have scale : (one : ℚ) ≠ 0 := by exact_mod_cast one_pos.ne'
    rw [toRat_of_nonneg rfl, exactly, Nat.cast_mul, mul_div_cancel_right₀ _ scale]
  exact ⟨rfl, finite, by simp [value], by simp [value]⟩

theorem ofNat {n : Nat} (le : n ≤ 2 ^ 199) : (ofNat n).Within 1 n := by
  have value : ((n * one : ℕ) / (1 : ℕ) : ℚ) = (n : ℚ) * one := by
    push_cast
    ring
  obtain ⟨finite, error⟩ := nearest_error Nat.one_pos value (by exact_mod_cast le)
    (by exact_mod_cast normal_or_exact (n * one))
  exact of_error (k := 0) rfl finite (by simp) (by simp) error

theorem add (hx : x.Within k p) (hy : y.Within k q) (small : x.toRat + y.toRat ≤ 2 ^ 199) :
    (x + y).Within (k + 1) (p + q) := by
  rw [add_of_nonneg hx.nonneg hy.nonneg hx.finite hy.finite]
  have scale : (one : ℚ) ≠ 0 := by exact_mod_cast one_pos.ne'
  have value : ((units x.code + units y.code : ℕ) / (1 : ℕ) : ℚ) =
      (x.toRat + y.toRat) * one := by
    rw [toRat_of_nonneg hx.nonneg, toRat_of_nonneg hy.nonneg, ← add_div,
      div_mul_cancel₀ _ scale]
    push_cast
    ring
  obtain ⟨finite, error⟩ := nearest_error Nat.one_pos value small
    (by rw [← value, Nat.cast_one, div_one]; exact normal_or_exact _)
  refine of_error rfl finite ?_ ?_ error
  · rw [add_mul]
    exact add_le_add hx.lower hy.lower
  · rw [add_mul]
    exact add_le_add hx.upper hy.upper

/-- A quotient by a natural number must be zero or have a normal size. -/
theorem div_ofNat {n : Nat} (hx : x.Within k q) (pos : 0 < n) (le : n ≤ 2 ^ 53)
    (small : x.toRat / n ≤ 2 ^ 199) (normal : x.toRat = 0 ∨ 1 / 2 ^ 200 ≤ x.toRat / n) :
    (x / Binary64.ofNat n).Within (k + 1) (q / n) := by
  obtain ⟨finite', exactly⟩ := units_ofNat le
  have nonzero : (Binary64.ofNat n).code ≠ 0 := by
    intro zero
    rw [zero, units_zero] at exactly
    exact (Nat.mul_pos pos one_pos).ne exactly
  rw [div_of_nonneg hx.nonneg rfl hx.finite finite' nonzero, exactly]
  have scale : (0 : ℚ) < one := by exact_mod_cast one_pos
  have count : (0 : ℚ) < n := by exact_mod_cast pos
  have value : ((units x.code * one : ℕ) / (n * one : ℕ) : ℚ) = x.toRat / n * one := by
    rw [toRat_of_nonneg hx.nonneg]
    push_cast
    field_simp
  have sized : 2 ^ 52 ≤ x.toRat / n * one ∨ ∃ code, (units code : ℚ) = x.toRat / n * one := by
    rcases normal with zero | normal
    · exact .inr ⟨0, by simp [zero, units_zero]⟩
    · left
      have room : (2 ^ 252 : ℚ) ≤ one := by exact_mod_cast le_one
      calc (2 ^ 52 : ℚ) = 1 / 2 ^ 200 * 2 ^ 252 := by norm_num
        _ ≤ x.toRat / n * one :=
          mul_le_mul normal room (by norm_num) (div_nonneg hx.toRat_nonneg count.le)
  obtain ⟨finite, error⟩ := nearest_error (Nat.mul_pos pos one_pos) value small sized
  refine of_error rfl finite ?_ ?_ error
  · rw [div_mul_eq_mul_div]
    exact div_le_div_of_nonneg_right hx.lower count.le
  · rw [div_mul_eq_mul_div]
    exact div_le_div_of_nonneg_right hx.upper count.le

theorem mono {j : Nat} (within : x.Within j q) (le : j ≤ k) : x.Within k q := by
  induction le with
  | refl => exact within
  | step _ ih => exact ih.succ

/-- Roundings take away no more than their number says (Bernoulli's inequality). -/
theorem linear_le (within : x.Within k q) : q * (1 - k * roundoff) ≤ x.toRat := by
  have shrunk := mul_le_mul_of_nonneg_left
    (one_add_mul_le_pow (show (-2 : ℚ) ≤ -roundoff by norm_num [roundoff]) k) within.target_nonneg
  rw [← sub_eq_add_neg] at shrunk
  linarith [within.lower]

/-- How far a number can be from the value it was reached from. -/
theorem error_le (within : x.Within k q) (few : k ≤ 2 ^ 53) :
    |x.toRat - q| ≤ (k * roundoff + (k * roundoff) ^ 2) * q := by
  have nonneg := within.target_nonneg
  have grown := mul_le_mul_of_nonneg_left (one_add_pow_le few) nonneg
  have square : 0 ≤ (k * roundoff) ^ 2 * q := mul_nonneg (sq_nonneg _) nonneg
  rw [abs_sub_le_iff]
  constructor
  · linarith [within.upper]
  · linarith [within.linear_le]

theorem toRat_le (within : x.Within k q) (few : k ≤ 2 ^ 53) : x.toRat ≤ 3 * q := by
  have small := mul_roundoff_le_one few
  have positive : 0 ≤ k * roundoff := mul_nonneg (Nat.cast_nonneg k) (by norm_num [roundoff])
  have factor : k * roundoff + (k * roundoff) ^ 2 ≤ 2 := by nlinarith
  have bounded := mul_le_mul_of_nonneg_right factor within.target_nonneg
  linarith [(abs_sub_le_iff.mp (within.error_le few)).1]

/-- Roundings that are not too many leave a quarter at least. -/
theorem quarter_le (within : x.Within k q) (few : k ≤ 2 ^ 52 + 2 ^ 51) : q / 4 ≤ x.toRat := by
  have least : 1 / 4 ≤ 1 - k * roundoff := by
    have fewCast : (k : ℚ) ≤ 2 ^ 52 + 2 ^ 51 := by exact_mod_cast few
    rw [roundoff]
    linarith
  have bounded := mul_le_mul_of_nonneg_left least within.target_nonneg
  linarith [within.linear_le]

end Within

end ColdBuild.Binary64
