import ColdBuild.Decimal.Shortest
import ColdBuild.Proofs.Binary64.Accuracy
import Mathlib.Algebra.Order.Field.Power

/-!
# Seventeen digits suffice

The grid seventeen digits below the leading position is finer than the magnitudes: its point
nearest to a magnitude is nearer than a part of `2 ^ -54`, and so names it (`code_nearer`). The
search reaches that grid at the latest, so every positive finite magnitude has a shortest decimal,
and rounding that decimal gives the magnitude back (`code_shortest`).
-/
namespace ColdBuild

theorem decimalLength_pos (n : Nat) : 0 < decimalLength n := by
  rw [decimalLength]
  split <;> omega

theorem lt_pow_decimalLength (n : Nat) : n < 10 ^ decimalLength n := by
  induction n using decimalLength.induct with
  | case1 n small =>
    rw [decimalLength, if_pos small]
    exact small
  | case2 n large ih =>
    rw [decimalLength, if_neg large, Nat.pow_succ]
    omega

theorem pow_decimalLength_le {n : Nat} (pos : 0 < n) : 10 ^ (decimalLength n - 1) ≤ n := by
  induction n using decimalLength.induct with
  | case1 n small =>
    rw [decimalLength, if_pos small]
    exact pos
  | case2 n large ih =>
    have shorter := ih (by omega)
    rw [decimalLength, if_neg large, Nat.add_sub_cancel]
    calc 10 ^ decimalLength (n / 10) = 10 ^ (decimalLength (n / 10) - 1) * 10 := by
          rw [← Nat.pow_succ, Nat.succ_eq_add_one, Nat.sub_add_cancel (decimalLength_pos _)]
      _ ≤ n / 10 * 10 := Nat.mul_le_mul_right 10 shorter
      _ ≤ n := Nat.div_mul_le_self n 10

namespace Decimal

open Binary64 (units one infinityCode)

def toRat (d : Decimal) : ℚ := d.significand * 10 ^ d.exponent

/-- A power of ten as a fraction of natural numbers. -/
theorem zpow_eq_div (e : ℤ) :
    (10 : ℚ) ^ e = (10 ^ e.toNat : ℕ) / (10 ^ (-e).toNat : ℕ) := by
  rcases Int.le_total 0 e with nonneg | nonpos
  · obtain ⟨n, rfl⟩ := Int.eq_ofNat_of_zero_le nonneg
    simp
  · obtain ⟨n, h⟩ := Int.eq_ofNat_of_zero_le (Int.neg_nonneg_of_nonpos nonpos)
    obtain rfl : e = -(n : ℤ) := by omega
    simp

theorem den_pos (d : Decimal) : 0 < Nat.pow 10 (-d.exponent).toNat := Nat.pow_pos (by decide)

/-- The fraction that is rounded is the value in units. -/
theorem code_fraction (d : Decimal) :
    ((d.significand * Nat.pow 10 d.exponent.toNat * one : ℕ) /
      (Nat.pow 10 (-d.exponent).toNat : ℕ) : ℚ) = d.toRat * one := by
  rw [toRat, zpow_eq_div, Nat.pow_eq, Nat.pow_eq]
  push_cast
  ring

/-- A decimal is rounded to the nearest magnitude, an exact half to the even one. -/
theorem isNearest_code {d : Decimal} (finite : d.code < infinityCode) :
    Binary64.IsNearest (d.toRat * one) d.code := by
  obtain ⟨code, rounded, nearest⟩ := Binary64.nearestCode_isNearest
    (d.significand * Nat.pow 10 d.exponent.toNat * one) d.den_pos
  have chosen : d.code = min infinityCode code := rounded
  rw [code_fraction] at nearest
  rwa [show d.code = code by omega]

/-- The code depends on the value alone, not on how the decimal is written. -/
theorem code_congr {d d' : Decimal} (equal : d.toRat = d'.toRat) : d.code = d'.code := by
  refine Binary64.nearestCode_congr d.den_pos d'.den_pos ?_
  rw [code_fraction, code_fraction, equal]

/-- The code of a decimal is the nearest to its value. -/
theorem code_of_isNearest {d : Decimal} {code : Nat}
    (nearest : Binary64.IsNearest (d.toRat * one) code) : d.code = min infinityCode code := by
  refine Binary64.nearestCode_of_isNearest d.den_pos ?_
  rwa [code_fraction]

theorem code_zero {d : Decimal} (zero : d.significand = 0) : d.code = 0 := by
  have value : d.toRat * one = units 0 := by
    rw [toRat, zero, Binary64.units_zero, Nat.cast_zero, zero_mul, zero_mul]
  rw [code_of_isNearest (value ▸ Binary64.IsNearest.refl 0), Nat.min_zero]

/-- A decimal names a magnitude if it differs from it by a part less than `2 ^ -54`. -/
theorem code_of_close {d : Decimal} {code : Nat} (finite : code < infinityCode)
    (close : 2 ^ 54 * |d.toRat - units code / one| < units code / one) : d.code = code := by
  have scale : (0 : ℚ) < one := by exact_mod_cast Binary64.one_pos
  rw [← Nat.min_eq_right finite.le]
  refine Binary64.nearestCode_of_close d.den_pos ?_
  rw [code_fraction]
  have scaled := mul_lt_mul_of_pos_right close scale
  rwa [mul_assoc, ← abs_of_pos scale, ← abs_mul, abs_of_pos scale, sub_mul,
    div_mul_cancel₀ _ scale.ne'] at scaled

/-- The smallest magnitude has its first digit at position `-324`. -/
theorem one_le_pow {places : Nat} (h : 324 = places) : one ≤ 10 ^ places := by
  obtain ⟨exponent, exact⟩ : ∃ exponent, exponent = 1074 := ⟨_, rfl⟩
  obtain ⟨blocks, many⟩ : ∃ blocks, blocks = 11 := ⟨_, rfl⟩
  have block : (2 ^ 93) ^ blocks ≤ (10 ^ 28) ^ blocks := Nat.pow_le_pow_left (by decide) blocks
  have rest : 2 ^ 53 ≤ 10 ^ 16 := by decide
  calc one = 2 ^ exponent := Binary64.one_eq exact
    _ ≤ 2 ^ (93 * blocks + 53) := Nat.pow_le_pow_right (by decide) (by omega)
    _ = (2 ^ 93) ^ blocks * 2 ^ 53 := by rw [Nat.pow_add, Nat.pow_mul]
    _ ≤ (10 ^ 28) ^ blocks * 10 ^ 16 := Nat.mul_le_mul block rest
    _ = 10 ^ places := by
      rw [← Nat.pow_mul, ← Nat.pow_add, show 28 * blocks + 16 = places by omega]

/-- In parts so small that every magnitude has one, the leading position is a length. -/
theorem leadingPosition_add_one (n : Nat) {places : Nat} (h : 324 = places) :
    leadingPosition n + 1 = (decimalLength (n * 10 ^ places / one) : ℤ) - places := by
  have same : leadingPosition n = (decimalLength (n * 10 ^ places / one) : ℤ) - 325 := by
    rw [leadingPosition, h, Nat.pow_eq]
  omega

/-- The leading position is not above the first digit. -/
theorem le_leadingPosition {n : Nat} (pos : 0 < n) :
    (10 : ℚ) ^ leadingPosition n ≤ n / one := by
  obtain ⟨places, h⟩ : ∃ places, 324 = places := ⟨_, rfl⟩
  have scale : (0 : ℚ) < one := by exact_mod_cast Binary64.one_pos
  have scaled : 0 < n * 10 ^ places / one :=
    Nat.div_pos ((one_le_pow h).trans (Nat.le_mul_of_pos_left _ pos)) Binary64.one_pos
  have length : 10 ^ (decimalLength (n * 10 ^ places / one) - 1) * one ≤ n * 10 ^ places :=
    (Nat.mul_le_mul_right one (pow_decimalLength_le scaled)).trans (Nat.div_mul_le_self _ _)
  have position : leadingPosition n =
      ((decimalLength (n * 10 ^ places / one) - 1 : ℕ) : ℤ) - places := by
    have next := leadingPosition_add_one n h
    have positive := decimalLength_pos (n * 10 ^ places / one)
    omega
  rw [position, zpow_sub₀ (by norm_num), zpow_natCast, zpow_natCast,
    div_le_div_iff₀ (by positivity) scale]
  exact_mod_cast length

/-- Nor is it below the first digit. -/
theorem lt_pow_leadingPosition (n : Nat) : (n / one : ℚ) < 10 ^ (leadingPosition n + 1) := by
  obtain ⟨places, h⟩ : ∃ places, 324 = places := ⟨_, rfl⟩
  have scale : (0 : ℚ) < one := by exact_mod_cast Binary64.one_pos
  have length := (Nat.div_lt_iff_lt_mul Binary64.one_pos).mp
    (lt_pow_decimalLength (n * 10 ^ places / one))
  rw [leadingPosition_add_one n h, zpow_sub₀ (by norm_num), zpow_natCast, zpow_natCast,
    div_lt_div_iff₀ scale (by positivity)]
  exact_mod_cast length

/-- In steps of the grid the value is an integer and a rest below one. The two points of the grid
are that integer and the next, and the rest decides which of them comes first. -/
theorem neighbours_cases (tie : Tie) (n : Nat) (position : Int) :
    ∃ (point : Nat) (rest : ℚ), 0 ≤ rest ∧ rest < 1 ∧
      (n / one : ℚ) = (point + rest) * 10 ^ position ∧
      (neighbours tie n position = (⟨point, position⟩, ⟨point + 1, position⟩) ∧ 2 * rest ≤ 1 ∨
        neighbours tie n position = (⟨point + 1, position⟩, ⟨point, position⟩) ∧ 1 ≤ 2 * rest) := by
  obtain ⟨num, num_eq⟩ : ∃ num, num = n * 10 ^ (-position).toNat := ⟨_, rfl⟩
  obtain ⟨den, den_eq⟩ : ∃ den, den = one * 10 ^ position.toNat := ⟨_, rfl⟩
  have pos : 0 < den := den_eq ▸ Nat.mul_pos Binary64.one_pos (Nat.pow_pos (by decide))
  have size : (0 : ℚ) < den := by exact_mod_cast pos
  have value : (n / one : ℚ) = num / den * 10 ^ position := by
    have scale : (one : ℚ) ≠ 0 := by exact_mod_cast Binary64.one_pos.ne'
    rw [num_eq, den_eq, zpow_eq_div]
    push_cast
    field_simp
  have points : neighbours tie n position =
      if decide (2 * (num % den) < den) ||
          (decide (2 * (num % den) = den) && decide (tie = .evenDigit) &&
            decide (num / den % 2 = 0)) then
        (⟨num / den, position⟩, ⟨num / den + 1, position⟩)
      else (⟨num / den + 1, position⟩, ⟨num / den, position⟩) := by
    rw [num_eq, den_eq]
    rfl
  refine ⟨num / den, (num % den : ℕ) / den, by positivity, ?_, ?_, ?_⟩
  · rw [div_lt_one size]
    exact_mod_cast Nat.mod_lt num pos
  · have division : (num : ℚ) = (num / den : ℕ) * den + (num % den : ℕ) := by
      exact_mod_cast (Nat.div_add_mod' num den).symm
    rw [value]
    congr 1
    rw [div_eq_iff size.ne', add_mul, div_mul_cancel₀ _ size.ne']
    exact division
  · rw [points, ← mul_div_assoc, div_le_one size, one_le_div size]
    split
    · next below =>
      refine .inl ⟨rfl, ?_⟩
      rcases (Bool.or_eq_true _ _).mp below with less | equal
      · exact_mod_cast (of_decide_eq_true less).le
      · simp only [Bool.and_eq_true, decide_eq_true_eq] at equal
        exact_mod_cast equal.1.1.le
    · next above =>
      simp only [Bool.or_eq_true, decide_eq_true_eq, not_or, Nat.not_lt] at above
      exact .inr ⟨rfl, by exact_mod_cast above.1⟩

/-- How far the two points of a grid are away, with the rest in steps. -/
theorem grid_error (point : Nat) (position : Int) {rest : ℚ} (atLeast : 0 ≤ rest)
    (lessThan : rest < 1) :
    |toRat ⟨point, position⟩ - (point + rest) * 10 ^ position| = rest * 10 ^ position ∧
      |toRat ⟨point + 1, position⟩ - (point + rest) * 10 ^ position| =
        (1 - rest) * 10 ^ position := by
  have step : (0 : ℚ) < 10 ^ position := zpow_pos (by norm_num) position
  have below : toRat ⟨point, position⟩ - (point + rest) * 10 ^ position =
      -(rest * 10 ^ position) := by
    rw [toRat]
    ring
  have above : toRat ⟨point + 1, position⟩ - (point + rest) * 10 ^ position =
      (1 - rest) * 10 ^ position := by
    rw [toRat]
    push_cast
    ring
  rw [below, above, abs_neg]
  exact ⟨abs_of_nonneg (mul_nonneg atLeast step.le),
    abs_of_nonneg (mul_nonneg (sub_nonneg.mpr lessThan.le) step.le)⟩

/-- The point that comes first is at most half a step away, and the other is not nearer. -/
theorem neighbours_error (tie : Tie) (n : Nat) (position : Int) :
    |(neighbours tie n position).1.toRat - n / one| ≤ 10 ^ position / 2 ∧
      |(neighbours tie n position).1.toRat - n / one| ≤
        |(neighbours tie n position).2.toRat - n / one| := by
  obtain ⟨point, rest, atLeast, lessThan, value, order⟩ := neighbours_cases tie n position
  obtain ⟨below, above⟩ := grid_error point position atLeast lessThan
  have step : (0 : ℚ) < 10 ^ position := zpow_pos (by norm_num) position
  rw [value]
  rcases order with ⟨points, half⟩ | ⟨points, half⟩ <;> rw [points, below, above] <;>
    constructor <;> nlinarith

/-- The nearer point of the grid of seventeen digits names the magnitude. -/
theorem code_nearer (tie : Tie) {code : Nat} (pos : 0 < code) (finite : code < infinityCode) :
    (neighbours tie (units code) (leadingPosition (units code) - (16 : ℕ))).1.code = code := by
  refine code_of_close finite ?_
  have positive : 0 < units code := Binary64.units_zero ▸ Binary64.units_strictMono pos
  have size := le_leadingPosition positive
  obtain ⟨error, -⟩ := neighbours_error tie (units code) (leadingPosition (units code) - (16 : ℕ))
  have power : (0 : ℚ) < 10 ^ leadingPosition (units code) := zpow_pos (by norm_num) _
  rw [zpow_sub₀ (by norm_num), zpow_natCast] at error
  linarith

theorem isSome_onGrid {tie : Tie} {code : Nat} {position : Int}
    (named : (neighbours tie (units code) position).1.code = code) :
    (onGrid tie code position).isSome := by
  simp only [onGrid]
  rw [if_pos named]
  rfl

/-- The search ends on the first grid on which the magnitude has a name. -/
theorem exists_search {tie : Tie} {code steps remaining : Nat} {position : Int}
    (lt : steps < remaining) (hit : (onGrid tie code (position - steps)).isSome) :
    ∃ first d, first ≤ steps ∧ onGrid tie code (position - first) = some d ∧
      search tie code remaining position = some d := by
  induction remaining generalizing steps position with
  | zero => omega
  | succ remaining ih =>
    rw [search]
    cases here : onGrid tie code position with
    | some d => exact ⟨0, d, Nat.zero_le steps, by rwa [Nat.cast_zero, Int.sub_zero], rfl⟩
    | none =>
      cases steps with
      | zero =>
        rw [Nat.cast_zero, Int.sub_zero, here] at hit
        cases hit
      | succ steps =>
        have below (n : Nat) : position - (n + 1 : ℕ) = position - 1 - n := by
          push_cast
          ring
        rw [below] at hit
        obtain ⟨first, d, le, found, searched⟩ := ih (Nat.lt_of_succ_lt_succ lt) hit
        exact ⟨first + 1, d, Nat.succ_le_succ le, by rwa [below], searched⟩

/-- The shortest decimal stands on the first grid on which the magnitude has a name. -/
theorem exists_shortest {tie : Tie} {code steps : Nat} (lt : steps < 17)
    (hit : (onGrid tie code (leadingPosition (units code) - steps)).isSome) :
    ∃ first, first ≤ steps ∧
      onGrid tie code (leadingPosition (units code) - first) = some (shortest tie code) := by
  obtain ⟨first, d, le, found, searched⟩ := exists_search lt hit
  refine ⟨first, le, ?_⟩
  rw [shortest, searched]
  exact found

/-- It names the magnitude. -/
theorem code_of_onGrid {tie : Tie} {code : Nat} {position : Int} {d : Decimal}
    (hit : onGrid tie code position = some d) : d.code = code :=
  code_of_search (show search tie code 1 position = some d by rw [search, hit]; rfl)

/-- Rounding the shortest decimal of a magnitude gives the magnitude back. -/
theorem code_shortest (tie : Tie) {code : Nat} (pos : 0 < code) (finite : code < infinityCode) :
    (shortest tie code).code = code := by
  obtain ⟨first, -, found⟩ :=
    exists_shortest (by decide : 16 < 17) (isSome_onGrid (code_nearer tie pos finite))
  exact code_of_onGrid found

/-- The shortest decimal of a positive magnitude is positive. -/
theorem significand_shortest_pos (tie : Tie) {code : Nat} (pos : 0 < code)
    (finite : code < infinityCode) : 0 < (shortest tie code).significand := by
  refine Nat.pos_of_ne_zero fun zero => ?_
  have none := code_zero zero
  rw [code_shortest tie pos finite] at none
  omega

end Decimal

end ColdBuild
