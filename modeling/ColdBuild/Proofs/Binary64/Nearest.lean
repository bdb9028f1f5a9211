import ColdBuild.Binary64
import Mathlib.Algebra.Order.Archimedean.Basic
import Mathlib.Tactic.Linarith
import Mathlib.Tactic.NormNum
import Mathlib.Tactic.Positivity
import Mathlib.Tactic.Ring

/-!
# The nearest magnitude

Magnitudes grow with their codes, by a `step` that is a power of two. Rounding finds the two
neighbouring codes around a quotient and takes the nearer, and so no magnitude at all is nearer
(`IsNearest`, `nearestCode_isNearest`). A quotient has one nearest code only, so it does not matter
how it is written as a fraction, and a code is found by showing that nothing else is as near.

Two estimates follow. A quotient that is much nearer to a magnitude than its last digit rounds to
it (`nearestCode_of_close`), and rounding changes a quotient of normal size by a part of at most
`2 ^ -53` (`IsNearest.relative_error`).
-/
namespace ColdBuild

/-- The remainder decides where a quotient is rounded to. -/
theorem roundHalfEven_cases (num den : Nat) :
    roundHalfEven num den =
      if 2 * num < (num / den + (num / den + 1)) * den then num / den
      else if (num / den + (num / den + 1)) * den < 2 * num then num / den + 1
      else num / den + num / den % 2 := by
  have division := Nat.div_add_mod' num den
  have sum : (num / den + (num / den + 1)) * den = 2 * (num / den * den) + den := by ring
  have below : 2 * (num % den) < den ↔ 2 * num < (num / den + (num / den + 1)) * den := by omega
  have above : den < 2 * (num % den) ↔ (num / den + (num / den + 1)) * den < 2 * num := by omega
  simp only [roundHalfEven, below, above]

namespace Binary64

/-- How far it is from a magnitude to the next one, in units. -/
def step (code : Nat) : Nat := 2 ^ (code / 2 ^ 52 - 1)

theorem units_zero : units 0 = 0 := by decide

/-- A code is an exponent and a significand. The significand may also be `2 ^ 53`: then the code is
the first of the next exponent, which stands for the same magnitude. -/
theorem units_of_parts {exponent significand : Nat}
    (normal : exponent = 0 ∨ 2 ^ 52 ≤ significand) (le : significand ≤ 2 ^ 53) :
    units (exponent * 2 ^ 52 + significand) = significand * 2 ^ exponent := by
  have base : 1 <<< 52 = 2 ^ 52 := rfl
  unfold units
  rw [base, Nat.shiftLeft_eq]
  rcases Nat.lt_or_ge (exponent * 2 ^ 52 + significand) (2 ^ 52) with subnormal | normalCode
  · have zero : exponent = 0 := by omega
    rw [if_pos subnormal, zero]
    omega
  rw [if_neg (Nat.not_lt.mpr normalCode), Nat.mul_add_mod', Nat.add_comm (exponent * 2 ^ 52),
    Nat.add_mul_div_right _ _ (by decide)]
  rcases Nat.lt_or_ge significand (2 ^ 53) with below | top
  · have one : significand / 2 ^ 52 = 1 := by omega
    have rest : 2 ^ 52 + significand % 2 ^ 52 = significand := by omega
    rw [rest, one, Nat.add_sub_cancel_left]
  · have full : significand = 2 ^ 53 := by omega
    rw [full, show 2 ^ 53 / 2 ^ 52 + exponent - 1 = exponent + 1 by omega, Nat.pow_succ]
    omega

/-- The parts of a code. -/
theorem exists_parts (code : Nat) :
    ∃ exponent significand, code = exponent * 2 ^ 52 + significand ∧
      (exponent = 0 ∨ 2 ^ 52 ≤ significand) ∧ significand < 2 ^ 53 ∧ step code = 2 ^ exponent := by
  rcases Nat.lt_or_ge code (2 ^ 52) with subnormal | normal
  · refine ⟨0, code, by omega, .inl rfl, by omega, ?_⟩
    rw [step, Nat.div_eq_of_lt subnormal]
  · have position : 1 ≤ code / 2 ^ 52 := (Nat.one_le_div_iff (by decide)).mpr normal
    refine ⟨code / 2 ^ 52 - 1, 2 ^ 52 + code % 2 ^ 52, by omega, .inr (by omega), by omega, rfl⟩

theorem units_succ (code : Nat) : units (code + 1) = units code + step code := by
  obtain ⟨exponent, significand, rfl, normal, lt, step⟩ := exists_parts code
  have next : exponent = 0 ∨ 2 ^ 52 ≤ significand + 1 := by omega
  rw [step, Nat.add_assoc, units_of_parts next lt, units_of_parts normal lt.le, Nat.succ_mul]

/-- A magnitude and the one before it have `2 ^ 53` steps at most. -/
theorem units_succ_le (code : Nat) : units (code + 1) ≤ 2 ^ 53 * step code := by
  obtain ⟨exponent, significand, rfl, normal, lt, step⟩ := exists_parts code
  have next : exponent = 0 ∨ 2 ^ 52 ≤ significand + 1 := by omega
  rw [step, Nat.add_assoc, units_of_parts next lt]
  exact Nat.mul_le_mul_right _ lt

/-- A normal magnitude has `2 ^ 52` steps at least. -/
theorem le_units_of_normal {code : Nat} (normal : 2 ^ 52 ≤ code) :
    2 ^ 52 * step code ≤ units code := by
  obtain ⟨exponent, significand, rfl, parts, lt, step⟩ := exists_parts code
  rw [step, units_of_parts parts lt.le]
  exact Nat.mul_le_mul_right _ (by omega)

theorem units_strictMono : StrictMono units :=
  strictMono_nat_of_lt_succ fun code => by
    rw [units_succ]
    exact Nat.lt_add_of_pos_right (Nat.two_pow_pos _)

/-- Every significand is exact at every exponent: it is doubled until it fills its digits. -/
theorem exists_units_eq (exponent : Nat) {significand : Nat} (le : significand ≤ 2 ^ 53) :
    ∃ code, units code = significand * 2 ^ exponent := by
  induction exponent generalizing significand with
  | zero => exact ⟨_, units_of_parts (.inl rfl) le⟩
  | succ exponent ih =>
    rcases Nat.lt_or_ge significand (2 ^ 52) with small | normal
    · obtain ⟨code, doubled⟩ := ih (show significand * 2 ≤ 2 ^ 53 by omega)
      exact ⟨code, by rw [doubled, Nat.pow_succ', Nat.mul_assoc]⟩
    · exact ⟨_, units_of_parts (.inr normal) le⟩

/-- Up to `2 ^ 53` a magnitude is as many units as its code says. -/
theorem units_of_le {code : Nat} (le : code ≤ 2 ^ 53) : units code = code := by
  have parts : units (0 * 2 ^ 52 + code) = code * 2 ^ 0 := units_of_parts (.inl rfl) le
  simpa using parts

/-- Every positive quotient lies between two neighbouring magnitudes. -/
theorem exists_neighbours {q : ℚ} (nonneg : 0 ≤ q) :
    ∃ below, (units below : ℚ) ≤ q ∧ q < units (below + 1) := by
  have unbounded : ∃ code, q < units code := by
    obtain ⟨code, above⟩ := exists_nat_gt q
    exact ⟨code, above.trans_le (by exact_mod_cast units_strictMono.le_apply)⟩
  obtain ⟨below, first⟩ : ∃ below, Nat.find unbounded = below + 1 := by
    refine Nat.exists_eq_succ_of_ne_zero fun zero => ?_
    have above := Nat.find_spec unbounded
    rw [zero, units_zero] at above
    exact absurd above (by simpa using nonneg)
  refine ⟨below, ?_, first ▸ Nat.find_spec unbounded⟩
  exact not_lt.mp (Nat.find_min unbounded (by omega))

/-- Whole units are magnitudes until they are of normal size. -/
theorem normal_or_exact (n : Nat) : (2 ^ 52 : ℚ) ≤ n ∨ ∃ exactly, (units exactly : ℚ) = n := by
  rcases Nat.lt_or_ge n (2 ^ 52) with small | normal
  · exact .inr ⟨n, by rw [units_of_le (by omega)]⟩
  · exact .inl (by exact_mod_cast normal)

/-- No magnitude is nearer to `q` units than the one with this code, and if another one is as near,
this code is the even one. -/
structure IsNearest (q : ℚ) (code : Nat) : Prop where
  nearest (other : Nat) : |q - units code| ≤ |q - units other|
  even (other : Nat) : other ≠ code → |q - units other| = |q - units code| → code % 2 = 0

namespace IsNearest

variable {q : ℚ} {code other : Nat}

theorem of_closer (closer : ∀ other ≠ code, |q - units code| < |q - units other|) :
    IsNearest q code where
  nearest other := by
    by_cases same : other = code
    · rw [same]
    · exact (closer other same).le
  even other different tie := absurd tie (closer other different).ne'

/-- A magnitude is the nearest to itself. -/
theorem refl (code : Nat) : IsNearest (units code) code :=
  of_closer fun other different => by
    rw [sub_self, abs_zero, abs_pos, sub_ne_zero]
    exact_mod_cast units_strictMono.injective.ne different.symm

/-- Two codes that are equally near have a nearer one between them, or are an even and an odd. -/
theorem not_lt (this : IsNearest q code) (that : IsNearest q other) : ¬ code < other := by
  intro lt
  have tie : |q - units other| = |q - units code| := le_antisymm (that.nearest _) (this.nearest _)
  have evenThis := this.even other lt.ne' tie
  have evenThat := that.even code lt.ne tie.symm
  have first : (units code : ℚ) < units (code + 1) := by
    exact_mod_cast units_strictMono (Nat.lt_succ_self code)
  have second : (units (code + 1) : ℚ) < units other := by
    exact_mod_cast units_strictMono (show code + 1 < other by omega)
  have between := this.nearest (code + 1)
  rcases abs_cases (q - units code) with ⟨h, _⟩ | ⟨h, _⟩ <;>
    rcases abs_cases (q - units other) with ⟨h', _⟩ | ⟨h', _⟩ <;>
    rcases abs_cases (q - units (code + 1)) with ⟨h'', _⟩ | ⟨h'', _⟩ <;>
    linarith

theorem unique (this : IsNearest q code) (that : IsNearest q other) : code = other :=
  Nat.le_antisymm (Nat.not_lt.mp (that.not_lt this)) (Nat.not_lt.mp (this.not_lt that))

/-- No magnitude lies strictly between two neighbours. -/
theorem distance_cases {below : Nat} (le : (units below : ℚ) ≤ q) (lt : q < units (below + 1))
    (other : Nat) :
    |q - units other| = q - units other ∧ (units other : ℚ) ≤ units below ∨
      |q - units other| = units other - q ∧ (units (below + 1) : ℚ) ≤ units other := by
  rcases Nat.lt_or_ge below other with above | notAbove
  · have far : (units (below + 1) : ℚ) ≤ units other := by
      exact_mod_cast units_strictMono.monotone above
    exact .inr ⟨by rw [abs_of_nonpos (by linarith)]; ring, far⟩
  · have far : (units other : ℚ) ≤ units below := by
      exact_mod_cast units_strictMono.monotone notAbove
    exact .inl ⟨abs_of_nonneg (by linarith), far⟩

/-- Between two neighbouring magnitudes the nearer of them is the nearest of all. -/
theorem of_neighbours {below : Nat} (le : (units below : ℚ) ≤ q) (lt : q < units (below + 1)) :
    IsNearest q (if 2 * q < units below + units (below + 1) then below
      else if units below + units (below + 1) < 2 * q then below + 1
      else below + below % 2) := by
  have lower : |q - units below| = q - units below := abs_of_nonneg (by linarith)
  have upper : |q - units (below + 1)| = units (below + 1) - q := by
    rw [abs_of_nonpos (by linarith)]
    ring
  have injective {other code : Nat} (different : other ≠ code) :
      (units other : ℚ) ≠ units code := by
    exact_mod_cast units_strictMono.injective.ne different
  split
  · refine of_closer fun other different => ?_
    have distinct := injective different
    rcases distance_cases le lt other with ⟨distance, far⟩ | ⟨distance, far⟩
    · have := lt_of_le_of_ne far distinct
      linarith
    · linarith
  · split
    · refine of_closer fun other different => ?_
      have distinct := injective different
      rcases distance_cases le lt other with ⟨distance, far⟩ | ⟨distance, far⟩
      · linarith
      · have := lt_of_le_of_ne far distinct.symm
        linarith
    · -- both neighbours are equally near, and the even one is taken
      have middle : q - units below = units (below + 1) - q := by linarith
      have chosen : |q - units (below + below % 2)| = q - units below := by
        rcases Nat.mod_two_eq_zero_or_one below with even | odd
        · rw [even, Nat.add_zero, lower]
        · rw [odd, upper, middle]
      refine ⟨fun other => ?_, fun other _ _ => by omega⟩
      rw [chosen]
      rcases distance_cases le lt other with ⟨distance, far⟩ | ⟨distance, far⟩ <;> linarith

/-- A quotient of normal size is changed by a part of at most `2 ^ -53`, and a magnitude not at
all. -/
theorem relative_error (nearest : IsNearest q code)
    (normal : 2 ^ 52 ≤ q ∨ ∃ exactly, (units exactly : ℚ) = q) :
    |units code - q| ≤ q / 2 ^ 53 := by
  rcases normal with normal | ⟨exactly, rfl⟩
  swap
  · rw [nearest.unique (refl exactly), sub_self, abs_zero]
    positivity
  obtain ⟨below, le, lt⟩ := exists_neighbours (q := q) (by linarith)
  have normalCode : 2 ^ 52 ≤ below := by
    by_contra small
    have least : (units (below + 1) : ℚ) ≤ 2 ^ 52 := by
      rw [units_of_le (by omega)]
      exact_mod_cast Nat.succ_le_of_lt (Nat.lt_of_not_le small)
    linarith
  have lower := nearest.nearest below
  have upper := nearest.nearest (below + 1)
  rw [abs_of_nonneg (by linarith : 0 ≤ q - units below)] at lower
  rw [abs_of_nonpos (by linarith : q - units (below + 1) ≤ 0)] at upper
  have gap : (units (below + 1) : ℚ) = units below + step below := by
    exact_mod_cast units_succ below
  have small : (2 ^ 52 * step below : ℚ) ≤ units below := by
    exact_mod_cast le_units_of_normal normalCode
  rw [abs_sub_comm, le_div_iff₀ (by norm_num)]
  linarith

end IsNearest

/-- A number cut to its first 53 binary digits is a normal significand, if there are as many. -/
theorem cut_bounds (n : Nat) :
    n / 2 ^ (n.log2 - 52) < 2 ^ 53 ∧ (n.log2 - 52 = 0 ∨ 2 ^ 52 ≤ n / 2 ^ (n.log2 - 52)) := by
  constructor
  · rw [Nat.div_lt_iff_lt_mul (Nat.two_pow_pos _), ← Nat.pow_add]
    exact Nat.lt_of_lt_of_le Nat.lt_log2_self (Nat.pow_le_pow_right (by decide) (by omega))
  · rcases Nat.eq_zero_or_pos (n.log2 - 52) with zero | large
    · exact .inl zero
    · right
      have nonzero : n ≠ 0 := by
        rintro rfl
        simp at large
      rw [Nat.le_div_iff_mul_le (Nat.two_pow_pos _), ← Nat.pow_add,
        show 52 + (n.log2 - 52) = n.log2 by omega]
      exact Nat.log2_self_le nonzero

/-- The code that rounding chooses before it is cut at infinity. -/
theorem nearestCode_isNearest (num : Nat) {den : Nat} (pos : 0 < den) :
    ∃ code, nearestCode num den = min infinityCode code ∧ IsNearest (num / den : ℚ) code := by
  obtain ⟨lt, normal⟩ := cut_bounds (num / den)
  obtain ⟨exponent, chosen⟩ : ∃ exponent, exponent = (num / den).log2 - 52 := ⟨_, rfl⟩
  -- the quotient in units of the last digit, cut: a significand of the chosen exponent
  obtain ⟨cut, cut_eq⟩ : ∃ cut, cut = num / (den * 2 ^ exponent) := ⟨_, rfl⟩
  rw [← chosen, Nat.div_div_eq_div_mul, ← cut_eq] at lt normal
  have scale : (0 : ℚ) < den := by exact_mod_cast pos
  have lower : units (exponent * 2 ^ 52 + cut) = cut * 2 ^ exponent :=
    units_of_parts normal lt.le
  have upper : units (exponent * 2 ^ 52 + cut + 1) = (cut + 1) * 2 ^ exponent := by
    rw [Nat.add_assoc, units_of_parts (by omega) lt]
  have atLeast : (units (exponent * 2 ^ 52 + cut) : ℚ) ≤ num / den := by
    rw [lower, le_div_iff₀ scale]
    have := cut_eq ▸ Nat.div_mul_le_self num (den * 2 ^ exponent)
    exact_mod_cast (by linarith : cut * 2 ^ exponent * den ≤ num)
  have lessThan : (num / den : ℚ) < units (exponent * 2 ^ 52 + cut + 1) := by
    rw [upper, div_lt_iff₀ scale]
    have := cut_eq ▸ Nat.lt_mul_div_succ num (Nat.mul_pos pos (Nat.two_pow_pos exponent))
    exact_mod_cast (by linarith : num < (cut + 1) * 2 ^ exponent * den)
  have sum : (units (exponent * 2 ^ 52 + cut) + units (exponent * 2 ^ 52 + cut + 1) : ℚ) =
      ((cut + (cut + 1)) * (den * 2 ^ exponent) : ℕ) / den := by
    rw [lower, upper, eq_div_iff scale.ne']
    push_cast
    ring
  have double : (2 * (num / den) : ℚ) = (2 * num : ℕ) / den := by
    push_cast
    ring
  refine ⟨_, ?_, IsNearest.of_neighbours atLeast lessThan⟩
  simp only [sum, double, div_lt_div_iff_of_pos_right scale, Nat.cast_lt]
  rw [nearestCode, ← chosen, Nat.shiftLeft_eq, Nat.shiftLeft_eq, roundHalfEven_cases, ← cut_eq]
  split
  · rfl
  · split
    · rw [Nat.add_assoc]
    · rw [show (exponent * 2 ^ 52 + cut) % 2 = cut % 2 by omega, Nat.add_assoc]

/-- Rounding finds the nearest code, and takes infinity from its code on. -/
theorem nearestCode_of_isNearest {num den code : Nat} (pos : 0 < den)
    (nearest : IsNearest (num / den) code) : nearestCode num den = min infinityCode code := by
  obtain ⟨found, rounded, isNearest⟩ := nearestCode_isNearest num pos
  rw [rounded, isNearest.unique nearest]

/-- How a quotient is written as a fraction does not matter. -/
theorem nearestCode_congr {num den num' den' : Nat} (pos : 0 < den) (pos' : 0 < den')
    (equal : (num / den : ℚ) = num' / den') : nearestCode num den = nearestCode num' den' := by
  obtain ⟨code, rounded, nearest⟩ := nearestCode_isNearest num' pos'
  rw [rounded]
  exact nearestCode_of_isNearest pos (equal ▸ nearest)

/-- Another magnitude differs by a part of at least `2 ^ -53`. -/
theorem units_le_of_ne {code other : Nat} (different : other ≠ code) :
    (units code : ℚ) ≤ 2 ^ 53 * |(units code : ℚ) - units other| := by
  rcases Nat.lt_or_gt_of_ne different with below | above
  · obtain ⟨last, rfl⟩ := Nat.exists_eq_succ_of_ne_zero (Nat.ne_of_gt (Nat.zero_lt_of_lt below))
    have size : (units (last + 1) : ℚ) ≤ 2 ^ 53 * step last := by
      exact_mod_cast units_succ_le last
    have gap : (units (last + 1) : ℚ) = units last + step last := by
      exact_mod_cast units_succ last
    have order : (units other : ℚ) ≤ units last := by
      exact_mod_cast units_strictMono.monotone (Nat.le_of_lt_succ below)
    have distance := le_abs_self ((units (last + 1) : ℚ) - units other)
    change (units (last + 1) : ℚ) ≤ _ * |(units (last + 1) : ℚ) - _|
    linarith
  · have size : (units (code + 1) : ℚ) ≤ 2 ^ 53 * step code := by
      exact_mod_cast units_succ_le code
    have gap : (units (code + 1) : ℚ) = units code + step code := by
      exact_mod_cast units_succ code
    have order : (units (code + 1) : ℚ) ≤ units other := by
      exact_mod_cast units_strictMono.monotone above
    have distance := neg_le_abs ((units code : ℚ) - units other)
    have positive : (0 : ℚ) ≤ step code := Nat.cast_nonneg _
    linarith

/-- A quotient that differs from a magnitude by a part less than `2 ^ -54` rounds to it. -/
theorem nearestCode_of_close {num den code : Nat} (pos : 0 < den)
    (close : 2 ^ 54 * |(num / den : ℚ) - units code| < units code) :
    nearestCode num den = min infinityCode code := by
  refine nearestCode_of_isNearest pos (IsNearest.of_closer fun other different => ?_)
  have gap := units_le_of_ne different
  have triangle := abs_sub_le (units code : ℚ) (num / den) (units other)
  rw [abs_sub_comm (units code : ℚ) (num / den)] at triangle
  linarith

end Binary64

end ColdBuild
