import ColdBuild.Proofs.Binary64.Order
import ColdBuild.Proofs.Duration.Accuracy

/-!
# Seconds keep the order of durations

Whole seconds and the fraction are converted each on its own, so a longer duration may have the
smaller fraction. It still has no fewer seconds (`seconds_mono`): below `2 ^ 53` the whole seconds
are exact and the fraction is less than one of them, and from there on a fraction is lost in
rounding.
-/
namespace ColdBuild

namespace Binary64

/-- From `2 ^ 53` on neighbouring numbers are two apart at least, and so on for other powers. -/
theorem mul_lt_step {code n : Nat} (large : n * 2 ^ 53 * one ≤ units code) :
    n * one < step code := by
  have size := units_succ_le code
  have next := units_strictMono (Nat.lt_succ_self code)
  have strict : 2 ^ 53 * (n * one) < 2 ^ 53 * step code := by
    calc 2 ^ 53 * (n * one) = n * 2 ^ 53 * one := by ring
      _ ≤ units code := large
      _ < units (code + 1) := next
      _ ≤ 2 ^ 53 * step code := size
  exact Nat.lt_of_mul_lt_mul_left strict

/-- A step longer than one is two at least, since both are powers of two. -/
theorem two_mul_one_le_step {code : Nat} (large : 2 ^ 53 * one ≤ units code) :
    2 * one ≤ step code := by
  obtain ⟨exponent, h⟩ : ∃ exponent, exponent = 1074 := ⟨_, rfl⟩
  have longer : one < step code := by
    simpa using mul_lt_step (n := 1) (by simpa using large)
  rw [one_eq h, step] at longer ⊢
  have power := (Nat.pow_lt_pow_iff_right (by decide)).mp longer
  rw [← Nat.pow_succ']
  exact Nat.pow_le_pow_right (by decide) power

end Binary64

namespace Duration

open Binary64 (units one IsNonneg)

theorem isNonneg_seconds (d : Duration) : d.seconds.IsNonneg :=
  .of_negative_eq_false d.seconds_within.finite.le d.seconds_within.nonneg

def fraction (rest : Nat) : Binary64 := .ofNat rest / .ofNat second

theorem second_bounds : 0 < second ∧ second ≤ 2 ^ 199 := by decide

theorem isNonneg_fraction (rest : Nat) : (fraction rest).IsNonneg :=
  (Binary64.isNonneg_ofNat rest).div_ofNat second_bounds.1 second_bounds.2

theorem fraction_mono {rest rest' : Nat} (le : rest ≤ rest') : fraction rest ≤ fraction rest' := by
  have whole : Binary64.ofNat rest ≤ Binary64.ofNat rest' :=
    ((Binary64.isNonneg_ofNat rest).le_iff (Binary64.isNonneg_ofNat rest')).mpr
      (Binary64.ofNat_mono le)
  exact Binary64.div_ofNat_mono (Binary64.isNonneg_ofNat rest) (Binary64.isNonneg_ofNat rest') whole
    second_bounds.1 second_bounds.2

theorem units_fraction_lt {rest : Nat} (lt : rest < 1000000000) :
    units (fraction rest).code < one := by
  have within := fraction_within lt
  have scale : (0 : ℚ) < one := by exact_mod_cast Binary64.one_pos
  have largest : (rest : ℚ) ≤ 999999999 := by exact_mod_cast Nat.le_of_lt_succ lt
  have value := within.upper
  rw [Binary64.toRat_of_nonneg within.nonneg, div_le_iff₀ scale] at value
  have below : (rest / (second : ℕ) * (1 + Binary64.roundoff) ^ 1 : ℚ) < 1 := by
    rw [second, Binary64.roundoff]
    norm_num
    linarith
  have scaled := mul_lt_mul_of_pos_right below scale
  have lt : (units (fraction rest).code : ℚ) < one := by
    unfold fraction
    linarith
  exact_mod_cast lt

/-- A fraction does not reach the next whole second. -/
theorem whole_add_fraction_le {whole whole' rest : Nat} (lt : whole < whole')
    (restLt : rest < 1000000000) :
    Binary64.ofNat whole + fraction rest ≤ Binary64.ofNat whole' := by
  have nonneg := Binary64.isNonneg_ofNat whole
  have sum := nonneg.add (isNonneg_fraction rest)
  have small := units_fraction_lt restLt
  rw [sum.le_iff (Binary64.isNonneg_ofNat whole'), nonneg.add_eq (isNonneg_fraction rest),
    Binary64.code_nearest]
  rcases Nat.lt_or_ge whole (2 ^ 53) with exact | large
  · rw [(Binary64.units_ofNat exact.le).2]
    refine Binary64.nearestCode_mono_left Nat.one_pos ?_
    calc whole * one + units (fraction rest).code ≤ whole * one + one :=
          Nat.add_le_add_left small.le _
      _ = (whole + 1) * one := (Nat.succ_mul whole one).symm
      _ ≤ whole' * one := Nat.mul_le_mul_right one lt
  · have least : 2 ^ 53 * one ≤ units (Binary64.ofNat whole).code := by
      rw [← Binary64.units_ofNat_two_pow (by decide)]
      exact Binary64.units_strictMono.monotone (Binary64.ofNat_mono large)
    have step := Binary64.two_mul_one_le_step least
    rw [Binary64.nearestCode_add_small nonneg.number (by omega)]
    exact Binary64.ofNat_mono lt.le

/-- A longer duration has no fewer seconds. -/
theorem seconds_mono {d d' : Duration} (le : d.nanoseconds ≤ d'.nanoseconds) :
    d.seconds ≤ d'.seconds := by
  have nonneg (n : Nat) := Binary64.isNonneg_ofNat n
  have parts (d : Duration) :
      d.seconds = .ofNat (d.nanoseconds / second) + fraction (d.nanoseconds % second) := rfl
  have restLt (n : Nat) : n % second < 1000000000 := Nat.mod_lt n second_bounds.1
  rcases Nat.lt_or_eq_of_le (Nat.div_le_div_right (c := second) le) with less | same
  · have whole := whole_add_fraction_le less (restLt d.nanoseconds)
    have more := (nonneg (d'.nanoseconds / second)).code_le_add_right
      (isNonneg_fraction (d'.nanoseconds % second))
    rw [d.isNonneg_seconds.le_iff d'.isNonneg_seconds]
    rw [← parts, d.isNonneg_seconds.le_iff (nonneg _)] at whole
    rw [← parts] at more
    exact whole.trans more
  · have rest : d.nanoseconds % second ≤ d'.nanoseconds % second := by
      rw [second] at same ⊢
      omega
    rw [parts, parts, same]
    exact Binary64.add_mono (nonneg _) (isNonneg_fraction _) (nonneg _) (isNonneg_fraction _)
      (((nonneg _).le_iff (nonneg _)).mpr le_rfl) (fraction_mono rest)

end Duration

end ColdBuild
