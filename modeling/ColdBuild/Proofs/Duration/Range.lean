import ColdBuild.Proofs.Duration.Order

/-!
# Totals of durations stay in range

However many durations are added up, the total stays below `2 ^ 120` seconds: from there on a
duration is less than half a step, and adding it changes nothing (`InRange.add`). No sign appears,
and a total is zero only if every duration is (`total_inRange`). A mean of durations is therefore a
finite number without a sign (`InRange.div`), and the division does not round it to zero either
(`InRange.div_code_eq_zero_iff`).
-/
namespace ColdBuild

open Binary64 (units one step infinityCode IsNonneg)

namespace Duration

/-- What no total of durations exceeds, in seconds. -/
def limit : Binary64 := .ofNat (2 ^ 120)

theorem units_limit : units limit.code = 2 ^ 120 * one :=
  Binary64.units_ofNat_two_pow (by decide)

theorem limit_finite : limit.code < infinityCode :=
  (Binary64.ofNat_bounds (by decide) (by decide)).1

/-- The invariant of a total: no sign, a size below which any further duration is lost in rounding,
and a size that is not lost in a division. -/
structure InRange (x : Binary64) : Prop where
  positive : x.negative = false
  bounded : x.code ≤ limit.code
  size : x.code = 0 ∨ 2 ^ 64 ≤ units x.code

theorem InRange.finite {x : Binary64} (inRange : InRange x) : x.code < infinityCode :=
  inRange.bounded.trans_lt limit_finite

theorem InRange.isNonneg {x : Binary64} (inRange : InRange x) : x.IsNonneg :=
  .of_negative_eq_false inRange.finite.le inRange.positive

theorem inRange_zero : InRange .zero where
  positive := rfl
  bounded := Nat.zero_le _
  size := .inl rfl

variable (d : Duration)

/-- Only the empty duration is converted to zero. -/
theorem seconds_code_eq_zero_iff : d.seconds.code = 0 ↔ d.nanoseconds = 0 := by
  have within := d.seconds_within
  rw [← Binary64.toRat_eq_zero_iff within.nonneg]
  constructor
  · intro zero
    have least := within.quarter_le (by decide)
    rcases Nat.eq_zero_or_pos d.nanoseconds with none | some
    · exact none
    · have positive : 0 < d.exactSeconds := div_pos (by exact_mod_cast some) (by norm_num)
      linarith
  · intro none
    have exactly : d.exactSeconds = 0 := by
      rw [exactSeconds, none, Nat.cast_zero, zero_div]
    have most := within.toRat_le (by norm_num)
    linarith [within.toRat_nonneg]

/-- A duration is less than half a step at the limit. -/
theorem seconds_small : 2 * units d.seconds.code < step limit.code := by
  have within := d.seconds_within
  have scale : (0 : ℚ) < one := by exact_mod_cast Binary64.one_pos
  have most : (units d.seconds.code : ℚ) ≤ 3 * 2 ^ 64 * one := by
    have bound := within.toRat_le (by norm_num)
    rw [Binary64.toRat_of_nonneg within.nonneg, div_le_iff₀ scale] at bound
    exact bound.trans (mul_le_mul_of_nonneg_right (by linarith [d.exactSeconds_le]) scale.le)
  have large : 2 ^ 67 * one < step limit.code := by
    refine Binary64.mul_lt_step ?_
    rw [units_limit, ← Nat.pow_add]
  have cast : units d.seconds.code ≤ 3 * 2 ^ 64 * one := by exact_mod_cast most
  omega

/-- A duration that is not empty has a size far from the smallest ones. -/
theorem seconds_size : d.seconds.code = 0 ∨ 2 ^ 64 ≤ units d.seconds.code := by
  have within := d.seconds_within
  have scale : (0 : ℚ) < one := by exact_mod_cast Binary64.one_pos
  rcases d.exactSeconds_eq_zero_or_ge with zero | large
  · left
    have most := within.toRat_le (by norm_num)
    rw [← Binary64.toRat_eq_zero_iff within.nonneg]
    linarith [within.toRat_nonneg]
  · right
    have least := within.quarter_le (by decide)
    rw [Binary64.toRat_of_nonneg within.nonneg, le_div_iff₀ scale] at least
    have room : (2 ^ 252 : ℚ) ≤ one := by exact_mod_cast Binary64.le_one
    have size : (2 ^ 64 : ℚ) ≤ units d.seconds.code := by
      calc (2 ^ 64 : ℚ) ≤ 1 / 4000000000 * 2 ^ 252 := by norm_num
        _ ≤ d.exactSeconds / 4 * one :=
          mul_le_mul (by linarith) room (by norm_num) (by linarith)
        _ ≤ units d.seconds.code := least
    exact_mod_cast size

/-- One more duration does not lead out of the range. -/
theorem InRange.add {sum : Binary64} (inRange : InRange sum) : InRange (sum + d.seconds) where
  positive := by
    rw [inRange.isNonneg.add_eq d.isNonneg_seconds, Binary64.negative_nearest, inRange.positive,
      Bool.false_and]
  bounded := inRange.isNonneg.code_add_le d.isNonneg_seconds limit_finite.le inRange.bounded
    d.seconds_small
  size := by
    have left := inRange.isNonneg.code_le_add_right d.isNonneg_seconds
    have right := inRange.isNonneg.code_le_add_left d.isNonneg_seconds
    rcases inRange.size with zero | large
    · rcases d.seconds_size with none | some
      · exact .inl ((inRange.isNonneg.add_code_eq_zero_iff d.isNonneg_seconds).mpr ⟨zero, none⟩)
      · exact .inr (some.trans (Binary64.units_strictMono.monotone right))
    · exact .inr (large.trans (Binary64.units_strictMono.monotone left))

/-- Nor does any number of them, and only empty ones leave a total of zero as it is. -/
theorem total_inRange (times : List Duration) {sum : Binary64} (inRange : InRange sum) :
    InRange (total times sum) ∧
      ((total times sum).code = 0 ↔ sum.code = 0 ∧ ∀ time ∈ times, time.nanoseconds = 0) := by
  induction times generalizing sum with
  | nil => exact ⟨inRange, by simp [total]⟩
  | cons time rest ih =>
    obtain ⟨stays, zero⟩ := ih (inRange.add time)
    refine ⟨stays, zero.trans ?_⟩
    rw [inRange.isNonneg.add_code_eq_zero_iff time.isNonneg_seconds, seconds_code_eq_zero_iff,
      and_assoc, List.forall_mem_cons]

/-- Dividing by a count does not make a total zero. -/
theorem InRange.div_code_eq_zero_iff {sum : Binary64} (inRange : InRange sum) {n : Nat}
    (pos : 0 < n) (few : n ≤ 2 ^ 64) : (sum / .ofNat n).code = 0 ↔ sum.code = 0 := by
  have le : n ≤ 2 ^ 199 := few.trans (Nat.pow_le_pow_right (by decide) (by decide))
  obtain ⟨finite, atLeast⟩ := Binary64.ofNat_bounds pos le
  constructor
  · intro zero
    refine inRange.size.resolve_right fun large => ?_
    have count : 0 < units (Binary64.ofNat n).code := Binary64.one_pos.trans_le atLeast
    have most : units (Binary64.ofNat n).code ≤ units sum.code * one := by
      calc units (Binary64.ofNat n).code ≤ units (Binary64.ofNat (2 ^ 64)).code :=
            Binary64.units_strictMono.monotone (Binary64.ofNat_mono few)
        _ = 2 ^ 64 * one := Binary64.units_ofNat_two_pow (by decide)
        _ ≤ units sum.code * one := Nat.mul_le_mul_right one large
    -- the quotient is not less than the smallest magnitude
    have least : Binary64.nearestCode (units 1) 1 ≤
        Binary64.nearestCode (units sum.code * one) (units (Binary64.ofNat n).code) := by
      refine Binary64.nearestCode_mono Nat.one_pos count ?_
      have size : (0 : ℚ) < units (Binary64.ofNat n).code := by exact_mod_cast count
      have smallest : units 1 = 1 := by decide
      rw [smallest, Nat.cast_one, div_one, one_le_div size]
      exact_mod_cast most
    rw [Binary64.nearestCode_units (by decide)] at least
    rw [Binary64.div_eq_nearest inRange.finite rfl finite (Binary64.ofNat_ne_zero pos le),
      Binary64.code_nearest] at zero
    rw [zero] at least
    exact absurd least (by decide)
  · intro zero
    have smaller := inRange.isNonneg.code_div_ofNat_le pos le
    omega

/-- A mean of a total in range is finite and has no sign. -/
theorem InRange.div {sum : Binary64} (inRange : InRange sum) {n : Nat} (pos : 0 < n)
    (few : n ≤ 2 ^ 64) : (sum / .ofNat n).isFinite ∧ (sum / .ofNat n).negative = false := by
  have le : n ≤ 2 ^ 199 := few.trans (Nat.pow_le_pow_right (by decide) (by decide))
  have smaller := inRange.isNonneg.code_div_ofNat_le pos le
  refine ⟨Binary64.isFinite_iff.mpr (smaller.trans_lt inRange.finite), ?_⟩
  rw [Binary64.div_eq_nearest inRange.finite rfl (Binary64.ofNat_bounds pos le).1
    (Binary64.ofNat_ne_zero pos le), Binary64.negative_nearest]
  exact inRange.positive

end Duration

end ColdBuild
