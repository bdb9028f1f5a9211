import ColdBuild.Proofs.Binary64.Order

/-!
# Sums that are not rounded

Multiples of `2 ^ -k` are the points of a grid. Up to `2 ^ 53` steps every point of it is a number
(`exists_code_eq`), also where the steps are as small as the smallest magnitude, and so a sum that
is not beyond that is not rounded (`OnGrid.add`). The division by a count rounds once
(`isNearest_div_ofNat`).
-/
namespace ColdBuild.Binary64

/-- The number is a multiple of `2 ^ -k` and has no sign. -/
structure OnGrid (x : Binary64) (k : Nat) : Prop where
  finite : x.isFinite = true
  positive : x.negative = false
  multiple : ∃ count : ℕ, x.toRat = count / 2 ^ k

section

variable {x y : Binary64} {k e count : Nat}

/-- The exact values tell numbers without a sign apart. -/
theorem eq_of_toRat_eq (hx : x.negative = false) (hy : y.negative = false)
    (same : x.toRat = y.toRat) : x = y := by
  have scale : (one : ℚ) ≠ 0 := by exact_mod_cast one_pos.ne'
  rw [toRat_of_nonneg hx, toRat_of_nonneg hy, div_left_inj' scale, Nat.cast_inj] at same
  exact eq_of_code (hx.trans hy.symm) (units_strictMono.injective same)

/-- A step of `2 ^ -k` is `2 ^ e` units. -/
theorem toRat_eq_div_iff (positive : x.negative = false) (h : k + e = 1074) :
    x.toRat = count / 2 ^ k ↔ units x.code = count * 2 ^ e := by
  have scale : (one : ℚ) ≠ 0 := by exact_mod_cast one_pos.ne'
  have step : one = 2 ^ e * 2 ^ k := by rw [one_eq h, Nat.add_comm, Nat.pow_add]
  rw [toRat_of_nonneg positive, div_eq_div_iff scale (by positivity), step]
  norm_cast
  rw [← Nat.mul_assoc, Nat.mul_left_inj (Nat.two_pow_pos k).ne']

/-- The first `2 ^ 53` points of a grid are numbers. -/
theorem exists_code_eq (h : k + e = 1074) (le : count ≤ 2 ^ 53) :
    ∃ code < infinityCode, units code = count * 2 ^ e := by
  obtain ⟨code, exactly⟩ := exists_units_eq e le
  refine ⟨code, ?_, exactly⟩
  rw [← units_strictMono.lt_iff_lt, exactly]
  calc count * 2 ^ e ≤ 2 ^ 53 * 2 ^ (k + e) :=
        Nat.mul_le_mul le (Nat.pow_le_pow_right (by decide) (Nat.le_add_left e k))
    _ ≤ one * 2 ^ 200 := by
        rw [one_eq h, Nat.mul_comm]
        exact Nat.mul_le_mul_left _ (Nat.pow_le_pow_right (by decide) (by decide))
    _ < units infinityCode := lt_units_infinityCode

theorem div_le_bound_iff : (count / 2 ^ k : ℚ) ≤ 2 ^ (53 - k : ℤ) ↔ count ≤ 2 ^ 53 := by
  have bound : (2 ^ (53 - k : ℤ) : ℚ) = 2 ^ 53 / 2 ^ k := by
    rw [zpow_sub₀ two_ne_zero, zpow_natCast]
    rfl
  rw [bound, div_le_div_iff_of_pos_right (by positivity)]
  exact_mod_cast Iff.rfl

namespace OnGrid

theorem zero (k : Nat) : Binary64.zero.OnGrid k := by
  refine ⟨rfl, rfl, 0, ?_⟩
  rw [(toRat_eq_zero_iff rfl).mpr rfl, Nat.cast_zero, zero_div]

theorem toRat_nonneg (onGrid : x.OnGrid k) : 0 ≤ x.toRat := by
  rw [toRat_of_nonneg onGrid.positive]
  positivity

/-- Every finite number without a sign is on the grid of the smallest steps. -/
theorem of_finite (finite : x.isFinite) (positive : x.negative = false) : x.OnGrid 1074 := by
  refine ⟨finite, positive, units x.code, ?_⟩
  rw [toRat_eq_div_iff positive (Nat.add_zero 1074), pow_zero, mul_one]

/-- A sum of at most `2 ^ 53` steps is not rounded, and it is a point of the grid again. -/
theorem add (hx : x.OnGrid k) (hy : y.OnGrid k) (le : k ≤ 1074)
    (small : x.toRat + y.toRat ≤ 2 ^ (53 - k : ℤ)) :
    (x + y).OnGrid k ∧ (x + y).toRat = x.toRat + y.toRat := by
  obtain ⟨e, h⟩ : ∃ e, k + e = 1074 := ⟨1074 - k, Nat.add_sub_cancel' le⟩
  obtain ⟨a, isA⟩ := hx.multiple
  obtain ⟨b, isB⟩ := hy.multiple
  have sum : x.toRat + y.toRat = ((a + b : ℕ) : ℚ) / 2 ^ k := by
    rw [isA, isB, ← add_div, Nat.cast_add]
  rw [sum, div_le_bound_iff] at small
  rw [toRat_eq_div_iff hx.positive h] at isA
  rw [toRat_eq_div_iff hy.positive h] at isB
  obtain ⟨code, finite, exactly⟩ := exists_code_eq h small
  have rounded : x + y = nearest false (units code) 1 := by
    rw [add_of_nonneg hx.positive hy.positive (isFinite_iff.mp hx.finite)
      (isFinite_iff.mp hy.finite), isA, isB, exactly, Nat.add_mul]
  have positive : (x + y).negative = false := by rw [rounded, negative_nearest]
  have unrounded : (x + y).code = code := by
    rw [rounded, code_nearest, nearestCode_units finite.le]
  have value : (x + y).toRat = ((a + b : ℕ) : ℚ) / 2 ^ k := by
    rw [toRat_eq_div_iff positive h, unrounded, exactly]
  exact ⟨⟨isFinite_iff.mpr (unrounded ▸ finite), positive, _, value⟩, value.trans sum.symm⟩

end OnGrid

/-- What is nearest to the exact value of a number is that number. -/
theorem eq_of_isNearest (hx : x.negative = false) (hy : y.negative = false)
    (nearest : IsNearest (y.toRat * one) x.code) : x = y := by
  have scale : (one : ℚ) ≠ 0 := by exact_mod_cast one_pos.ne'
  rw [toRat_of_nonneg hy, div_mul_cancel₀ _ scale] at nearest
  exact eq_of_code (hx.trans hy.symm) (nearest.unique (.refl y.code))

/-- Dividing by a count that is converted exactly gives the number nearest to the quotient. -/
theorem isNearest_div_ofNat {n : Nat} (finite : x.isFinite) (positive : x.negative = false)
    (pos : 0 < n) (le : n ≤ 2 ^ 53) :
    (x / ofNat n).isFinite ∧ (x / ofNat n).negative = false ∧
      IsNearest (x.toRat / n * one) (x / ofNat n).code := by
  have room : n ≤ 2 ^ 199 := le.trans (Nat.pow_le_pow_right (by decide) (by decide))
  obtain ⟨finite', exactly⟩ := units_ofNat le
  have nonneg : x.IsNonneg := .of_negative_eq_false (isFinite_iff.mp finite).le positive
  have smaller := (nonneg.code_div_ofNat_le pos room).trans_lt (isFinite_iff.mp finite)
  have rounded := div_eq_nearest (isFinite_iff.mp finite) rfl finite' (ofNat_ne_zero pos room)
  refine ⟨isFinite_iff.mpr smaller, by rw [rounded, negative_nearest, positive], ?_⟩
  have value : ((units x.code * one : ℕ) / (n * one : ℕ) : ℚ) = x.toRat / n * one := by
    have scale : (one : ℚ) ≠ 0 := by exact_mod_cast one_pos.ne'
    have count : (n : ℚ) ≠ 0 := by exact_mod_cast pos.ne'
    rw [toRat_of_nonneg positive]
    push_cast
    field_simp
  obtain ⟨code, chosen, nearest⟩ :=
    nearestCode_isNearest (units x.code * one) (Nat.mul_pos pos one_pos)
  rw [rounded, code_nearest, exactly, chosen] at smaller ⊢
  rw [value] at nearest
  rwa [Nat.min_eq_right (by omega)]

end

end ColdBuild.Binary64
