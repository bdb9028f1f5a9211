import ColdBuild.Proofs.Binary64.Accuracy

/-!
# Rounding keeps the order

Numbers are ordered by what they stand for; a NaN is not comparable and the two zeros are equal. A
greater quotient is not rounded to a smaller code (`nearestCode_mono`). Magnitudes, infinity among
them, are therefore added (`add_mono`) and divided by a count (`div_ofNat_mono`) without a change of
order, however the single results are rounded.
-/
namespace ColdBuild.Binary64

/-- The place of a number among all numbers. Codes are ordered as the magnitudes they stand for. -/
def rank (x : Binary64) : Int := if x.negative then -(x.code : Int) else x.code

instance : LE Binary64 := ⟨fun x y => x.isNaN = false ∧ y.isNaN = false ∧ x.rank ≤ y.rank⟩

instance (x y : Binary64) : Decidable (x ≤ y) :=
  inferInstanceAs (Decidable (x.isNaN = false ∧ y.isNaN = false ∧ x.rank ≤ y.rank))

theorem eq_of_code {x y : Binary64} (sign : x.negative = y.negative) (same : x.code = y.code) :
    x = y := by
  cases x
  cases y
  congr

theorem le_def {x y : Binary64} :
    x ≤ y ↔ x.isNaN = false ∧ y.isNaN = false ∧ x.rank ≤ y.rank := Iff.rfl

/-- Zero, positive or infinite. A negative zero is zero. -/
structure IsNonneg (x : Binary64) : Prop where
  number : x.code ≤ infinityCode
  sign : x.negative = false ∨ x.code = 0

section

variable {x y x' y' : Binary64} {q q' : ℚ} {code code' : Nat}

theorem units_eq_zero_iff : units code = 0 ↔ code = 0 :=
  ⟨fun zero => units_strictMono.injective (zero.trans units_zero.symm),
    fun zero => zero ▸ units_zero⟩

theorem toRat_eq_zero_iff (positive : x.negative = false) : x.toRat = 0 ↔ x.code = 0 := by
  have scale : (one : ℚ) ≠ 0 := by exact_mod_cast one_pos.ne'
  rw [toRat_of_nonneg positive, div_eq_zero_iff, or_iff_left scale, Nat.cast_eq_zero]
  exact units_eq_zero_iff

theorem isNaN_eq_false_iff : x.isNaN = false ↔ x.code ≤ infinityCode := by
  rw [isNaN, decide_eq_false_iff_not, Nat.not_lt]

theorem IsNonneg.rank_eq (nonneg : x.IsNonneg) : x.rank = x.code := by
  unfold rank
  rcases nonneg.sign with positive | zero
  · simp [positive]
  · simp [zero]

theorem IsNonneg.signedUnits_eq (nonneg : x.IsNonneg) : x.signedUnits = units x.code := by
  unfold signedUnits
  rcases nonneg.sign with positive | zero
  · simp [positive]
  · simp [zero, units_zero]

theorem IsNonneg.of_negative_eq_false (number : x.code ≤ infinityCode)
    (positive : x.negative = false) : x.IsNonneg := ⟨number, .inl positive⟩

theorem isNonneg_iff : x.IsNonneg ↔ zero ≤ x := by
  constructor
  · intro nonneg
    refine le_def.mpr ⟨rfl, isNaN_eq_false_iff.mpr nonneg.number, ?_⟩
    rw [nonneg.rank_eq]
    exact Int.natCast_nonneg x.code
  · intro le
    obtain ⟨-, number, order⟩ := le_def.mp le
    have atLeast : 0 ≤ x.rank := order
    refine ⟨isNaN_eq_false_iff.mp number, ?_⟩
    unfold rank at atLeast
    split at atLeast
    · right
      omega
    · next positive => exact .inl (by simpa using positive)

theorem IsNonneg.le_iff (hx : x.IsNonneg) (hy : y.IsNonneg) : x ≤ y ↔ x.code ≤ y.code := by
  rw [le_def, hx.rank_eq, hy.rank_eq, isNaN_eq_false_iff, isNaN_eq_false_iff]
  have first := hx.number
  have second := hy.number
  omega

/-- The order is that of the exact values. -/
theorem le_iff_toRat_le (finite : x.isFinite) (finite' : y.isFinite) :
    x ≤ y ↔ x.toRat ≤ y.toRat := by
  have scale : (0 : ℚ) < one := by exact_mod_cast one_pos
  have codes : (x.code : Int) ≤ y.code ↔ (units x.code : Int) ≤ units y.code := by
    exact_mod_cast units_strictMono.le_iff_le.symm
  have codes' : (y.code : Int) ≤ x.code ↔ (units y.code : Int) ≤ units x.code := by
    exact_mod_cast units_strictMono.le_iff_le.symm
  have zeros : units x.code = 0 ↔ x.code = 0 := units_eq_zero_iff
  have zeros' : units y.code = 0 ↔ y.code = 0 := units_eq_zero_iff
  rw [le_def, not_isNaN (isFinite_iff.mp finite), not_isNaN (isFinite_iff.mp finite'), toRat, toRat,
    div_le_div_iff_of_pos_right scale, Int.cast_le]
  simp only [true_and, rank, signedUnits]
  cases x.negative <;> cases y.negative <;>
    simp only [Bool.false_eq_true, if_true, if_false] <;>
    omega

/-- A greater quotient is not nearest to a smaller magnitude. -/
theorem IsNearest.mono (this : IsNearest q code) (that : IsNearest q' code') (le : q ≤ q') :
    code ≤ code' := by
  by_contra notLe
  have lt : code' < code := Nat.lt_of_not_le notLe
  have order : (units code' : ℚ) < units code := by exact_mod_cast units_strictMono lt
  -- each quotient is on its own side of the middle between the two magnitudes
  have above : (units code' + units code : ℚ) ≤ 2 * q := by
    have near := sq_le_sq.mpr (this.nearest code')
    nlinarith
  have below : 2 * q' ≤ (units code' + units code : ℚ) := by
    have near := sq_le_sq.mpr (that.nearest code)
    nlinarith
  obtain rfl : q = q' := by linarith
  exact lt.ne' (this.unique that)

end

theorem nearestCode_mono {num den num' den' : Nat} (pos : 0 < den) (pos' : 0 < den')
    (le : (num / den : ℚ) ≤ num' / den') : nearestCode num den ≤ nearestCode num' den' := by
  obtain ⟨code, rounded, nearest⟩ := nearestCode_isNearest num pos
  obtain ⟨code', rounded', nearest'⟩ := nearestCode_isNearest num' pos'
  have order := nearest.mono nearest' le
  omega

theorem nearestCode_mono_left {num num' den : Nat} (pos : 0 < den) (le : num ≤ num') :
    nearestCode num den ≤ nearestCode num' den :=
  nearestCode_mono pos pos
    (div_le_div_of_nonneg_right (by exact_mod_cast le) (Nat.cast_nonneg den))

theorem nearestCode_le (num den : Nat) : nearestCode num den ≤ infinityCode := Nat.min_le_left _ _

theorem code_nearest (negative : Bool) (num den : Nat) :
    (nearest negative num den).code = nearestCode num den := rfl

theorem negative_nearest (negative : Bool) (num den : Nat) :
    (nearest negative num den).negative = negative := rfl

theorem isNonneg_nearest {negative : Bool} {num : Nat} (den : Nat)
    (sign : negative = false ∨ num = 0) : (nearest negative num den).IsNonneg where
  number := nearestCode_le num den
  sign := sign.imp id fun zero => by
    rw [zero, code_nearest]
    simp [nearestCode, roundHalfEven]

/-- A magnitude is rounded to itself, and so is infinity. -/
theorem nearestCode_units {code : Nat} (number : code ≤ infinityCode) :
    nearestCode (units code) 1 = code := by
  have exactly : nearestCode (units code) 1 = min infinityCode code :=
    nearestCode_of_isNearest Nat.one_pos (by simpa using IsNearest.refl code)
  omega

/-- What is less than half a step above a magnitude is rounded to it. -/
theorem nearestCode_add_small {code rest : Nat} (number : code ≤ infinityCode)
    (small : 2 * rest < step code) : nearestCode (units code + rest) 1 = code := by
  have lower : (units code : ℚ) ≤ (units code + rest : ℕ) := by exact_mod_cast Nat.le_add_right _ _
  have upper : ((units code + rest : ℕ) : ℚ) < units (code + 1) := by
    rw [units_succ]
    exact_mod_cast (by omega : units code + rest < units code + step code)
  have half : 2 * ((units code + rest : ℕ) : ℚ) < units code + units (code + 1) := by
    rw [units_succ]
    exact_mod_cast (by omega :
      2 * (units code + rest) < units code + (units code + step code))
  have nearest := IsNearest.of_neighbours lower upper
  rw [if_pos half] at nearest
  have exactly : nearestCode (units code + rest) 1 = min infinityCode code :=
    nearestCode_of_isNearest Nat.one_pos (by simpa using nearest)
  omega

theorem ofNat_mono {n n' : Nat} (le : n ≤ n') : (ofNat n).code ≤ (ofNat n').code :=
  nearestCode_mono_left Nat.one_pos (Nat.mul_le_mul_right one le)

theorem isNonneg_ofNat (n : Nat) : (ofNat n).IsNonneg :=
  .of_negative_eq_false (nearestCode_le _ _) rfl

section

variable {x y x' y' : Binary64}

/-- Magnitudes are added in units and rounded once. An infinite sum is no exception, for from the
code of infinity on there is nothing else to round to. -/
theorem IsNonneg.add_eq (hx : x.IsNonneg) (hy : y.IsNonneg) :
    x + y = nearest (x.negative && y.negative) (units x.code + units y.code) 1 := by
  have infinite {a : Nat} (b : Nat) (is : a = infinityCode) :
      nearestCode (units a + b) 1 = infinityCode := by
    have least := nearestCode_mono_left Nat.one_pos (Nat.le_add_right (units a) b)
    rw [nearestCode_units is.le] at least
    have most := nearestCode_le (units a + b) 1
    omega
  have positive {z : Binary64} (hz : z.IsNonneg) (nonzero : z.code ≠ 0) : z.negative = false :=
    hz.sign.resolve_right nonzero
  have top : infinityCode ≠ 0 := by decide
  change add x y = _
  simp only [add, isNaN_eq_false_iff.mpr hx.number, isNaN_eq_false_iff.mpr hy.number, Bool.or_self,
    Bool.false_eq_true, if_false]
  by_cases infiniteX : x.code = infinityCode
  · have positiveX := positive hx (infiniteX ▸ top)
    have same : (y.isInfinite && x.negative != y.negative) = false := by
      by_cases infiniteY : y.code = infinityCode
      · rw [positiveX, positive hy (infiniteY ▸ top)]
        exact Bool.and_false _
      · simp [isInfinite, infiniteY]
    rw [if_pos (by simpa [isInfinite] using infiniteX), same, if_neg Bool.false_ne_true]
    exact eq_of_code (by rw [positiveX]; rfl) (infiniteX.trans (infinite _ infiniteX).symm)
  rw [if_neg (by simpa [isInfinite] using infiniteX)]
  by_cases infiniteY : y.code = infinityCode
  · rw [if_pos (by simpa [isInfinite] using infiniteY), Nat.add_comm]
    refine eq_of_code ?_ (infiniteY.trans (infinite _ infiniteY).symm)
    rw [positive hy (infiniteY ▸ top)]
    exact (Bool.and_false _).symm
  · rw [if_neg (by simpa [isInfinite] using infiniteY), hx.signedUnits_eq, hy.signedUnits_eq,
      ← Nat.cast_add, Int.natAbs_natCast]
    split
    · next none =>
      have zero : units x.code + units y.code = 0 := by exact_mod_cast none
      have rounded : nearestCode 0 1 = 0 := by decide
      rw [zero]
      exact eq_of_code rfl rounded.symm
    · next some =>
      have nonzero : x.code ≠ 0 ∨ y.code ≠ 0 := by
        by_contra none
        obtain ⟨zeroX, zeroY⟩ := not_or.mp none
        rw [not_not.mp zeroX, not_not.mp zeroY, units_zero] at some
        exact some rfl
      have sign : (x.negative && y.negative) = false := by
        rcases nonzero with nonzeroX | nonzeroY
        · rw [positive hx nonzeroX, Bool.false_and]
        · rw [positive hy nonzeroY, Bool.and_false]
      rw [sign, decide_eq_false (by omega)]

theorem IsNonneg.add (hx : x.IsNonneg) (hy : y.IsNonneg) : (x + y).IsNonneg := by
  rw [hx.add_eq hy]
  refine isNonneg_nearest 1 ?_
  rcases hx.sign with positive | zeroX
  · exact .inl (by rw [positive, Bool.false_and])
  · rcases hy.sign with positive | zeroY
    · exact .inl (by rw [positive, Bool.and_false])
    · exact .inr (by rw [zeroX, zeroY, units_zero])

theorem add_mono (hx : x.IsNonneg) (hy : y.IsNonneg) (hx' : x'.IsNonneg) (hy' : y'.IsNonneg)
    (le : x ≤ x') (le' : y ≤ y') : x + y ≤ x' + y' := by
  rw [hx.le_iff hx'] at le
  rw [hy.le_iff hy'] at le'
  rw [(hx.add hy).le_iff (hx'.add hy'), hx.add_eq hy, hx'.add_eq hy']
  exact nearestCode_mono_left Nat.one_pos
    (Nat.add_le_add (units_strictMono.monotone le) (units_strictMono.monotone le'))

theorem IsNonneg.code_le_add_right (hx : x.IsNonneg) (hy : y.IsNonneg) :
    x.code ≤ (x + y).code := by
  rw [hx.add_eq hy, code_nearest]
  calc x.code = nearestCode (units x.code) 1 := (nearestCode_units hx.number).symm
    _ ≤ nearestCode (units x.code + units y.code) 1 :=
      nearestCode_mono_left Nat.one_pos (Nat.le_add_right _ _)

theorem IsNonneg.code_le_add_left (hx : x.IsNonneg) (hy : y.IsNonneg) :
    y.code ≤ (x + y).code := by
  rw [hx.add_eq hy, code_nearest]
  calc y.code = nearestCode (units y.code) 1 := (nearestCode_units hy.number).symm
    _ ≤ nearestCode (units x.code + units y.code) 1 :=
      nearestCode_mono_left Nat.one_pos (Nat.le_add_left _ _)

/-- A sum of magnitudes is zero only if both are. -/
theorem IsNonneg.add_code_eq_zero_iff (hx : x.IsNonneg) (hy : y.IsNonneg) :
    (x + y).code = 0 ↔ x.code = 0 ∧ y.code = 0 := by
  constructor
  · intro zero
    have left := hx.code_le_add_right hy
    have right := hx.code_le_add_left hy
    omega
  · rintro ⟨zeroX, zeroY⟩
    have sum : units x.code + units y.code = units 0 := by
      rw [zeroX, zeroY, units_zero]
    rw [hx.add_eq hy, code_nearest, sum, nearestCode_units (Nat.zero_le _)]

/-- A sum does not pass a magnitude to which adding the term would change nothing. -/
theorem IsNonneg.code_add_le (hx : x.IsNonneg) (hy : y.IsNonneg) {limit : Nat}
    (number : limit ≤ infinityCode) (within : x.code ≤ limit)
    (small : 2 * units y.code < step limit) : (x + y).code ≤ limit := by
  rw [hx.add_eq hy, code_nearest]
  calc nearestCode (units x.code + units y.code) 1
      ≤ nearestCode (units limit + units y.code) 1 :=
        nearestCode_mono_left Nat.one_pos
          (Nat.add_le_add_right (units_strictMono.monotone within) _)
    _ = limit := nearestCode_add_small number small

/-- A magnitude is divided in units and rounded once. -/
theorem div_eq_nearest (finite : x.code < infinityCode)
    (positive : y.negative = false) (finite' : y.code < infinityCode) (nonzero : y.code ≠ 0) :
    x / y = nearest x.negative (units x.code * one) (units y.code) := by
  change div x y = _
  simp only [div, not_isNaN finite, not_isNaN finite', not_isInfinite finite,
    not_isInfinite finite', Bool.or_self, Bool.false_eq_true, if_false, nonzero, positive,
    Bool.bne_false]

/-- An infinite magnitude stays infinite. -/
theorem infinite_div (infinite : x.code = infinityCode) (positive : y.negative = false)
    (finite : y.code < infinityCode) : x / y = infinity x.negative := by
  have number : x.isNaN = false := isNaN_eq_false_iff.mpr infinite.le
  have isInfinite : x.isInfinite = true := decide_eq_true infinite
  change div x y = _
  simp only [div, number, not_isNaN finite, isInfinite, not_isInfinite finite, Bool.or_self,
    Bool.false_eq_true, if_false, if_true, positive, Bool.bne_false]

/-- A power of two is converted exactly. -/
theorem units_ofNat_two_pow {k : Nat} (le : k ≤ 199) :
    units (ofNat (2 ^ k)).code = 2 ^ k * one := by
  obtain ⟨exponent, h⟩ : ∃ exponent, exponent = 1074 := ⟨_, rfl⟩
  obtain ⟨code, exactly⟩ := exists_units_eq (k + exponent) (show 1 ≤ 2 ^ 53 by decide)
  rw [Nat.one_mul, Nat.pow_add, ← one_eq h] at exactly
  have below : code < infinityCode := by
    rw [← units_strictMono.lt_iff_lt, exactly, Nat.mul_comm]
    refine lt_of_le_of_lt (Nat.mul_le_mul_left one ?_) lt_units_infinityCode
    exact Nat.pow_le_pow_right (by decide) (by omega)
  have rounded : (ofNat (2 ^ k)).code = code := by
    change nearestCode (2 ^ k * one) 1 = code
    rw [← exactly, nearestCode_units below.le]
  rw [rounded, exactly]

/-- Positive numbers up to `2 ^ 199` are converted to finite numbers not below one. -/
theorem ofNat_bounds {n : Nat} (pos : 0 < n) (le : n ≤ 2 ^ 199) :
    (ofNat n).code < infinityCode ∧ one ≤ units (ofNat n).code := by
  refine ⟨(Within.ofNat le).finite, ?_⟩
  calc one = units (ofNat (2 ^ 0)).code := by
        rw [units_ofNat_two_pow (by decide), pow_zero, one_mul]
    _ ≤ units (ofNat n).code := units_strictMono.monotone (ofNat_mono pos)

theorem ofNat_ne_zero {n : Nat} (pos : 0 < n) (le : n ≤ 2 ^ 199) : (ofNat n).code ≠ 0 := by
  intro zero
  have least := (ofNat_bounds pos le).2
  rw [zero, units_zero] at least
  exact absurd least (Nat.not_le.mpr one_pos)

theorem IsNonneg.div_ofNat {n : Nat} (hx : x.IsNonneg) (pos : 0 < n) (le : n ≤ 2 ^ 199) :
    (x / ofNat n).IsNonneg := by
  have finite := (ofNat_bounds pos le).1
  rcases Nat.lt_or_eq_of_le hx.number with finiteX | infinite
  · rw [div_eq_nearest finiteX rfl finite (ofNat_ne_zero pos le)]
    refine isNonneg_nearest _ (hx.sign.imp id fun zero => ?_)
    rw [zero, units_zero, zero_mul]
  · rw [infinite_div infinite rfl finite]
    exact ⟨le_rfl, .inl (hx.sign.resolve_right (by rw [infinite]; decide))⟩

theorem IsNonneg.code_div_ofNat_le {n : Nat} (hx : x.IsNonneg) (pos : 0 < n)
    (le : n ≤ 2 ^ 199) : (x / ofNat n).code ≤ x.code := by
  obtain ⟨finite, least⟩ := ofNat_bounds pos le
  rcases Nat.lt_or_eq_of_le hx.number with finiteX | infinite
  · have count : 0 < units (ofNat n).code := one_pos.trans_le least
    rw [div_eq_nearest finiteX rfl finite (ofNat_ne_zero pos le), code_nearest]
    calc nearestCode (units x.code * one) (units (ofNat n).code)
        ≤ nearestCode (units x.code * units (ofNat n).code) (units (ofNat n).code) :=
          nearestCode_mono_left count (Nat.mul_le_mul_left _ least)
      _ = nearestCode (units x.code) 1 :=
          nearestCode_congr count Nat.one_pos (by push_cast; field_simp)
      _ = x.code := nearestCode_units hx.number
  · rw [infinite_div infinite rfl finite]
    exact infinite.ge

theorem div_ofNat_mono {n : Nat} (hx : x.IsNonneg) (hx' : x'.IsNonneg) (order : x ≤ x')
    (pos : 0 < n) (le : n ≤ 2 ^ 199) : x / ofNat n ≤ x' / ofNat n := by
  have finite := (ofNat_bounds pos le).1
  have nonzero := ofNat_ne_zero pos le
  rw [(hx.div_ofNat pos le).le_iff (hx'.div_ofNat pos le)]
  rw [hx.le_iff hx'] at order
  rcases Nat.lt_or_eq_of_le hx'.number with finiteX | infinite
  · rw [div_eq_nearest (order.trans_lt finiteX) rfl finite nonzero,
      div_eq_nearest finiteX rfl finite nonzero, code_nearest, code_nearest]
    have count : 0 < units (ofNat n).code := Nat.pos_of_ne_zero (units_eq_zero_iff.not.mpr nonzero)
    exact nearestCode_mono_left count
      (Nat.mul_le_mul_right one (units_strictMono.monotone order))
  · rw [infinite_div infinite rfl finite]
    exact (hx.div_ofNat pos le).number

end

end ColdBuild.Binary64
