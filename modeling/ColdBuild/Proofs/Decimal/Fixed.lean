import ColdBuild.Proofs.Decimal.Notation

/-!
# A fixed number of places

A number that is written with a fixed number of places is read back as a numeral with exactly that
many digits after its point. No numeral of as many places says anything nearer to the number, and if
another is as near, the one that is written has the even last digit (`read?_fixed`). Rounding to
even integers keeps the order (`NearestEven.mono`), so a smaller number is never written as a
greater one (`toRat_fixedNumeral_mono`).
-/
namespace ColdBuild

open Numeral (IsDigits)

/-- No integer is nearer to `q`, and this one is even if another is as near. -/
structure NearestEven (q : ℚ) (k : ℤ) : Prop where
  half : |q - k| ≤ 1 / 2
  even : |q - k| = 1 / 2 → Even k

namespace NearestEven

variable {q q' : ℚ} {k k' : ℤ}

theorem nearest (near : NearestEven q k) (other : ℤ) : |q - k| ≤ |q - other| := by
  by_cases same : other = k
  · rw [same]
  · have apart : (1 : ℚ) ≤ |(other : ℚ) - k| := by
      exact_mod_cast Int.one_le_abs (sub_ne_zero.mpr same)
    have triangle : |(other : ℚ) - k| ≤ |q - k| + |q - other| := by
      calc |(other : ℚ) - k| = |(q - k) - (q - other)| := by ring_nf
        _ ≤ |q - k| + |q - other| := abs_sub _ _
    linarith [near.half]

/-- Rounding keeps the order: were it turned around, both would be exact halves between two
neighbours, and only one of these is even. -/
theorem mono (near : NearestEven q k) (near' : NearestEven q' k') (le : q ≤ q') : k ≤ k' := by
  by_contra greater
  have next : (k' : ℚ) + 1 ≤ k := by exact_mod_cast not_le.mp greater
  obtain ⟨lower, -⟩ := abs_le.mp near.half
  obtain ⟨-, upper⟩ := abs_le.mp near'.half
  have tie : q - k = -(1 / 2) := by linarith
  have tie' : q' - k' = 1 / 2 := by linarith
  have neighbours : k = k' + 1 := by
    have exactly : (k : ℚ) = k' + 1 := by linarith
    exact_mod_cast exactly
  have even : Even k := near.even (by rw [tie, abs_neg, abs_of_pos (by norm_num)])
  have even' : Even k' := near'.even (by rw [tie', abs_of_pos (by norm_num)])
  rw [neighbours, Int.even_add_one] at even
  exact even even'

theorem neg (near : NearestEven q k) : NearestEven (-q) (-k) := by
  have same : |-q - ((-k : ℤ) : ℚ)| = |q - k| := by
    rw [← abs_neg]
    push_cast
    ring_nf
  exact ⟨same ▸ near.half, fun tie => (near.even (same ▸ tie)).neg⟩

/-- What is left above a whole number decides where it is rounded to. -/
theorem of_part (whole : Nat) {part : ℚ} (nonneg : 0 ≤ part) (less : part < 1) :
    NearestEven (whole + part) (if part < 1 / 2 then whole
      else if 1 / 2 < part then whole + 1 else whole + whole % 2 : Nat) := by
  split
  · next lower =>
    have error : |(whole : ℚ) + part - ((whole : ℕ) : ℤ)| = part := by
      rw [Int.cast_natCast, add_sub_cancel_left, abs_of_nonneg nonneg]
    exact ⟨error.trans_le lower.le, fun tie => absurd (error.symm.trans tie) lower.ne⟩
  · split
    · next upper =>
      have error : |(whole : ℚ) + part - ((whole + 1 : ℕ) : ℤ)| = 1 - part := by
        rw [← abs_neg, abs_of_nonneg (by push_cast; linarith)]
        push_cast
        ring
      exact ⟨by linarith, fun tie => by linarith⟩
    · -- an even number stays, an odd one goes up
      have half : part = 1 / 2 := by linarith
      rcases Nat.mod_two_eq_zero_or_one whole with even | odd
      · have error : |(whole : ℚ) + part - ((whole + whole % 2 : ℕ) : ℤ)| = 1 / 2 := by
          rw [even, half, Nat.add_zero, Int.cast_natCast, add_sub_cancel_left]
          norm_num
        refine ⟨error.le, fun _ => ?_⟩
        rw [even]
        exact_mod_cast Nat.even_iff.mpr even
      · have error : |(whole : ℚ) + part - ((whole + whole % 2 : ℕ) : ℤ)| = 1 / 2 := by
          rw [odd, half, ← abs_neg]
          push_cast
          ring_nf
          norm_num
        refine ⟨error.le, fun _ => ?_⟩
        rw [odd]
        exact_mod_cast (Nat.odd_iff.mpr odd).add_one

/-- This is how quotients are rounded. -/
theorem of_roundHalfEven (num : Nat) {den : Nat} (pos : 0 < den) :
    NearestEven (num / den) (roundHalfEven num den : Nat) := by
  have scale : (0 : ℚ) < den := by exact_mod_cast pos
  have value : (num / den : ℚ) = (num / den : ℕ) + (num % den : ℕ) / den := by
    have division : (num : ℚ) = den * (num / den : ℕ) + (num % den : ℕ) := by
      exact_mod_cast (Nat.div_add_mod num den).symm
    field_simp
    exact division
  have less : ((num % den : ℕ) / den : ℚ) < 1 := by
    rw [div_lt_one scale]
    exact_mod_cast Nat.mod_lt num pos
  have below : 2 * (num % den) < den ↔ ((num % den : ℕ) / den : ℚ) < 1 / 2 := by
    rw [div_lt_div_iff₀ scale two_pos]
    exact_mod_cast (by omega : 2 * (num % den) < den ↔ num % den * 2 < 1 * den)
  have above : den < 2 * (num % den) ↔ (1 / 2 : ℚ) < (num % den : ℕ) / den := by
    rw [div_lt_div_iff₀ two_pos scale]
    exact_mod_cast (by omega : den < 2 * (num % den) ↔ 1 * den < num % den * 2)
  simp only [value, roundHalfEven, below, above]
  exact of_part _ (by positivity) less

end NearestEven

namespace Numeral

variable {n : Numeral} {places : Nat}

/-- Without an exponent and with so many digits after the point. -/
structure HasPlaces (n : Numeral) (places : Nat) : Prop where
  exponent : n.exponent = none
  fraction : (n.fraction.getD []).length = places

def integer (n : Numeral) : ℤ :=
  if n.negative then -(Nat.ofDigitChars 10 n.digits 0 : ℤ) else Nat.ofDigitChars 10 n.digits 0

/-- A numeral with so many places says a multiple of a power of ten. -/
theorem HasPlaces.toRat_eq (hasPlaces : n.HasPlaces places) :
    n.toRat = n.integer / 10 ^ places := by
  have magnitude : n.magnitude.toRat = Nat.ofDigitChars 10 n.digits 0 / 10 ^ places := by
    rw [magnitude, Decimal.toRat, hasPlaces.exponent, hasPlaces.fraction, Option.getD_none,
      zero_sub, zpow_neg, zpow_natCast, div_eq_mul_inv]
  rw [toRat, integer, magnitude]
  cases n.negative with
  | false => rfl
  | true =>
    rw [if_pos rfl, if_pos rfl]
    push_cast
    ring

/-- The last digit decides whether the digits are an even number. -/
theorem exists_getLast?_digits (wellFormed : n.WellFormed) (even : Even n.integer) :
    ∃ c, n.digits.getLast? = some c ∧ Even (c.toNat - '0'.toNat) := by
  have nonempty : n.digits ≠ [] := List.append_ne_nil_of_left_ne_nil wellFormed.whole.nonempty _
  obtain ⟨initial, last, digits⟩ := (List.eq_nil_or_concat' n.digits).resolve_left nonempty
  refine ⟨last, by rw [digits, List.getLast?_concat], ?_⟩
  have natural : Even (Nat.ofDigitChars 10 n.digits 0) := by
    unfold integer at even
    cases sign : n.negative <;> simpa [sign] using even
  rw [digits, Nat.ofDigitChars_append, Nat.ofDigitChars_cons, Nat.ofDigitChars_nil,
    Nat.even_add] at natural
  exact natural.mp (.mul_right (by decide) _)

/-- The numeral has so many places, and no numeral of as many is nearer to `q`. If another is as
near, this one has the even last digit. -/
structure IsRounded (n : Numeral) (places : Nat) (q : ℚ) : Prop extends n.HasPlaces places where
  error : |n.toRat - q| ≤ 1 / (2 * 10 ^ places)
  nearest (other : Numeral) : other.HasPlaces places → |n.toRat - q| ≤ |other.toRat - q|
  even : |n.toRat - q| = 1 / (2 * 10 ^ places) →
    ∃ c, n.digits.getLast? = some c ∧ Even (c.toNat - '0'.toNat)

/-- Places are integers on a finer scale. -/
theorem isRounded_of_nearestEven (wellFormed : n.WellFormed) (hasPlaces : n.HasPlaces places)
    {q : ℚ} (near : NearestEven (q * 10 ^ places) n.integer) : n.IsRounded places q := by
  have scale : (0 : ℚ) < 10 ^ places := by positivity
  have distance (k : ℤ) : |(k : ℚ) / 10 ^ places - q| = |q * 10 ^ places - k| / 10 ^ places := by
    rw [abs_sub_comm, ← abs_of_pos scale, ← abs_div, abs_of_pos scale, sub_div,
      mul_div_cancel_right₀ _ scale.ne']
  have half : (1 : ℚ) / (2 * 10 ^ places) = 1 / 2 / 10 ^ places := by rw [div_div]
  refine ⟨hasPlaces, ?_, fun other otherPlaces => ?_, fun tie => ?_⟩
  · rw [hasPlaces.toRat_eq, distance, half]
    exact div_le_div_of_nonneg_right near.half scale.le
  · rw [hasPlaces.toRat_eq, otherPlaces.toRat_eq, distance, distance]
    exact div_le_div_of_nonneg_right (near.nearest _) scale.le
  · rw [hasPlaces.toRat_eq, distance, half, div_left_inj' scale.ne'] at tie
    exact exists_getLast?_digits wellFormed (near.even tie)

end Numeral

/-- Zeros fill up the digits to the width. -/
theorem length_paddedDigits {width n : Nat} (pos : 0 < width) (lt : n < 10 ^ width) :
    (paddedDigits width n).length = width := by
  have fits : (Nat.toDigits 10 n).length ≤ width :=
    (Nat.length_toDigits_le_iff (by decide) pos).mpr lt
  rw [paddedDigits, List.length_append, List.length_replicate]
  omega

theorem ofDigitChars_paddedDigits (width n : Nat) :
    Nat.ofDigitChars 10 (paddedDigits width n) 0 = n := by
  rw [paddedDigits, ofDigitChars_zeros_append, Nat.ofDigitChars_ten_toDigits]

theorem isDigits_paddedDigits (width n : Nat) : IsDigits (paddedDigits width n) where
  nonempty := List.append_ne_nil_of_right_ne_nil _ Nat.toDigits_ne_nil
  digit c mem := (List.mem_append.mp mem).elim Numeral.isDigit_of_mem_zeros
    ((Numeral.isDigits_toDigits n).digit c)

namespace Binary64

variable {x y : Binary64} {places : Nat}

def fixedNumeral (places : Nat) (x : Binary64) : Numeral where
  negative := x.negative
  whole := Nat.toDigits 10 (x.inPlaces places / 10 ^ places)
  fraction := some (paddedDigits places (x.inPlaces places % 10 ^ places))

theorem negative_fixedNumeral (places : Nat) (x : Binary64) :
    (x.fixedNumeral places).negative = x.negative := rfl

theorem wellFormed_fixedNumeral (places : Nat) (x : Binary64) :
    (x.fixedNumeral places).WellFormed where
  whole := Numeral.isDigits_toDigits _
  leadingZero first := by
    rcases Nat.eq_zero_or_pos (x.inPlaces places / 10 ^ places) with zero | pos
    · rw [fixedNumeral, zero]
      rfl
    · exact absurd first (Numeral.head?_toDigits pos)
  fraction digits mem := by
    cases mem
    exact isDigits_paddedDigits _ _

theorem hasPlaces_fixedNumeral (pos : 0 < places) (x : Binary64) :
    (x.fixedNumeral places).HasPlaces places where
  exponent := rfl
  fraction := length_paddedDigits pos (Nat.mod_lt _ (Nat.pow_pos (by decide)))

theorem ofDigitChars_fixedNumeral (pos : 0 < places) (x : Binary64) :
    Nat.ofDigitChars 10 (x.fixedNumeral places).digits 0 = x.inPlaces places := by
  have length := (hasPlaces_fixedNumeral pos x).fraction
  rw [Numeral.digits, Nat.ofDigitChars_append, Nat.ofDigitChars_eq_ofDigitChars_zero, length,
    fixedNumeral, Option.getD_some, ofDigitChars_paddedDigits, Nat.ofDigitChars_ten_toDigits]
  exact Nat.div_add_mod _ _

/-- The text with a fixed number of places is that of its numeral. -/
theorem toList_fixed (finite : x.isFinite) :
    (x.fixed places).toList = (x.fixedNumeral places).chars "" := by
  rw [fixed, if_pos finite, String.toList_ofList]
  exact (List.append_nil _).symm

/-- The integer nearest to the number on the scale of its places is the one that is written. -/
theorem nearestEven_fixedNumeral (pos : 0 < places) (x : Binary64) :
    NearestEven (x.toRat * 10 ^ places) (x.fixedNumeral places).integer := by
  have scale : (one : ℚ) ≠ 0 := by exact_mod_cast one_pos.ne'
  have near : NearestEven ((units x.code * 10 ^ places : ℕ) / one) (x.inPlaces places) :=
    .of_roundHalfEven _ one_pos
  have value : ((units x.code * 10 ^ places : ℕ) / one : ℚ) = units x.code / one * 10 ^ places := by
    push_cast
    ring
  rw [value] at near
  unfold Numeral.integer toRat signedUnits
  rw [ofDigitChars_fixedNumeral pos]
  cases sign : x.negative with
  | false => simpa [fixedNumeral, sign] using near
  | true => simpa [fixedNumeral, sign, neg_div] using near.neg

/-- A finite number with a fixed number of places is read as a numeral of so many places that is
nearest to it. -/
theorem read?_fixed (finite : x.isFinite) (pos : 0 < places) :
    Numeral.read? (x.fixed places).toList = some (x.fixedNumeral places, []) ∧
      (x.fixedNumeral places).IsRounded places x.toRat := by
  have wellFormed := wellFormed_fixedNumeral places x
  have read := Numeral.read?_chars wellFormed (.inl rfl) Numeral.ends_nil
  rw [List.append_nil, ← toList_fixed finite] at read
  exact ⟨read, Numeral.isRounded_of_nearestEven wellFormed (hasPlaces_fixedNumeral pos x)
    (nearestEven_fixedNumeral pos x)⟩

/-- A number that is not greater is not written as a greater one. -/
theorem toRat_fixedNumeral_mono (pos : 0 < places) (finite : x.isFinite) (finite' : y.isFinite)
    (le : x ≤ y) : (x.fixedNumeral places).toRat ≤ (y.fixedNumeral places).toRat := by
  have scale : (0 : ℚ) < 10 ^ places := by positivity
  have values := mul_le_mul_of_nonneg_right ((le_iff_toRat_le finite finite').mp le) scale.le
  have integers := (nearestEven_fixedNumeral pos x).mono (nearestEven_fixedNumeral pos y) values
  rw [(hasPlaces_fixedNumeral pos x).toRat_eq, (hasPlaces_fixedNumeral pos y).toRat_eq]
  exact div_le_div_of_nonneg_right (by exact_mod_cast integers) scale.le

end Binary64

end ColdBuild
