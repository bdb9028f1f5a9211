import ColdBuild.Proofs.Decimal.Search

/-!
# Where the point stands

The first digit of a decimal stands below a power of ten if the decimal is less than it. The
shortest decimal of a magnitude is on the same side of a power of ten as the magnitude, unless that
power is itself rounded to a smaller magnitude, and no style changes its notation at such a power
(`display_switches`, `json_switches`). So the exact value of a number decides whether it is written
with an exponent (`numeral_form`).

Of all numerals with the same value a style writes one that has the fewest significant digits, and
the nearest of these (`numeral_spec`).
-/
namespace ColdBuild

open Binary64 (units one infinityCode valueOf)

namespace Decimal

variable {tie : Tie} {code : Nat} {d : Decimal} {e : Int}

/-- The first digit decides which powers of ten are not above the decimal. -/
theorem le_leading_iff (pos : 0 < d.significand) : e ≤ d.leading ↔ 10 ^ e ≤ d.toRat := by
  have scale : (1 : ℚ) < 10 := by norm_num
  have zero : (10 : ℚ) ≠ 0 := by norm_num
  have step : (0 : ℚ) < 10 ^ d.exponent := zpow_pos (by norm_num) d.exponent
  obtain ⟨length, length_eq⟩ := Nat.exists_eq_succ_of_ne_zero (decimalLength_pos d.significand).ne'
  have position : d.leading = length + d.exponent := by
    rw [leading, length_eq]
    push_cast
    ring
  have lower : (10 : ℚ) ^ d.leading ≤ d.toRat := by
    have least := pow_decimalLength_le pos
    rw [length_eq, Nat.succ_sub_one] at least
    rw [position, zpow_add₀ zero, zpow_natCast, toRat]
    exact mul_le_mul_of_nonneg_right (by exact_mod_cast least) step.le
  have upper : d.toRat < 10 ^ (d.leading + 1) := by
    have most := lt_pow_decimalLength d.significand
    rw [length_eq] at most
    rw [position, show length + d.exponent + 1 = (length + 1 : ℕ) + d.exponent by push_cast; ring,
      zpow_add₀ zero, zpow_natCast, toRat]
    exact mul_lt_mul_of_pos_right (by exact_mod_cast most) step
  constructor
  · intro le
    exact (zpow_le_zpow_right₀ scale.le le).trans lower
  · intro le
    exact Int.lt_add_one_iff.mp ((zpow_lt_zpow_iff_right₀ scale).mp (le.trans_lt upper))

/-- A magnitude is compared with a power of ten in whole numbers. -/
theorem pow_le_valueOf_iff :
    10 ^ e ≤ valueOf code ↔ 10 ^ e.toNat * one ≤ units code * 10 ^ (-e).toNat := by
  have scale : (0 : ℚ) < one := by exact_mod_cast Binary64.one_pos
  have size : (0 : ℚ) < (10 ^ (-e).toNat : ℕ) := by exact_mod_cast Nat.pow_pos (by decide)
  rw [valueOf, zpow_eq_div, div_le_div_iff₀ size scale]
  exact_mod_cast Iff.rfl

/-- The power of ten is not rounded to a smaller magnitude. -/
def RoundsUp (e : Int) : Prop := 10 ^ e ≤ valueOf (Decimal.code ⟨1, e⟩)

/-- The shortest decimal is on the side of a power of ten on which the magnitude is. -/
theorem le_leading_shortest_iff (tie : Tie) (pos : 0 < code) (finite : code < infinityCode)
    (roundsUp : RoundsUp e) : e ≤ (shortest tie code).leading ↔ 10 ^ e ≤ valueOf code := by
  have named := code_shortest tie pos finite
  have power : toRat ⟨1, e⟩ = 10 ^ e := by
    rw [toRat, Nat.cast_one, one_mul]
  rw [le_leading_iff (significand_shortest_pos tie pos finite)]
  constructor
  · intro above
    by_contra below
    -- the power would be a name of the magnitude and so be rounded down
    have between : Decimal.code ⟨1, e⟩ = code := by
      refine code_of_between finite named (.inr ?_)
      rw [power]
      exact ⟨(not_le.mp below).le, above⟩
    rw [RoundsUp, between] at roundsUp
    exact below roundsUp
  · intro above
    by_contra below
    -- the power would be a nearer name, of one digit
    have lower := not_le.mp below
    have between : Decimal.code ⟨1, e⟩ = code := by
      refine code_of_between finite named (.inl ?_)
      rw [power]
      exact ⟨lower.le, above⟩
    have near := shortest_le_pow tie pos finite between
    rw [abs_of_nonpos (sub_nonpos.mpr (lower.le.trans above)),
      abs_of_nonpos (sub_nonpos.mpr above)] at near
    linarith

end Decimal

namespace Numeral

/-- Without an exponent and with a digit after the point at least. -/
def IsPlain (n : Numeral) : Prop :=
  n.exponent = none ∧ ∃ digits, n.fraction = some digits ∧ digits ≠ []

/-- With an exponent and one digit before the point. -/
def IsScientific (n : Numeral) : Prop := n.exponent.isSome ∧ n.whole.length = 1

def toRat (n : Numeral) : ℚ := if n.negative then -n.magnitude.toRat else n.magnitude.toRat

/-- With the right sign only the magnitude can be wrong. -/
theorem error_eq {n : Numeral} {x : Binary64} (sign : n.negative = x.negative) :
    |n.toRat - x.toRat| = |n.magnitude.toRat - valueOf x.code| := by
  unfold toRat Binary64.toRat Binary64.signedUnits valueOf
  rw [sign]
  cases x.negative with
  | false => simp
  | true =>
    simp only [if_true]
    rw [← abs_neg]
    congr 1
    push_cast
    ring

end Numeral

theorem Binary64.abs_toRat (x : Binary64) : |x.toRat| = valueOf x.code := by
  have scale : (0 : ℚ) ≤ one := Nat.cast_nonneg one
  unfold Binary64.toRat Binary64.signedUnits valueOf
  rw [abs_div, abs_of_nonneg scale]
  cases x.negative <;> simp

namespace NumeralStyle

variable {style : NumeralStyle} {x : Binary64} {other : Numeral}

/-- The powers of ten at which the notation changes are not rounded to smaller magnitudes. -/
structure Switches (style : NumeralStyle) : Prop where
  least : Decimal.RoundsUp style.leastPositional
  most : Decimal.RoundsUp (style.mostPositional + 1)

theorem display_switches : display.Switches :=
  ⟨Decimal.pow_le_valueOf_iff.mpr (by decide +kernel),
    Decimal.pow_le_valueOf_iff.mpr (by decide +kernel)⟩

theorem json_switches : json.Switches :=
  ⟨Decimal.pow_le_valueOf_iff.mpr (by decide +kernel),
    Decimal.pow_le_valueOf_iff.mpr (by decide +kernel)⟩

theorem isPlain_positional (negative : Bool) {digits : List Char} (position : Int)
    (nonempty : digits ≠ []) : (positionalNumeral negative digits position).IsPlain := by
  unfold positionalNumeral
  split
  · exact ⟨rfl, _, rfl, List.append_ne_nil_of_right_ne_nil _ nonempty⟩
  · refine ⟨rfl, _, rfl, ?_⟩
    split
    · exact List.cons_ne_nil _ _
    · next some => simpa using some

theorem isScientific_scientific (negative : Bool) {digits : List Char} (position : Int)
    (nonempty : digits ≠ []) : (scientificNumeral negative digits position).IsScientific := by
  obtain ⟨c, rest, rfl⟩ := List.exists_cons_of_ne_nil nonempty
  exact ⟨rfl, rfl⟩

/-- Where the first digit of a number stands among the positions that are written plainly. -/
theorem plain_iff (switches : style.Switches) (finite : x.isFinite) (nonzero : x.code ≠ 0) :
    (style.leastPositional ≤ (Decimal.shortest style.tie x.code).leading ↔
        10 ^ style.leastPositional ≤ |x.toRat|) ∧
      ((Decimal.shortest style.tie x.code).leading ≤ style.mostPositional ↔
        |x.toRat| < 10 ^ (style.mostPositional + 1)) := by
  have less := Binary64.isFinite_iff.mp finite
  have pos := Nat.pos_of_ne_zero nonzero
  have most := Decimal.le_leading_shortest_iff style.tie pos less switches.most
  rw [Binary64.abs_toRat, ← not_le, ← most, Int.add_one_le_iff, not_lt]
  exact ⟨Decimal.le_leading_shortest_iff style.tie pos less switches.least, Iff.rfl⟩

/-- The exact value of a number decides how it is written. -/
theorem numeral_form (switches : style.Switches) (finite : x.isFinite) :
    if x.code = 0 ∨ 10 ^ style.leastPositional ≤ |x.toRat| ∧
        |x.toRat| < 10 ^ (style.mostPositional + 1) then
      (style.numeral x).IsPlain
    else (style.numeral x).IsScientific := by
  by_cases zero : x.code = 0
  · rw [if_pos (.inl zero), numeral, if_pos zero]
    exact ⟨rfl, _, rfl, List.cons_ne_nil _ _⟩
  · have nonempty := (Decimal.isDigits_digits (significand_pos style finite zero)).nonempty
    obtain ⟨least, most⟩ := plain_iff switches finite zero
    rw [numeral, if_neg zero]
    simp only [zero, false_or, ← least, ← most, Bool.and_eq_true, decide_eq_true_eq]
    split
    · exact isPlain_positional _ _ nonempty
    · exact isScientific_scientific _ _ nonempty

/-- What is not written plainly has the position of its first digit as the exponent. -/
theorem exponent_numeral (style : NumeralStyle) (nonzero : x.code ≠ 0) :
    (style.numeral x).exponent =
      if style.leastPositional ≤ (Decimal.shortest style.tie x.code).leading ∧
          (Decimal.shortest style.tie x.code).leading ≤ style.mostPositional then none
      else some (Decimal.shortest style.tie x.code).leading := by
  unfold numeral
  rw [if_neg nonzero]
  -- the kernel must not look for the digits
  generalize Decimal.shortest style.tie x.code = d
  simp only [Bool.and_eq_true, decide_eq_true_eq]
  split
  · unfold positionalNumeral
    split <;> rfl
  · rfl

/-- An exponent is negative if the number is too small to be written plainly. -/
theorem exponent_neg_iff (switches : style.Switches) (least : style.leastPositional ≤ 0)
    (most : 0 ≤ style.mostPositional + 1) (finite : x.isFinite) :
    (∃ exponent, (style.numeral x).exponent = some exponent ∧ exponent < 0) ↔
      x.code ≠ 0 ∧ |x.toRat| < 10 ^ style.leastPositional := by
  by_cases zero : x.code = 0
  · have plain : (style.numeral x).exponent = none := by
      rw [numeral, if_pos zero]
    simp [plain, zero]
  · obtain ⟨below, -⟩ := plain_iff switches finite zero
    have small : |x.toRat| < 10 ^ style.leastPositional ↔
        (Decimal.shortest style.tie x.code).leading < style.leastPositional := by
      rw [← not_le, ← below, not_le]
    rw [and_iff_right zero, small, exponent_numeral style zero]
    generalize (Decimal.shortest style.tie x.code).leading = position
    split
    · next within =>
      simp only [reduceCtorEq, false_and, exists_false, false_iff, not_lt]
      exact within.1
    · next outside =>
      simp only [Option.some.injEq, exists_eq_left']
      omega

/-- No numeral of the same value has fewer digits, and none with as few is nearer. -/
theorem numeral_spec (style : NumeralStyle) (finite : x.isFinite) (wellFormed : other.WellFormed)
    (same : other.value = x) :
    (style.numeral x).significantDigits ≤ other.significantDigits ∧
      (other.significantDigits = (style.numeral x).significantDigits →
        |(style.numeral x).toRat - x.toRat| ≤ |other.toRat - x.toRat|) := by
  have less := Binary64.isFinite_iff.mp finite
  have named : other.magnitude.code = x.code := congrArg Binary64.code same
  have sign : other.negative = x.negative := congrArg Binary64.negative same
  have written : (style.numeral x).WellFormed := wellFormed_numeral finite
  rw [Numeral.error_eq sign, Numeral.error_eq (negative_numeral style x)]
  by_cases zero : x.code = 0
  · have nothing : (style.numeral x).magnitude.toRat = valueOf x.code := by
      rw [numeral, if_pos zero, zero, valueOf, Binary64.units_zero]
      simp [Numeral.magnitude, Numeral.digits, Decimal.toRat, Nat.ofDigitChars_cons]
    refine ⟨?_, fun _ => ?_⟩
    · rw [numeral, if_pos zero]
      exact Nat.zero_le _
    · rw [nothing, sub_self, abs_zero]
      exact abs_nonneg _
  · have pos := Nat.pos_of_ne_zero zero
    obtain ⟨fewest, nearest⟩ := Decimal.shortest_spec style.tie pos less named
      ((Numeral.hasDigits_iff wellFormed.isDigit).mpr le_rfl)
    rw [← toRat_numeral style finite zero] at fewest nearest
    refine ⟨(Numeral.hasDigits_iff written.isDigit).mp fewest, fun equal => ?_⟩
    refine nearest fun j digits => ?_
    rw [equal]
    exact (Numeral.hasDigits_iff written.isDigit).mp digits

end NumeralStyle

end ColdBuild
