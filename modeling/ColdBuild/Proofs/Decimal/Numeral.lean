import ColdBuild.Decimal.Numeral
import ColdBuild.Proofs.Decimal.Reading
import ColdBuild.Proofs.Decimal.Shortest

/-!
# Written numbers are read back

A style writes a finite number as a well formed numeral (`NumeralStyle.numeral`), with its digits
in front of the point, behind it or on both sides of it. Wherever the point stands, the numeral says
the shortest decimal that names the number (`toRat_positional`, `toRat_scientific`), and so its
value is the number itself, with its sign (`value_numeral`).
-/
namespace ColdBuild

open Numeral (IsDigits)

/-- Zeros behind the digits multiply by powers of ten. -/
theorem ofDigitChars_append_zeros (digits : List Char) (zeros : Nat) :
    Nat.ofDigitChars 10 (digits ++ List.replicate zeros '0') 0 =
      Nat.ofDigitChars 10 digits 0 * 10 ^ zeros := by
  induction zeros with
  | zero => simp
  | succ zeros ih =>
    rw [List.replicate_succ', ← List.append_assoc, Nat.ofDigitChars_append, ih, Nat.pow_succ,
      ← Nat.mul_assoc, Nat.mul_comm _ 10]
    rfl

/-- Zeros in front of the digits say nothing. -/
theorem ofDigitChars_zeros_append (zeros : Nat) (digits : List Char) :
    Nat.ofDigitChars 10 (List.replicate zeros '0' ++ digits) 0 = Nat.ofDigitChars 10 digits 0 := by
  induction zeros with
  | zero => rfl
  | succ zeros ih => exact ih

/-- Zeros that are dropped can be put back. -/
theorem eq_zeros_append (digits : List Char) :
    ∃ zeros, digits = List.replicate zeros '0' ++ digits.dropWhile (· = '0') := by
  refine ⟨(digits.takeWhile (· = '0')).length, ?_⟩
  have zeros : digits.takeWhile (· = '0') = List.replicate _ '0' :=
    List.eq_replicate_of_mem fun c mem => by simpa using List.mem_takeWhile_imp mem
  rw [← zeros, List.takeWhile_append_dropWhile]

theorem length_toDigits (n : Nat) : (Nat.toDigits 10 n).length = decimalLength n := by
  induction n using decimalLength.induct with
  | case1 n small =>
    rw [decimalLength, if_pos small, Nat.toDigits_of_lt_base small]
    rfl
  | case2 n large ih =>
    rw [decimalLength, if_neg large, Nat.toDigits_of_base_le (by decide) (by omega),
      List.length_append, ih]
    rfl

theorem Binary64.isInfinite_of_not_finite {x : Binary64} (infinite : x.isFinite = false)
    (number : x.isNaN = false) : x.isInfinite = true := by
  simp only [isFinite, isNaN, isInfinite, decide_eq_true_eq, decide_eq_false_iff_not]
    at infinite number ⊢
  omega

namespace Decimal

variable {d : Decimal}

/-- The digits that are left out are zeros. -/
theorem exists_zeros (d : Decimal) :
    ∃ zeros, Nat.toDigits 10 d.significand = d.digits ++ List.replicate zeros '0' := by
  obtain ⟨zeros, reversed⟩ := eq_zeros_append (Nat.toDigits 10 d.significand).reverse
  refine ⟨zeros, ?_⟩
  have all := congrArg List.reverse reversed
  rwa [List.reverse_reverse, List.reverse_append, List.reverse_replicate] at all

/-- A positive decimal has a digit that is not zero, and it is written first. -/
theorem exists_cons_digits (pos : 0 < d.significand) :
    ∃ c rest, d.digits = c :: rest ∧ c ≠ '0' := by
  obtain ⟨zeros, all⟩ := exists_zeros d
  have first := Numeral.head?_toDigits pos
  cases digits : d.digits with
  | nil =>
    rw [all, digits] at first
    cases zeros with
    | zero =>
      rw [digits] at all
      exact absurd all Nat.toDigits_ne_nil
    | succ zeros => exact absurd rfl first
  | cons c rest =>
    rw [all, digits] at first
    exact ⟨c, rest, rfl, fun zero => first (congrArg some zero)⟩

theorem isDigits_digits (pos : 0 < d.significand) : IsDigits d.digits := by
  obtain ⟨zeros, all⟩ := exists_zeros d
  obtain ⟨c, rest, cons, -⟩ := exists_cons_digits pos
  refine ⟨by rw [cons]; exact List.cons_ne_nil c rest, fun c mem => ?_⟩
  refine (Numeral.isDigits_toDigits d.significand).digit c ?_
  rw [all]
  exact List.mem_append_left _ mem

/-- The value in terms of the digits that are written. -/
theorem toRat_eq (d : Decimal) :
    d.toRat = Nat.ofDigitChars 10 d.digits 0 * 10 ^ (d.leading + 1 - d.digits.length) := by
  obtain ⟨zeros, all⟩ := exists_zeros d
  have significand : d.significand = Nat.ofDigitChars 10 d.digits 0 * 10 ^ zeros := by
    rw [← ofDigitChars_append_zeros, ← all, Nat.ofDigitChars_ten_toDigits]
  have length : decimalLength d.significand = d.digits.length + zeros := by
    rw [← length_toDigits, all, List.length_append, List.length_replicate]
  have position : d.leading + 1 - d.digits.length = zeros + d.exponent := by
    rw [leading, length]
    push_cast
    ring
  rw [position, zpow_add₀ (by norm_num), zpow_natCast, ← mul_assoc, toRat]
  congr 1
  exact_mod_cast significand

end Decimal

namespace Numeral

/-- What a numeral says, if its digits are the given ones between zeros. -/
theorem toRat_magnitude {n : Numeral} {digits : List Char} (before after : Nat) {position : Int}
    (shape : n.digits = List.replicate before '0' ++ (digits ++ List.replicate after '0'))
    (place : n.exponent.getD 0 - (n.fraction.getD []).length = position - digits.length - after) :
    n.magnitude.toRat = Nat.ofDigitChars 10 digits 0 * 10 ^ (position - digits.length) := by
  rw [magnitude, Decimal.toRat, shape, ofDigitChars_zeros_append, ofDigitChars_append_zeros, place,
    zpow_sub₀ (by norm_num) _ (after : ℤ), zpow_natCast]
  push_cast
  field_simp

end Numeral

namespace NumeralStyle

/-- The numeral with the point in its place; the first digit stands at `position`. -/
def positionalNumeral (negative : Bool) (digits : List Char) (position : Int) : Numeral :=
  if position < 0 then
    ⟨negative, ['0'], some (List.replicate ((-position).toNat - 1) '0' ++ digits), none⟩
  else
    let whole := position.toNat + 1
    let fraction := digits.drop whole
    ⟨negative, digits.take whole ++ List.replicate (whole - digits.length) '0',
      some (if fraction.isEmpty then ['0'] else fraction), none⟩

def scientificNumeral (negative : Bool) (digits : List Char) (position : Int) : Numeral :=
  let fraction := digits.drop 1
  ⟨negative, digits.take 1, if fraction.isEmpty then none else some fraction, some position⟩

/-- The numeral that a style writes for a finite number. -/
def numeral (style : NumeralStyle) (x : Binary64) : Numeral :=
  if x.code = 0 then ⟨x.negative, ['0'], some ['0'], none⟩
  else
    let d := Decimal.shortest style.tie x.code
    if style.leastPositional ≤ d.leading && d.leading ≤ style.mostPositional then
      positionalNumeral x.negative d.digits d.leading
    else scientificNumeral x.negative d.digits d.leading

section

variable (negative : Bool) (position : Int) {digits : List Char}

theorem chars_positionalNumeral (plus : String) :
    (positionalNumeral negative digits position).chars plus =
      (if negative then ['-'] else []) ++ positional digits position := by
  unfold positionalNumeral positional
  split <;> simp [Numeral.chars, Numeral.fractionChars, Numeral.exponentChars]

theorem chars_scientificNumeral (plus : String) :
    (scientificNumeral negative digits position).chars plus =
      (if negative then ['-'] else []) ++ scientific plus digits position := by
  unfold scientificNumeral scientific
  by_cases below : position < 0 <;>
    cases digits.drop 1 <;>
    simp [below, Numeral.chars, Numeral.fractionChars, Numeral.exponentChars]

/-- Positional numerals have a fraction, the others an exponent. -/
theorem isSome_positional : (positionalNumeral negative digits position).fraction.isSome := by
  unfold positionalNumeral
  split <;> rfl

theorem wellFormed_positional (isDigits : IsDigits digits) (first : digits.head? ≠ some '0') :
    (positionalNumeral negative digits position).WellFormed := by
  unfold positionalNumeral
  split
  · refine ⟨Numeral.isDigits_zero, fun _ => rfl, ?_⟩
    rintro _ ⟨⟩
    exact ⟨List.append_ne_nil_of_right_ne_nil _ isDigits.nonempty, fun c mem =>
      (List.mem_append.mp mem).elim Numeral.isDigit_of_mem_zeros (isDigits.digit c)⟩
  · obtain ⟨c, rest, rfl⟩ := List.exists_cons_of_ne_nil isDigits.nonempty
    have taken : IsDigits ((c :: rest).take (position.toNat + 1)) :=
      ⟨by simp, fun c mem => isDigits.digit c (List.mem_of_mem_take mem)⟩
    refine ⟨taken.append fun _ => Numeral.isDigit_of_mem_zeros,
      fun zero => absurd zero (by simpa using first), ?_⟩
    rintro _ ⟨⟩
    split
    · exact Numeral.isDigits_zero
    · next nonempty =>
      exact ⟨by simpa using nonempty, fun c mem => isDigits.digit c (List.mem_of_mem_drop mem)⟩

theorem wellFormed_scientific (isDigits : IsDigits digits) :
    (scientificNumeral negative digits position).WellFormed := by
  obtain ⟨c, rest, rfl⟩ := List.exists_cons_of_ne_nil isDigits.nonempty
  refine ⟨⟨List.cons_ne_nil _ _, fun d mem => isDigits.digit d (List.mem_of_mem_take mem)⟩,
    fun _ => rfl, fun fraction mem => ?_⟩
  dsimp only [scientificNumeral] at mem
  split at mem
  · cases mem
  · next nonempty =>
    cases mem
    exact ⟨by simpa using nonempty, fun d mem => isDigits.digit d (List.mem_of_mem_drop mem)⟩

/-- The point and the zeros around the digits put the first digit into its position. -/
theorem toRat_positional (nonempty : digits ≠ []) :
    (positionalNumeral negative digits position).magnitude.toRat =
      Nat.ofDigitChars 10 digits 0 * 10 ^ (position + 1 - digits.length) := by
  have pos := List.length_pos_iff.mpr nonempty
  unfold positionalNumeral
  split
  · refine Numeral.toRat_magnitude (-position).toNat 0 ?_ ?_
    · obtain ⟨zeros, least⟩ : ∃ zeros, (-position).toNat = zeros + 1 :=
        ⟨(-position).toNat - 1, by omega⟩
      simp [Numeral.digits, least, List.replicate_succ]
    · simp
      omega
  · obtain ⟨whole, least⟩ : ∃ whole, whole = position.toNat + 1 := ⟨_, rfl⟩
    rw [← least]
    -- either digits are left for the fraction, or zeros fill up the whole part
    rcases Nat.lt_or_ge whole digits.length with longer | shorter
    · have fraction : (digits.drop whole).isEmpty = false := by simpa using longer
      have noZeros : whole - digits.length = 0 := by omega
      refine Numeral.toRat_magnitude 0 0 ?_ ?_
      · simp [Numeral.digits, fraction, noZeros]
      · simp [fraction]
        omega
    · have fraction : digits.drop whole = [] := List.drop_eq_nil_of_le shorter
      refine Numeral.toRat_magnitude 0 (whole - digits.length + 1) ?_ ?_
      · simp [Numeral.digits, fraction, List.take_of_length_le shorter, List.replicate_succ']
      · simp [fraction]
        omega

theorem toRat_scientific (nonempty : digits ≠ []) :
    (scientificNumeral negative digits position).magnitude.toRat =
      Nat.ofDigitChars 10 digits 0 * 10 ^ (position + 1 - digits.length) := by
  obtain ⟨c, rest, rfl⟩ := List.exists_cons_of_ne_nil nonempty
  refine Numeral.toRat_magnitude 0 0 ?_ ?_
  · cases rest <;> simp [scientificNumeral, Numeral.digits]
  · cases rest <;> simp [scientificNumeral]

end

variable {style : NumeralStyle} {x : Binary64}

/-- The three ways in which a finite number is written. -/
theorem numeral_cases (style : NumeralStyle) (x : Binary64) :
    x.code = 0 ∧ style.numeral x = ⟨x.negative, ['0'], some ['0'], none⟩ ∨
      x.code ≠ 0 ∧ (style.numeral x =
          positionalNumeral x.negative (Decimal.shortest style.tie x.code).digits
            (Decimal.shortest style.tie x.code).leading ∨
        style.numeral x =
          scientificNumeral x.negative (Decimal.shortest style.tie x.code).digits
            (Decimal.shortest style.tie x.code).leading) := by
  unfold numeral
  split
  · next zero => exact .inl ⟨zero, rfl⟩
  · next nonzero =>
    refine .inr ⟨nonzero, ?_⟩
    dsimp only
    split
    · exact .inl rfl
    · exact .inr rfl

/-- A finite number that is not zero has digits. -/
theorem significand_pos (style : NumeralStyle) (finite : x.isFinite) (nonzero : x.code ≠ 0) :
    0 < (Decimal.shortest style.tie x.code).significand :=
  Decimal.significand_shortest_pos style.tie (Nat.pos_of_ne_zero nonzero)
    (Binary64.isFinite_iff.mp finite)

/-- A numeral that is written for a finite number is well formed. -/
theorem wellFormed_numeral (finite : x.isFinite) : (style.numeral x).WellFormed := by
  obtain ⟨-, zero⟩ | ⟨nonzero, positional | scientific⟩ := numeral_cases style x
  · rw [zero]
    exact ⟨Numeral.isDigits_zero, fun _ => rfl, by rintro _ ⟨⟩; exact Numeral.isDigits_zero⟩
  · have pos := significand_pos style finite nonzero
    obtain ⟨c, rest, cons, notZero⟩ := Decimal.exists_cons_digits pos
    rw [positional]
    refine wellFormed_positional _ _ (Decimal.isDigits_digits pos) ?_
    rw [cons]
    simpa using notZero
  · rw [scientific]
    exact wellFormed_scientific _ _ (Decimal.isDigits_digits (significand_pos style finite nonzero))

/-- The numeral says the shortest decimal of the magnitude, wherever the point stands. -/
theorem toRat_numeral (style : NumeralStyle) (finite : x.isFinite) (nonzero : x.code ≠ 0) :
    (style.numeral x).magnitude.toRat = (Decimal.shortest style.tie x.code).toRat := by
  have nonempty := (Decimal.isDigits_digits (significand_pos style finite nonzero)).nonempty
  rw [Decimal.toRat_eq (Decimal.shortest style.tie x.code)]
  obtain ⟨zero, -⟩ | ⟨-, positional | scientific⟩ := numeral_cases style x
  · exact absurd zero nonzero
  · rw [positional, toRat_positional _ _ nonempty]
  · rw [scientific, toRat_scientific _ _ nonempty]

/-- The numeral says a decimal that is rounded to the number. -/
theorem code_numeral (style : NumeralStyle) (finite : x.isFinite) :
    (style.numeral x).magnitude.code = x.code := by
  by_cases nonzero : x.code ≠ 0
  · rw [Decimal.code_congr (toRat_numeral style finite nonzero)]
    exact Decimal.code_shortest style.tie (Nat.pos_of_ne_zero nonzero)
      (Binary64.isFinite_iff.mp finite)
  · have zero : x.code = 0 := not_not.mp nonzero
    rw [numeral, if_pos zero, zero]
    exact Decimal.code_zero rfl

theorem negative_numeral (style : NumeralStyle) (x : Binary64) :
    (style.numeral x).negative = x.negative := by
  obtain ⟨-, zero⟩ | ⟨-, positional | scientific⟩ := numeral_cases style x
  · rw [zero]
  · rw [positional, positionalNumeral]
    split <;> rfl
  · rw [scientific, scientificNumeral]

/-- No magnitude is nearer to what the numeral says. -/
theorem isNearest_numeral (finite : x.isFinite) :
    Binary64.IsNearest ((style.numeral x).magnitude.toRat * Binary64.one) x.code := by
  have code := code_numeral style finite
  have less := Binary64.isFinite_iff.mp finite
  rw [← code] at less ⊢
  exact Decimal.isNearest_code less

/-- The value of the numeral is the number, with its sign. -/
theorem value_numeral (finite : x.isFinite) : (style.numeral x).value = x := by
  unfold Numeral.value
  cases x
  congr
  · exact negative_numeral _ _
  · exact code_numeral _ finite

/-- Different numbers have different numerals. -/
theorem numeral_inj {y : Binary64} (finite : x.isFinite) (finite' : y.isFinite)
    (equal : style.numeral x = style.numeral y) : x = y := by
  rw [← value_numeral finite, equal, value_numeral finite']

/-- A number is not written like an integer. -/
theorem isSome_numeral (style : NumeralStyle) (x : Binary64) :
    (style.numeral x).fraction.isSome ∨ (style.numeral x).exponent.isSome := by
  obtain ⟨-, zero⟩ | ⟨-, positional | scientific⟩ := numeral_cases style x
  · rw [zero]
    exact .inl rfl
  · rw [positional]
    exact .inl (isSome_positional _ _)
  · rw [scientific]
    exact .inr rfl

/-- The numeral of a natural number is not that of a float. -/
theorem ofNat_ne_numeral (n : Nat) (style : NumeralStyle) (x : Binary64) :
    Numeral.ofNat n ≠ style.numeral x := by
  intro same
  have marked := isSome_numeral style x
  rw [← same] at marked
  rcases marked with point | exponent
  · cases point
  · cases exponent

/-- The text of the numeral is what the style writes. -/
theorem chars_numeral (style : NumeralStyle) (x : Binary64) :
    (style.numeral x).chars style.exponentPlus =
      (if x.negative then ['-'] else []) ++ style.magnitude x.code := by
  unfold numeral magnitude
  by_cases zero : x.code = 0
  · rw [if_pos zero, if_pos zero]
    simp [Numeral.chars, Numeral.fractionChars, Numeral.exponentChars]
  · rw [if_neg zero, if_neg zero]
    -- the digits themselves do not matter, and the kernel must not look for them
    generalize Decimal.shortest style.tie x.code = d
    dsimp only
    split
    · exact chars_positionalNumeral _ _ _
    · exact chars_scientificNumeral _ _ _

theorem toList_write (style : NumeralStyle) (finite : x.isFinite) :
    (style.write x).toList = (style.numeral x).chars style.exponentPlus := by
  have less := Binary64.isFinite_iff.mp finite
  rw [write, Binary64.not_isNaN less, Binary64.not_isInfinite less, if_neg Bool.false_ne_true,
    if_neg Bool.false_ne_true, String.toList_ofList, chars_numeral]

/-- What a style writes for a finite number is read as its numeral. -/
theorem read?_write (plus : Numeral.IsPlus style.exponentPlus) (finite : x.isFinite) :
    Numeral.read? (style.write x).toList = some (style.numeral x, []) := by
  have wellFormed : (style.numeral x).WellFormed := wellFormed_numeral finite
  have read := Numeral.read?_chars wellFormed plus Numeral.ends_nil
  rwa [List.append_nil, ← toList_write style finite] at read

/-- Anything else is `null`. -/
theorem json_write_of_not_finite (infinite : x.isFinite = false) : json.write x = "null" := by
  unfold write
  split
  · rfl
  · next number =>
    rw [if_pos (Binary64.isInfinite_of_not_finite infinite (by simpa using number))]
    split <;> rfl

end NumeralStyle

end ColdBuild
