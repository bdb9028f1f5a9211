import ColdBuild.Report
import ColdBuild.Proofs.Decimal.Notation

/-!
# The two texts of a metric

A metric is shown in the summary and stored in the document. Both texts of a finite float are
numerals that say it as faithfully as their length allows (`Faithful`); only the notation and the
last digit of a tie differ. Both texts of an integer are its digits. The texts of other floats are
no numerals at all, so what is shown tells values of either kind apart (`display_inj`).
-/
namespace ColdBuild

/-- The text is a numeral with the number as its value: nothing is nearer to what it says. No other
text of this value has fewer significant digits, and none with as few is nearer to the number. The
numeral is plain exactly for zero and from `10 ^ least` up to `10 ^ 16`, and has an exponent
otherwise. -/
structure Faithful (least : Int) (text : String) (x : Binary64) : Prop where
  marked : '.' ∈ text.toList ∨ 'e' ∈ text.toList
  reads : ∃ n, Numeral.read? text.toList = some (n, []) ∧
    n.value = x ∧ Binary64.IsNearest (n.magnitude.toRat * Binary64.one) x.code ∧
    (∀ (other : String) m, Numeral.read? other.toList = some (m, []) → m.value = x →
      n.significantDigits ≤ m.significantDigits ∧
        (m.significantDigits = n.significantDigits → |n.toRat - x.toRat| ≤ |m.toRat - x.toRat|)) ∧
    if x.code = 0 ∨ 10 ^ least ≤ |x.toRat| ∧ |x.toRat| < 10 ^ 16 then n.IsPlain
    else n.IsScientific

namespace NumeralStyle

variable {style : NumeralStyle} {x : Binary64}

theorem faithful_write (plus : Numeral.IsPlus style.exponentPlus) (switches : style.Switches)
    (most : style.mostPositional = 15) (finite : x.isFinite) :
    Faithful style.leastPositional (style.write x) x where
  marked := by
    rw [toList_write style finite]
    exact Numeral.mem_chars _ (isSome_numeral style x)
  reads := by
    have form := numeral_form switches finite
    rw [most] at form
    exact ⟨_, read?_write plus finite, value_numeral finite, isNearest_numeral finite,
      fun other m read same => numeral_spec style finite (Numeral.wellFormed_of_read? read) same,
      form⟩

end NumeralStyle

namespace MetricValue

/-- The numeral that a shown value is, if it is one. -/
def shown? : MetricValue → Option Numeral
  | .float x => if x.isFinite then some (NumeralStyle.display.numeral x) else none
  | .integer n => some (.ofNat n)

/-- What is shown of a float that is not finite. -/
theorem display_of_not_finite {x : Binary64} (infinite : x.isFinite = false) :
    (MetricValue.float x).display =
      if x.isNaN then "NaN" else if x.negative then "-inf" else "inf" := by
  rw [display, NumeralStyle.write]
  split
  · rfl
  · next number =>
    rw [if_pos (Binary64.isInfinite_of_not_finite infinite (by simpa using number))]
    rfl

/-- It says whether the float is a NaN, and otherwise which infinity it is. -/
theorem nonfinite_inj {x y : Binary64} (infinite : x.isFinite = false)
    (infinite' : y.isFinite = false)
    (equal : (MetricValue.float x).display = (MetricValue.float y).display) :
    x = y ∨ x.isNaN ∧ y.isNaN := by
  have texts : ∀ a b a' b' : Bool,
      (if a then "NaN" else if b then "-inf" else "inf") =
        (if a' then "NaN" else if b' then "-inf" else "inf") → a = a' ∧ (a = false → b = b') := by
    decide
  rw [display_of_not_finite infinite, display_of_not_finite infinite'] at equal
  obtain ⟨number, sign⟩ := texts _ _ _ _ equal
  cases nan : x.isNaN with
  | true => exact .inr ⟨rfl, number ▸ nan⟩
  | false =>
    have code := Binary64.isInfinite_of_not_finite infinite nan
    have code' := Binary64.isInfinite_of_not_finite infinite' (number ▸ nan)
    rw [Binary64.isInfinite, decide_eq_true_eq] at code code'
    exact .inl (Binary64.eq_of_code (sign nan) (code.trans code'.symm))

theorem read?_display (value : MetricValue) :
    Numeral.read? value.display.toList = value.shown?.map fun n => (n, []) := by
  cases value with
  | integer n =>
    have read := Numeral.read?_chars (Numeral.wellFormed_ofNat n) (.inl rfl) Numeral.ends_nil
    rwa [List.append_nil, Numeral.chars_ofNat] at read
  | float x =>
    rw [shown?]
    cases finite : x.isFinite with
    | true => exact NumeralStyle.read?_write (.inl rfl) finite
    | false =>
      rw [display_of_not_finite finite, if_neg Bool.false_ne_true]
      split
      · decide
      · split <;> decide

/-- What is shown determines the kind and the value, but does not tell one NaN from another. -/
theorem display_inj {a b : MetricValue} (equal : a.display = b.display) :
    a = b ∨ ∃ x y, a = .float x ∧ b = .float y ∧ x.isNaN ∧ y.isNaN := by
  have same : a.shown? = b.shown? := by
    have read := read?_display a
    rw [equal, read?_display b] at read
    exact Option.map_injective (fun n m h => congrArg Prod.fst h) read.symm
  cases a with
  | integer n =>
    cases b with
    | integer m => exact .inl (congrArg _ (Numeral.ofNat_inj (Option.some.inj same)))
    | float y =>
      rw [shown?, shown?] at same
      split at same
      · exact absurd (Option.some.inj same) (NumeralStyle.ofNat_ne_numeral n _ y)
      · cases same
  | float x =>
    cases b with
    | integer m =>
      rw [shown?, shown?] at same
      split at same
      · exact absurd (Option.some.inj same).symm (NumeralStyle.ofNat_ne_numeral m _ x)
      · cases same
    | float y =>
      rw [shown?, shown?] at same
      cases finite : x.isFinite <;> cases finite' : y.isFinite <;> rw [finite, finite'] at same
      · rcases nonfinite_inj finite finite' equal with rfl | nans
        · exact .inl rfl
        · exact .inr ⟨x, y, rfl, rfl, nans⟩
      · cases same
      · cases same
      · exact .inl (congrArg _ (NumeralStyle.numeral_inj finite finite' (Option.some.inj same)))

/-- The texts of floats are faithful, and differ in the least number that is written plainly. The
texts of integers are their digits. What is shown determines the kind and the value of a metric. -/
theorem texts_faithful :
    (∀ x : Binary64, x.isFinite →
      Faithful (-4) (MetricValue.float x).display x ∧ Faithful (-5) (MetricValue.float x).json x) ∧
    (∀ n, (MetricValue.integer n).display.toList = Nat.toDigits 10 n ∧
      (MetricValue.integer n).json.toList = Nat.toDigits 10 n) ∧
    ∀ a b : MetricValue, a.display = b.display →
      a = b ∨ ∃ x y, a = .float x ∧ b = .float y ∧ x.isNaN ∧ y.isNaN := by
  refine ⟨fun x finite => ⟨?_, ?_⟩, fun n => ?_, fun a b equal => display_inj equal⟩
  · exact NumeralStyle.faithful_write (.inl rfl) NumeralStyle.display_switches rfl finite
  · exact NumeralStyle.faithful_write (.inr rfl) NumeralStyle.json_switches rfl finite
  · have digits : (toString n).toList = Nat.toDigits 10 n := by
      rw [Nat.toString_eq_repr, Nat.toList_repr]
    exact ⟨digits, digits⟩

end MetricValue

end ColdBuild
