import ColdBuild.Proofs.Report.Metric
import ColdBuild.Report.Summary

/-!
# The mean in the summary

The summary has one line with the mean (`Report.summary_time`). A finite mean without a sign is
shown as a numeral without a sign (`NumeralStyle.display_showsTime`): if a minus stands in it, it is
that of a negative exponent.
-/
namespace ColdBuild

open ColdBuild.Span (plain emphasised)

/-- The text is a numeral of the number. A minus stands in it if and only if the number is positive
and below `0.0001`, and then as the sign of the exponent. -/
structure ShowsTime (shown : String) (x : Binary64) : Prop where
  value : Binary64.read? shown = some x
  characters : ∀ c ∈ shown.toList, c.isDigit = true ∨ c ∈ ['.', 'e', '-']
  minus : '-' ∈ shown.toList ↔ 0 < x.toRat ∧ x.toRat < 10 ^ (-4 : ℤ)
  exponent : ∀ left right, shown.toList = left ++ '-' :: right → left.getLast? = some 'e'

/-- A finite number without a sign is shown so. -/
theorem NumeralStyle.display_showsTime {x : Binary64} (finite : x.isFinite)
    (positive : x.negative = false) : ShowsTime (display.write x) x := by
  have wellFormed : (display.numeral x).WellFormed := wellFormed_numeral finite
  have unsigned : (display.numeral x).negative = false :=
    (negative_numeral display x).trans positive
  have text : (display.write x).toList = (display.numeral x).chars "" := toList_write display finite
  have isPlus : Numeral.IsPlus "" := .inl rfl
  have nonneg : 0 ≤ x.toRat := by
    rw [Binary64.toRat_of_nonneg positive]
    positivity
  have small : (∃ exponent, (display.numeral x).exponent = some exponent ∧ exponent < 0) ↔
      0 < x.toRat ∧ x.toRat < 10 ^ (-4 : ℤ) := by
    have nonzero : x.code ≠ 0 ↔ x.toRat ≠ 0 := (Binary64.toRat_eq_zero_iff positive).symm.not
    rw [exponent_neg_iff display_switches (by decide) (by decide) finite, abs_of_nonneg nonneg,
      nonneg.lt_iff_ne', nonzero]
    rfl
  refine ⟨?_, fun c mem => ?_, ?_, fun left right split => ?_⟩
  · rw [Binary64.read?, read?_write isPlus finite]
    exact congrArg some (value_numeral finite)
  · rw [text] at mem
    rcases Numeral.mem_chars_cases wellFormed mem with digit | point | letter | minus | plus
    · exact .inl digit
    · exact .inr (by simp [point])
    · exact .inr (by simp [letter])
    · exact .inr (by simp [minus])
    · cases plus
  · rw [← small, text]
    constructor
    · intro mem
      obtain ⟨left, right, split⟩ := List.append_of_mem mem
      exact (Numeral.of_chars_eq_minus wellFormed unsigned isPlus split).1
    · rintro ⟨exponent, is, negative⟩
      exact Numeral.minus_mem_chars "" is negative
  · rw [text] at split
    exact (Numeral.of_chars_eq_minus wellFormed unsigned isPlus split).2

/-- The line of the mean. -/
theorem Report.metricLine_time (report : Report) :
    metricLine report.timeEntry =
      [plain "    Average Execution Time        : ",
        emphasised .green (NumeralStyle.display.write report.averageSeconds),
        plain s!" second ({report.runs} runs)\n"] := by
  have name : s!"    {padded 30 timeMetric}: " = "    Average Execution Time        : " := by decide
  rw [← name]
  rfl

/-- It stands in the summary. -/
theorem Report.summary_time (report : Report) (output : Path) :
    ∃ above below, report.summary output = above ++ metricLine report.timeEntry ++ below :=
  ⟨_, _, List.append_assoc _ _ _⟩

/-- Without colour every span is seen. -/
theorem Span.mem_renderAll {spans : List Span} {span : Span} {c : Char} (mem : span ∈ spans)
    (seen : c ∈ span.text.toList) : c ∈ (renderAll false spans).toList := by
  rw [renderAll, String.toList_join, List.mem_flatMap]
  exact ⟨span.text, List.mem_map_of_mem mem, seen⟩

end ColdBuild
