import ColdBuild.Proofs.Binary64.Exact
import ColdBuild.Proofs.Tally.Peak
import Mathlib.Algebra.BigOperators.Group.List.Basic

/-!
# Means of exact totals

As long as all times lie on one grid and their total is within `2 ^ 53` of its steps, a tally adds
without rounding (`Tally.elapsedTotal_exact`). Then the division is all that is rounded, and the
order of the trials does not count (`aggregate_exact`).
-/
namespace ColdBuild

open Binary64 (IsNearest one)

namespace Trial

def exactTotal (trials : List Trial) : ℚ := (trials.map fun trial => trial.elapsed.toRat).sum

variable {k : Nat} {trials trials' : List Trial}

theorem exactTotal_cons (trial : Trial) (trials : List Trial) :
    exactTotal (trial :: trials) = trial.elapsed.toRat + exactTotal trials := List.sum_cons

theorem exactTotal_append (xs ys : List Trial) :
    exactTotal (xs ++ ys) = exactTotal xs + exactTotal ys := by
  rw [exactTotal, List.map_append, List.sum_append]
  rfl

theorem exactTotal_nonneg (onGrid : ∀ trial ∈ trials, trial.elapsed.OnGrid k) :
    0 ≤ exactTotal trials := by
  refine List.sum_nonneg fun value mem => ?_
  obtain ⟨trial, isTrial, rfl⟩ := List.mem_map.mp mem
  exact (onGrid trial isTrial).toRat_nonneg

theorem exactTotal_perm (perm : trials.Perm trials') : exactTotal trials = exactTotal trials' :=
  (perm.map _).sum_eq

theorem exactTotal_of_forall_eq {time : Binary64} (same : ∀ trial ∈ trials, trial.elapsed = time) :
    exactTotal trials = trials.length * time.toRat := by
  have values : ∀ value ∈ trials.map fun trial => trial.elapsed.toRat, value = time.toRat := by
    rw [List.forall_mem_map]
    exact fun trial mem => congrArg _ (same trial mem)
  rw [exactTotal, List.sum_eq_card_nsmul _ _ values, List.length_map, nsmul_eq_mul]

end Trial

section

open Trial (exactTotal exactTotal_cons exactTotal_append exactTotal_nonneg exactTotal_perm)

variable {k : Nat} {trials trials' : List Trial}

namespace Tally

/-- Taking in trials on the grid is not rounded, as long as the total is small. -/
theorem elapsedTotal_exact {tally : Tally} (le : k ≤ 1074) (total : tally.elapsedTotal.OnGrid k)
    (onGrid : ∀ trial ∈ trials, trial.elapsed.OnGrid k)
    (small : tally.elapsedTotal.toRat + exactTotal trials ≤ 2 ^ (53 - k : ℤ)) :
    (tally.pushAll trials).elapsedTotal.OnGrid k ∧
      (tally.pushAll trials).elapsedTotal.toRat =
        tally.elapsedTotal.toRat + exactTotal trials := by
  induction trials generalizing tally with
  | nil => exact ⟨total, (add_zero _).symm⟩
  | cons trial rest ih =>
    rw [List.forall_mem_cons] at onGrid
    obtain ⟨first, others⟩ := onGrid
    rw [exactTotal_cons, ← add_assoc] at small ⊢
    have part : tally.elapsedTotal.toRat + trial.elapsed.toRat ≤ 2 ^ (53 - k : ℤ) :=
      (le_add_of_nonneg_right (exactTotal_nonneg others)).trans small
    obtain ⟨stays, exactly⟩ := total.add first le part
    rw [← exactly] at small ⊢
    exact @ih (tally.push trial) stays others small

theorem elapsedTotal_empty_exact (le : k ≤ 1074)
    (onGrid : ∀ trial ∈ trials, trial.elapsed.OnGrid k)
    (small : exactTotal trials ≤ 2 ^ (53 - k : ℤ)) :
    (empty.pushAll trials).elapsedTotal.OnGrid k ∧
      (empty.pushAll trials).elapsedTotal.toRat = exactTotal trials := by
  have zero : empty.elapsedTotal.toRat = 0 := (Binary64.toRat_eq_zero_iff rfl).mpr rfl
  have exactly := @elapsedTotal_exact k trials empty le (.zero k) onGrid
  rw [zero, zero_add] at exactly
  exact exactly small

/-- No total on the way is rounded. -/
theorem elapsedTotal_take_exact (le : k ≤ 1074)
    (onGrid : ∀ trial ∈ trials, trial.elapsed.OnGrid k)
    (small : exactTotal trials ≤ 2 ^ (53 - k : ℤ)) (done : Nat) :
    (empty.pushAll (trials.take done)).elapsedTotal.OnGrid k ∧
      (empty.pushAll (trials.take done)).elapsedTotal.toRat = exactTotal (trials.take done) := by
  have part : exactTotal (trials.take done) ≤ exactTotal trials := by
    have whole := exactTotal_append (trials.take done) (trials.drop done)
    rw [List.take_append_drop] at whole
    rw [whole]
    exact le_add_of_nonneg_right
      (exactTotal_nonneg fun trial mem => onGrid trial (List.mem_of_mem_drop mem))
  exact elapsedTotal_empty_exact le (fun trial mem => onGrid trial (List.mem_of_mem_take mem))
    (part.trans small)

theorem elapsedTotal_perm (perm : trials.Perm trials') (le : k ≤ 1074)
    (onGrid : ∀ trial ∈ trials, trial.elapsed.OnGrid k)
    (small : exactTotal trials ≤ 2 ^ (53 - k : ℤ)) :
    (empty.pushAll trials).elapsedTotal = (empty.pushAll trials').elapsedTotal := by
  have onGrid' : ∀ trial ∈ trials', trial.elapsed.OnGrid k :=
    fun trial mem => onGrid trial (perm.mem_iff.mpr mem)
  obtain ⟨total, exactly⟩ := elapsedTotal_empty_exact le onGrid small
  obtain ⟨total', exactly'⟩ := elapsedTotal_empty_exact le onGrid' (exactTotal_perm perm ▸ small)
  exact Binary64.eq_of_toRat_eq total.positive total'.positive
    (exactly.trans ((exactTotal_perm perm).trans exactly'.symm))

end Tally

/-- Trials whose times are multiples of `2 ^ -k`, and at most `2 ^ 53` such steps in total, are
added without any rounding, and their mean is the number nearest to the exact mean. So it does not
matter in which order the trials come, and the mean of equal times is that time. -/
theorem aggregate_exact (le : k ≤ 1074) (nonempty : trials ≠ []) (few : trials.length ≤ 2 ^ 53)
    (onGrid : ∀ trial ∈ trials, trial.elapsed.OnGrid k)
    (small : exactTotal trials ≤ 2 ^ (53 - k : ℤ)) (label : String) :
    ∃ report, aggregate trials label = .ok report ∧
      (∀ done, (Tally.empty.pushAll (trials.take done)).elapsedTotal.OnGrid k ∧
        (Tally.empty.pushAll (trials.take done)).elapsedTotal.toRat =
          exactTotal (trials.take done)) ∧
      report.averageSeconds.isFinite ∧ report.averageSeconds.negative = false ∧
      IsNearest (exactTotal trials / trials.length * one) report.averageSeconds.code ∧
      (∀ trials' : List Trial, trials.Perm trials' → aggregate trials' label = .ok report) ∧
      ∀ time, (∀ trial ∈ trials, trial.elapsed = time) → report.averageSeconds = time := by
  have pos : 0 < trials.length := List.length_pos_iff.mpr nonempty
  obtain ⟨total, exactly⟩ := Tally.elapsedTotal_empty_exact le onGrid small
  obtain ⟨finite, positive, nearest⟩ :=
    Binary64.isNearest_div_ofNat total.finite total.positive pos few
  rw [exactly] at nearest
  have counted : trials.length < UInt64.size := few.trans_lt (by decide)
  refine ⟨_, aggregate_of_ne_nil nonempty counted label,
    Tally.elapsedTotal_take_exact le onGrid small, finite, positive, nearest,
    fun trials' perm => ?_, fun time same => ?_⟩
  · have nonempty' : trials' ≠ [] := List.length_pos_iff.mp (perm.length_eq ▸ pos)
    rw [aggregate_of_ne_nil nonempty' (perm.length_eq ▸ counted),
      Tally.elapsedTotal_perm perm le onGrid small, Tally.maxKb_perm perm, perm.length_eq]
  · obtain ⟨trial, mem⟩ := List.exists_mem_of_ne_nil trials nonempty
    have timeOnGrid : time.OnGrid k := same trial mem ▸ onGrid trial mem
    have count : (trials.length : ℚ) ≠ 0 := by exact_mod_cast pos.ne'
    rw [Trial.exactTotal_of_forall_eq same, mul_div_cancel_left₀ _ count] at nearest
    exact Binary64.eq_of_isNearest positive timeOnGrid.positive nearest

end

namespace Trial

/-- One and two of the smallest steps there are. -/
def tiny : List Trial := [⟨⟨false, 1, by decide⟩, 7⟩, ⟨⟨false, 2, by decide⟩, 5⟩]

theorem exactTotal_tiny : exactTotal tiny = 3 / one := by
  have units (code : Nat) (le : code ≤ 2 ^ 53) (lt : code < 1 <<< 63) :
      (⟨false, code, lt⟩ : Binary64).toRat = code / one := by
    rw [Binary64.toRat_of_nonneg rfl, Binary64.units_of_le le]
  rw [tiny, exactTotal_cons, exactTotal_cons, units 1 (by decide), units 2 (by decide)]
  simp only [exactTotal, List.map_nil, List.sum_nil]
  push_cast
  ring

end Trial

/-- Their mean is half a step away from two numbers, and is the even one. -/
theorem aggregate_exact_tiny :
    (∀ trial ∈ Trial.tiny, trial.elapsed.OnGrid 1074) ∧
      Trial.exactTotal Trial.tiny ≤ 2 ^ (53 - (1074 : ℕ) : ℤ) ∧
      ∃ report, aggregate Trial.tiny "" = .ok report ∧
        report.averageSeconds = ⟨false, 2, by decide⟩ ∧
        IsNearest (3 / 2) report.averageSeconds.code := by
  have onGrid : ∀ trial ∈ Trial.tiny, trial.elapsed.OnGrid 1074 := by
    rw [Trial.tiny, List.forall_mem_cons, List.forall_mem_singleton]
    exact ⟨.of_finite rfl rfl, .of_finite rfl rfl⟩
  have small : Trial.exactTotal Trial.tiny ≤ 2 ^ (53 - (1074 : ℕ) : ℤ) := by
    rw [Trial.exactTotal_tiny, Binary64.one_eq rfl]
    exact_mod_cast @Binary64.div_le_bound_iff 1074 3 |>.mpr (by decide)
  have nonempty : Trial.tiny ≠ [] := List.cons_ne_nil _ _
  obtain ⟨report, success, -, -, -, nearest, -⟩ :=
    aggregate_exact le_rfl nonempty (by decide) onGrid small ""
  have mean : (aggregate Trial.tiny "").toOption.map Report.averageSeconds =
      some ⟨false, 2, by decide⟩ := by decide +kernel
  rw [success] at mean
  have half : (Trial.exactTotal Trial.tiny / Trial.tiny.length * one : ℚ) = 3 / 2 := by
    have scale : (one : ℚ) ≠ 0 := by exact_mod_cast Binary64.one_pos.ne'
    have two : Trial.tiny.length = 2 := rfl
    rw [Trial.exactTotal_tiny, two, Nat.cast_ofNat]
    field_simp
  exact ⟨onGrid, small, report, success, Option.some.inj mean, half ▸ nearest⟩

end ColdBuild
