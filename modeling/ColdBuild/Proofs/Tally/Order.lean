import ColdBuild.Proofs.Binary64.Order
import ColdBuild.Proofs.Tally.Aggregate
import Mathlib.Data.List.Forall2

/-!
# Aggregates keep the order of their trials

Trials that take no longer, one compared with one, do not have the greater mean, and trials with no
greater readings do not have the greater peak (`aggregate_mono`). Times may be infinite. The lists
have one length, so both totals are divided by the same number.
-/
namespace ColdBuild

open Binary64 (IsNonneg)

/-- The first trial took some time, if only none, and the second at least as much. -/
def Trial.NoSlower (trial other : Trial) : Prop :=
  Binary64.zero ≤ trial.elapsed ∧ trial.elapsed ≤ other.elapsed

theorem Trial.NoSlower.isNonneg {trial other : Trial} (le : trial.NoSlower other) :
    trial.elapsed.IsNonneg ∧ other.elapsed.IsNonneg := by
  refine ⟨Binary64.isNonneg_iff.mpr le.1, Binary64.isNonneg_iff.mpr (Binary64.le_def.mpr ?_)⟩
  obtain ⟨-, -, least⟩ := Binary64.le_def.mp le.1
  obtain ⟨-, number, order⟩ := Binary64.le_def.mp le.2
  exact ⟨rfl, number, least.trans order⟩

namespace Tally

variable {tally other : Tally} {trials trials' : List Trial}

/-- Totals stay ordered while trials are taken in on both sides. -/
theorem elapsedTotal_mono (le : List.Forall₂ Trial.NoSlower trials trials')
    (nonneg : tally.elapsedTotal.IsNonneg) (nonneg' : other.elapsedTotal.IsNonneg)
    (order : tally.elapsedTotal ≤ other.elapsedTotal) :
    (tally.pushAll trials).elapsedTotal.IsNonneg ∧ (other.pushAll trials').elapsedTotal.IsNonneg ∧
      (tally.pushAll trials).elapsedTotal ≤ (other.pushAll trials').elapsedTotal := by
  induction le generalizing tally other with
  | nil => exact ⟨nonneg, nonneg', order⟩
  | @cons trial trial' rest rest' first _ ih =>
    obtain ⟨time, time'⟩ := first.isNonneg
    exact @ih (tally.push trial) (other.push trial') (nonneg.add time) (nonneg'.add time')
      (Binary64.add_mono nonneg time nonneg' time' order first.2)

theorem maxKb_mono
    (le : List.Forall₂ (fun trial other => trial.peakKb ≤ other.peakKb) trials trials')
    (order : tally.peak.maxKb ≤ other.peak.maxKb) :
    (tally.pushAll trials).peak.maxKb ≤ (other.pushAll trials').peak.maxKb := by
  induction le generalizing tally other with
  | nil => exact order
  | @cons trial trial' rest rest' first _ ih =>
    exact @ih (tally.push trial) (other.push trial') (max_le_max order first)

end Tally

theorem aggregate_mono {trials trials' : List Trial} (nonempty : trials ≠ [])
    (same : trials.length = trials'.length) (few : trials.length < 2 ^ 64) (label label' : String) :
    ∃ report report', aggregate trials label = .ok report ∧
      aggregate trials' label' = .ok report' ∧
      (List.Forall₂ Trial.NoSlower trials trials' →
        report.averageSeconds ≤ report'.averageSeconds) ∧
      (List.Forall₂ (fun trial other => trial.peakKb ≤ other.peakKb) trials trials' →
        report.maxKb ≤ report'.maxKb) := by
  have pos : 0 < trials.length := List.length_pos_iff.mpr nonempty
  have nonempty' : trials' ≠ [] := List.length_pos_iff.mp (same ▸ pos)
  refine ⟨_, _, aggregate_of_ne_nil nonempty few label,
    aggregate_of_ne_nil nonempty' (same ▸ few) label',
    fun le => ?_, fun le => Tally.maxKb_mono le le_rfl⟩
  have zero : Tally.empty.elapsedTotal.IsNonneg := ⟨by decide, .inl rfl⟩
  obtain ⟨nonneg, nonneg', order⟩ := Tally.elapsedTotal_mono le zero zero (by decide)
  dsimp only
  rw [← same]
  exact Binary64.div_ofNat_mono nonneg nonneg' order pos
    (few.le.trans (Nat.pow_le_pow_right (by decide) (by decide)))

end ColdBuild
