import ColdBuild.Proofs.Rig.Comparison
import ColdBuild.Proofs.Tally.Peak

/-!
# The reported peak

However trials are taken in, one by one, as a whole list or in the course of a run, what is reported
is the least upper bound of their readings (`Rig.reported_peak`). A system that keeps a high-water
mark gives readings that never drop, and then the last of a run is its peak.
-/
namespace ColdBuild

namespace Rig

variable {σ : Type} (rig : Rig σ) (config : Config)

/-- A run whose readings never drop reports the last of them. -/
theorem getLast?_readings {world : σ} {report : Report}
    (h : (rig.benchmark config world).result = .ok report)
    (ascending : (rig.benchmark config world).readings.Pairwise (· ≤ ·)) :
    (rig.benchmark config world).readings.getLast? = some report.maxKb := by
  obtain ⟨laps, -, -, -, readings, success⟩ := benchmark_laps rig config h
  obtain ⟨nonempty, peak, -⟩ := totals_of_aggregate success
  have isPeak := Tally.isPeak_empty_pushAll (laps.map Lap.trial)
  have same : (laps.map Lap.trial).map Trial.peakKb = laps.map Lap.peakKb := List.map_map
  rw [← peak, same, ← readings] at isPeak
  refine isPeak.getLast? ?_ ascending
  rw [readings]
  exact List.map_eq_nil_iff.not.mpr (List.map_eq_nil_iff.not.mp nonempty)

/-- The peak of any trials is the least upper bound of their readings, one of them if there are
trials, and zero otherwise; it is the peak of the report, if there is one, and never goes down when
a trial is taken in. Each observation of a reading returns the peak of the readings so far, and
leaves it as the maximum. The peak of two lists together is the greater of theirs, and their numbers
of trials add up. It depends only on which readings there are: not on their order, not on
repetitions, and on no time. If the readings that the rig gives in a run never drop, its peak is the
last. -/
theorem reported_peak :
    (∀ trials : List Trial,
      IsPeak (trials.map Trial.peakKb) (Tally.empty.pushAll trials).peak.maxKb ∧
      (∀ label report, aggregate trials label = .ok report →
        report.maxKb = (Tally.empty.pushAll trials).peak.maxKb) ∧
      ∀ label, trials ≠ [] → trials.length < 2 ^ 64 → ∃ report,
        aggregate trials label = .ok report ∧ IsPeak (trials.map Trial.peakKb) report.maxKb ∧
        report.runs = trials.length) ∧
    (∀ (tally : Tally) (trial : Trial), tally.peak.maxKb ≤ (tally.push trial).peak.maxKb) ∧
    (∀ (before : List Nat) (peak : PeakMemory), IsPeak before peak.maxKb → ∀ kb,
      IsPeak (before ++ [kb]) (peak.observe kb).1 ∧
      IsPeak (before ++ [kb]) (peak.observe kb).2.maxKb) ∧
    (∀ readings : List Nat, (PeakMemory.figures {} readings).length = readings.length ∧
      ∀ k < readings.length, ∃ figure, (PeakMemory.figures {} readings)[k]? = some figure ∧
        IsPeak (readings.take (k + 1)) figure) ∧
    (∀ xs ys : List Trial,
      (Tally.empty.pushAll (xs ++ ys)).peak.maxKb =
        max (Tally.empty.pushAll xs).peak.maxKb (Tally.empty.pushAll ys).peak.maxKb ∧
      (Tally.empty.pushAll (xs ++ ys)).trials =
        (Tally.empty.pushAll xs).trials + (Tally.empty.pushAll ys).trials ∧
      ∀ label label' whole report report', (xs ++ ys).length < 2 ^ 64 →
        aggregate xs label = .ok report → aggregate ys label' = .ok report' →
        ∃ both, aggregate (xs ++ ys) whole = .ok both ∧
          both.maxKb = max report.maxKb report'.maxKb ∧ both.runs = report.runs + report'.runs) ∧
    (∀ trials trials' : List Trial,
      (∀ kb, kb ∈ trials.map Trial.peakKb ↔ kb ∈ trials'.map Trial.peakKb) →
      (Tally.empty.pushAll trials).peak.maxKb = (Tally.empty.pushAll trials').peak.maxKb) ∧
    (∀ trials trials' : List Trial, trials.Perm trials' →
      (Tally.empty.pushAll trials).peak.maxKb = (Tally.empty.pushAll trials').peak.maxKb) ∧
    (∀ (trials : List Trial) (copies : Nat), 0 < copies →
      (Tally.empty.pushAll (List.replicate copies trials).flatten).peak.maxKb =
        (Tally.empty.pushAll trials).peak.maxKb) ∧
    ∀ world : σ,
      rig.Steps config world (rig.benchmark config world).events
        (rig.benchmark config world).world ∧
      ∀ report : Report, (rig.benchmark config world).result = .ok report →
        (rig.benchmark config world).readings.Pairwise (· ≤ ·) →
        (rig.benchmark config world).readings.getLast? = some report.maxKb := by
  refine ⟨fun trials => ⟨Tally.isPeak_empty_pushAll trials,
      fun _ _ success => (totals_of_aggregate success).2.1, fun label nonempty few =>
        ⟨_, aggregate_of_ne_nil nonempty few label, Tally.isPeak_empty_pushAll trials, rfl⟩⟩,
    Tally.maxKb_le_push, fun _ _ isPeak kb => isPeak.observe kb,
    fun readings => ⟨PeakMemory.length_figures _ _, fun k within => ?_⟩,
    fun xs ys => ⟨Tally.maxKb_append xs ys, Tally.trials_append xs ys,
      fun _ _ whole _ _ few success success' => aggregate_append few success success' whole⟩,
    fun _ _ => Tally.maxKb_eq_of_mem_iff, fun _ _ => Tally.maxKb_perm,
    fun trials _ => Tally.maxKb_replicate trials,
    fun world => ⟨follows_benchmark rig config world, fun _ => getLast?_readings rig config⟩⟩
  exact @PeakMemory.isPeak_figures [] {} .nil readings k within

theorem reported_peak_threeSlowerBuilds :
    (Script.rig.benchmark .threeRuns .threeSlowerBuilds).result = .ok .threeSlowerBuilds ∧
      (Script.rig.benchmark .threeRuns .threeSlowerBuilds).readings.Pairwise (· ≤ ·) ∧
      (Script.rig.benchmark .threeRuns .threeSlowerBuilds).readings.getLast? = some 1600 := by
  have ascending :
      (Script.rig.benchmark .threeRuns .threeSlowerBuilds).readings.Pairwise (· ≤ ·) := by
    have readings : (Script.rig.benchmark .threeRuns .threeSlowerBuilds).readings =
        [1000, 1600, 1600] := by decide +kernel
    rw [readings]
    decide
  obtain ⟨-, -, -, -, -, -, -, -, runs⟩ := reported_peak Script.rig .threeRuns
  have last := (runs .threeSlowerBuilds).2 _ result_threeSlowerBuilds ascending
  exact ⟨result_threeSlowerBuilds, ascending, last⟩

end Rig

end ColdBuild
