import ColdBuild.Proofs.Duration.Order
import ColdBuild.Proofs.Rig.Mean
import ColdBuild.Proofs.Tally.Order

/-!
# Slower builds never look better

Two runs of equally many trials, on any two rigs: if no trial of the first took longer than the one
at its place in the second, the first has no greater mean, and if no reading of the first was
greater, it has no greater peak (`Rig.benchmark_mono`). Each conversion, sum and quotient is
rounded, and none of these roundings turns an order around.
-/
namespace ColdBuild

namespace Lap

/-- Laps that took no longer, exactly, are trials that took no longer as they are converted. -/
theorem noSlower {laps laps' : List Lap}
    (le : List.Forall₂ (· ≤ ·) (exactLaps (laps.flatMap stamps))
      (exactLaps (laps'.flatMap stamps))) :
    List.Forall₂ Trial.NoSlower (laps.map trial) (laps'.map trial) := by
  rw [exactLaps_stamps, exactLaps_stamps, List.map_map, List.map_map, List.forall₂_map_left_iff,
    List.forall₂_map_right_iff] at le
  rw [List.forall₂_map_left_iff, List.forall₂_map_right_iff]
  refine le.imp fun lap lap' order => ?_
  have passed : lap.time.nanoseconds ≤ lap'.time.nanoseconds := by
    have exactly : lap.time.exactSeconds ≤ lap'.time.exactSeconds := order
    rw [Duration.exactSeconds, Duration.exactSeconds,
      div_le_div_iff_of_pos_right (by norm_num)] at exactly
    exact_mod_cast exactly
  exact ⟨Binary64.isNonneg_iff.mp lap.time.isNonneg_seconds, Duration.seconds_mono passed⟩

end Lap

namespace Rig

variable {σ τ : Type} {rig : Rig σ} {partner : Rig τ} {config config' : Config}

/-- Reports of two runs of equally many trials are ordered as what the runs measured. -/
theorem report_mono {world : σ} {world' : τ} {report report' : Report}
    (h : (rig.benchmark config world).result = .ok report)
    (h' : (partner.benchmark config' world').result = .ok report')
    (same : config.runs = config'.runs) :
    (List.Forall₂ (· ≤ ·) (exactLaps (rig.benchmark config world).clocks)
        (exactLaps (partner.benchmark config' world').clocks) →
      report.averageSeconds ≤ report'.averageSeconds) ∧
    (List.Forall₂ (· ≤ ·) (rig.benchmark config world).readings
        (partner.benchmark config' world').readings →
      report.maxKb ≤ report'.maxKb) := by
  obtain ⟨laps, all, -, clocks, readings, success⟩ := benchmark_laps rig config h
  obtain ⟨laps', all', -, clocks', readings', success'⟩ := benchmark_laps partner config' h'
  have sameLength : (laps.map Lap.trial).length = (laps'.map Lap.trial).length := by
    rw [List.length_map, List.length_map, all, all', same]
  obtain ⟨first, second, is, is', slower, hungrier⟩ :=
    aggregate_mono (Lap.map_trial_ne_nil all) sameLength (Lap.length_map_trial_lt all) config.label
      config'.label
  obtain rfl : report = first := Except.ok.inj (success.symm.trans is)
  obtain rfl : report' = second := Except.ok.inj (success'.symm.trans is')
  refine ⟨fun le => ?_, fun le => ?_⟩
  · rw [clocks, clocks'] at le
    exact slower (Lap.noSlower le)
  · rw [readings, readings', List.forall₂_map_left_iff, List.forall₂_map_right_iff] at le
    rw [List.forall₂_map_left_iff, List.forall₂_map_right_iff] at hungrier
    exact hungrier le

variable (rig partner config config')

/-- A run whose trials took no longer than those of another run of as many, each compared exactly
with the one at its place, has no greater mean, and one with no greater readings has no greater
peak; what is compared are the answers of the two rigs. The same holds of the aggregates of any two
lists of equally many trials, also where times are infinite. -/
theorem benchmark_mono :
    (∀ (world : σ) (world' : τ) (report report' : Report),
      (rig.benchmark config world).result = .ok report →
      (partner.benchmark config' world').result = .ok report' → config.runs = config'.runs →
      rig.Steps config world (rig.benchmark config world).events
        (rig.benchmark config world).world ∧
      partner.Steps config' world' (partner.benchmark config' world').events
        (partner.benchmark config' world').world ∧
      (List.Forall₂ (· ≤ ·) (exactLaps (rig.benchmark config world).clocks)
          (exactLaps (partner.benchmark config' world').clocks) →
        report.averageSeconds ≤ report'.averageSeconds) ∧
      (List.Forall₂ (· ≤ ·) (rig.benchmark config world).readings
          (partner.benchmark config' world').readings →
        report.maxKb ≤ report'.maxKb)) ∧
    ∀ (trials trials' : List Trial) (label label' : String), trials ≠ [] →
      trials.length = trials'.length → trials.length < 2 ^ 64 →
      ∃ first second, aggregate trials label = .ok first ∧ aggregate trials' label' = .ok second ∧
        (List.Forall₂ Trial.NoSlower trials trials' →
          first.averageSeconds ≤ second.averageSeconds) ∧
        (List.Forall₂ (fun trial other => trial.peakKb ≤ other.peakKb) trials trials' →
          first.maxKb ≤ second.maxKb) := by
  refine ⟨fun world world' report report' h h' same => ?_,
    fun _ _ label label' nonempty same few => aggregate_mono nonempty same few label label'⟩
  obtain ⟨slower, hungrier⟩ := report_mono h h' same
  exact ⟨follows_benchmark rig config world, follows_benchmark partner config' world', slower,
    hungrier⟩

end Rig

/-- Three builds, each slower than the one of `threeBuilds` at its place, on another clock. -/
def Script.threeSlowerBuilds : Script where
  readings := [.ok 1000, .ok 1600, .ok 1600]
  clock := [.ofParts 7 999999999, .ofParts 9 999999999, .ofParts 10 0, .ofParts 12 0,
    .ofParts 20 500000000, .ofParts 25 500000000]

def Report.threeSlowerBuilds : Report := { Report.threeBuilds with
  averageSeconds := .ofNat 3
  maxKb := 1600 }

namespace Rig

theorem result_threeSlowerBuilds :
    (Script.rig.benchmark .threeRuns .threeSlowerBuilds).result = .ok .threeSlowerBuilds :=
  ok_of_toOption (by decide +kernel)

theorem benchmark_mono_threeBuilds :
    (Script.rig.benchmark .threeRuns .threeBuilds).result = .ok .threeBuilds ∧
      (Script.rig.benchmark .threeRuns .threeSlowerBuilds).result = .ok .threeSlowerBuilds ∧
      List.Forall₂ (· ≤ ·) (exactLaps (Script.rig.benchmark .threeRuns .threeBuilds).clocks)
        (exactLaps (Script.rig.benchmark .threeRuns .threeSlowerBuilds).clocks) ∧
      Report.threeBuilds.averageSeconds ≤ Report.threeSlowerBuilds.averageSeconds ∧
      Report.threeBuilds.maxKb ≤ Report.threeSlowerBuilds.maxKb := by
  have clocks : (Script.rig.benchmark .threeRuns .threeBuilds).clocks =
      Script.threeBuilds.clock := by decide +kernel
  have clocks' : (Script.rig.benchmark .threeRuns .threeSlowerBuilds).clocks =
      Script.threeSlowerBuilds.clock := by decide +kernel
  have slower : List.Forall₂ (· ≤ ·)
      (exactLaps (Script.rig.benchmark .threeRuns .threeBuilds).clocks)
      (exactLaps (Script.rig.benchmark .threeRuns .threeSlowerBuilds).clocks) := by
    have laps : exactLaps Script.threeBuilds.clock = [1, 2, 3] := by decide +kernel
    have laps' : exactLaps Script.threeSlowerBuilds.clock = [2, 2, 5] := by decide +kernel
    rw [clocks, clocks', laps, laps']
    norm_num
  have readings : (Script.rig.benchmark .threeRuns .threeBuilds).readings = [1000, 1500, 1200] := by
    decide +kernel
  have readings' : (Script.rig.benchmark .threeRuns .threeSlowerBuilds).readings =
      [1000, 1600, 1600] := by
    decide +kernel
  obtain ⟨-, -, time, memory⟩ := (benchmark_mono Script.rig Script.rig .threeRuns .threeRuns).1 _ _
    _ _ result_threeBuilds result_threeSlowerBuilds rfl
  refine ⟨result_threeBuilds, result_threeSlowerBuilds, slower, time slower, memory ?_⟩
  rw [readings, readings']
  decide

end Rig

end ColdBuild
