import ColdBuild.Proofs.Duration.Accuracy
import ColdBuild.Proofs.Rig.Measurement

/-!
# How exact the reported mean is

The mean of `n` trials is at most `n + 3` roundings away from the exact mean of the times between
the clock readings (`Duration.mean_within`), which keeps it within `(n + 2) * 2 ^ -52` of it,
relatively (`Rig.benchmark_mean_error`).
-/
namespace ColdBuild

open Binary64 (Within roundoff)

namespace Binary64

/-- Few roundings more than there are trials keep close to a linear error. -/
theorem Within.mean_error {x : Binary64} {n : Nat} {mean : ℚ} (within : x.Within (n + 3) mean)
    (pos : 0 < n) (few : n ≤ 2 ^ 52) : |x.toRat - mean| ≤ (n + 2) / 2 ^ 52 * mean := by
  have fewCast : (n : ℚ) ≤ 2 ^ 52 := by exact_mod_cast few
  have posCast : (1 : ℚ) ≤ n := by exact_mod_cast pos
  refine (within.error_le (by omega)).trans ?_
  refine mul_le_mul_of_nonneg_right ?_ within.target_nonneg
  have square : (n : ℚ) * n ≤ 2 ^ 52 * n := mul_le_mul_of_nonneg_right fewCast (by linarith)
  rw [roundoff]
  push_cast
  linarith

end Binary64

/-- The exact seconds between the readings of a clock taken two by two; a clock that went back
measures zero. -/
def exactLaps : List Duration → List ℚ
  | start :: stop :: rest =>
    max 0 (((stop.nanoseconds : ℚ) - start.nanoseconds) / 1000000000) :: exactLaps rest
  | _ => []

/-- Between two readings passes what the later is past the earlier. -/
theorem Duration.exactSeconds_since (stop start : Duration) :
    (stop.since start).exactSeconds =
      max 0 (((stop.nanoseconds : ℚ) - start.nanoseconds) / 1000000000) := by
  have passed : (stop.since start).nanoseconds = stop.nanoseconds - start.nanoseconds := rfl
  rw [exactSeconds, passed]
  rcases Nat.le_total start.nanoseconds stop.nanoseconds with forwards | backwards
  · have order : (start.nanoseconds : ℚ) ≤ stop.nanoseconds := by exact_mod_cast forwards
    rw [Nat.cast_sub forwards, max_eq_right (div_nonneg (by linarith) (by norm_num))]
  · have order : (stop.nanoseconds : ℚ) ≤ start.nanoseconds := by exact_mod_cast backwards
    rw [Nat.sub_eq_zero_of_le backwards, Nat.cast_zero, zero_div,
      max_eq_left (div_nonpos_of_nonpos_of_nonneg (by linarith) (by norm_num))]

namespace Lap

def time (lap : Lap) : Duration := lap.stop.since lap.start

theorem exactLaps_stamps (laps : List Lap) :
    exactLaps (laps.flatMap stamps) = (laps.map time).map Duration.exactSeconds := by
  induction laps with
  | nil => rfl
  | cons lap rest ih =>
    rw [List.map_cons, List.map_cons, ← ih, time, Duration.exactSeconds_since]
    rfl

theorem elapsedTotal (laps : List Lap) :
    (Tally.empty.pushAll (laps.map trial)).elapsedTotal =
      Duration.total (laps.map time) .zero := by
  rw [Tally.elapsedTotal_pushAll, Duration.total, List.foldl_map, List.foldl_map]
  rfl

end Lap

namespace Rig

variable {σ : Type} (rig : Rig σ) (config : Config)

/-- The mean that a run reports is finite, and it is the exact mean of the times between the clock
readings that the rig gave it but for a relative error of at most `(n + 2) * 2 ^ -52`, for `n`
trials. -/
theorem benchmark_mean_error {world : σ} {report : Report}
    (h : (rig.benchmark config world).result = .ok report) (few : config.runs ≤ 2 ^ 52) :
    rig.Steps config world (rig.benchmark config world).events
        (rig.benchmark config world).world ∧
      (exactLaps (rig.benchmark config world).clocks).length = config.runs ∧
      report.averageSeconds.isFinite = true ∧
      |report.averageSeconds.toRat -
          (exactLaps (rig.benchmark config world).clocks).sum / config.runs| ≤
        (config.runs + 2) / 2 ^ 52 *
          ((exactLaps (rig.benchmark config world).clocks).sum / config.runs) := by
  obtain ⟨course, _, -, events, result⟩ := benchmark_course rig config world
  obtain ⟨laps, all, rfl, success⟩ := Course.finished_of_result (result ▸ h)
  have clocks : (rig.benchmark config world).clocks = laps.flatMap Lap.stamps := by
    rw [Outcome.clocks, events, Course.events_finished, List.filterMap_append,
      Lap.clockReadings_allEvents]
    exact List.append_nil _
  have times : (laps.map Lap.time).length = config.runs := by rw [List.length_map, all]
  have nonempty : laps.map Lap.time ≠ [] := by
    rw [← List.length_pos_iff, times]
    exact config.runs_pos
  have mean : report.averageSeconds.Within (config.runs + 3)
      (Duration.exactTotal (laps.map Lap.time) / config.runs) := by
    rw [Lap.aggregate_map_trial all] at success
    cases success
    rw [Lap.elapsedTotal, ← times]
    exact Duration.mean_within nonempty (by omega)
  rw [clocks, Lap.exactLaps_stamps]
  refine ⟨follows_benchmark rig config world, by rw [List.length_map, times], ?_,
    mean.mean_error config.runs_pos few⟩
  exact Binary64.isFinite_iff.mpr mean.finite

theorem benchmark_mean_error_threeBuilds :
    (Script.rig.benchmark .threeRuns .threeBuilds).result = .ok .threeBuilds ∧
      Config.threeRuns.runs ≤ 2 ^ 52 ∧
      |Report.threeBuilds.averageSeconds.toRat -
          (exactLaps (Script.rig.benchmark .threeRuns .threeBuilds).clocks).sum / 3| ≤
        (3 + 2) / 2 ^ 52 *
          ((exactLaps (Script.rig.benchmark .threeRuns .threeBuilds).clocks).sum / 3) :=
  ⟨result_threeBuilds, by decide,
    (benchmark_mean_error Script.rig .threeRuns result_threeBuilds (by decide)).2.2.2⟩

end Rig

end ColdBuild
