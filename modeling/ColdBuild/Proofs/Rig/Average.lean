import ColdBuild.Proofs.Duration.Range
import ColdBuild.Proofs.Report.Document
import ColdBuild.Proofs.Report.Summary
import ColdBuild.Proofs.Rig.Mean

/-!
# Every reported mean is usable

Whatever the clock answers, a mean that is reported is a finite number without a sign, and it is
zero only if no build took any time. So the document stores a number for it, and the summary shows
one without a sign (`Rig.benchmark_average`). A minus can still be seen in the summary: that of a
negative exponent, if the mean is too small to be written plainly.
-/
namespace ColdBuild

open ColdBuild.Span (plain emphasised)

namespace Lap

/-- A build took no time if its clock readings are not in order. -/
theorem nanoseconds_time (lap : Lap) :
    lap.time.nanoseconds = 0 ↔ lap.stop.nanoseconds ≤ lap.start.nanoseconds :=
  Nat.sub_eq_zero_iff_le

/-- What holds of the clock readings of every lap, by their places among all readings. -/
theorem forall_stamps_iff {laps : List Lap} {P : Duration → Duration → Prop} :
    (∀ lap ∈ laps, P lap.start lap.stop) ↔
      ∀ i < laps.length, ∃ start stop, (laps.flatMap stamps)[2 * i]? = some start ∧
        (laps.flatMap stamps)[2 * i + 1]? = some stop ∧ P start stop := by
  constructor
  · intro all i within
    have lap : laps[i]? = some laps[i] := List.getElem?_eq_getElem within
    obtain ⟨first, second⟩ := getElem?_flatMap_stamps laps i
    rw [lap] at first second
    exact ⟨_, _, first, second, all _ (List.getElem_mem within)⟩
  · intro all lap mem
    obtain ⟨i, within, rfl⟩ := List.getElem_of_mem mem
    obtain ⟨start, stop, isStart, isStop, holds⟩ := all i within
    have lap : laps[i]? = some laps[i] := List.getElem?_eq_getElem within
    obtain ⟨first, second⟩ := getElem?_flatMap_stamps laps i
    rw [lap] at first second
    cases first.symm.trans isStart
    cases second.symm.trans isStop
    exact holds

end Lap

/-- The mean of laps is finite and has no sign, and is zero only if no lap took any time. -/
theorem aggregate_laps {config : Config} {laps : List Lap} {label : String} {report : Report}
    (all : laps.length = config.runs)
    (success : aggregate (laps.map Lap.trial) label = .ok report) :
    report.averageSeconds.isFinite ∧ report.averageSeconds.negative = false ∧
      (report.averageSeconds = .zero ↔
        ∀ lap ∈ laps, lap.stop.nanoseconds ≤ lap.start.nanoseconds) := by
  have mean : report.averageSeconds =
      Duration.total (laps.map Lap.time) .zero / .ofNat config.runs := by
    rw [Lap.aggregate_map_trial all] at success
    cases success
    rw [Lap.elapsedTotal]
  have few : config.runs ≤ 2 ^ 64 := config.runs_le.trans (by decide)
  obtain ⟨inRange, zero⟩ := Duration.total_inRange (laps.map Lap.time) Duration.inRange_zero
  obtain ⟨finite, positive⟩ := inRange.div config.runs_pos few
  rw [mean]
  refine ⟨finite, positive, ?_⟩
  have isZero : Duration.total (laps.map Lap.time) .zero / .ofNat config.runs = .zero ↔
      (Duration.total (laps.map Lap.time) .zero / .ofNat config.runs).code = 0 :=
    ⟨fun same => congrArg Binary64.code same, fun none => Binary64.eq_of_code positive none⟩
  rw [isZero, inRange.div_code_eq_zero_iff config.runs_pos few, zero, List.forall_mem_map]
  simp only [Lap.nanoseconds_time]
  exact and_iff_right rfl

namespace Rig

variable {σ : Type} (rig : Rig σ) (config : Config)

/-- The mean of a run is finite, no NaN and without a sign, and it is zero if and only if no clock
reading of the rig that ends a build is later than the one before it. A reader of the document finds
a number for it, and the summary shows one in which no minus stands but that of a negative
exponent. -/
theorem benchmark_average {world : σ} {report : Report}
    (h : (rig.benchmark config world).result = .ok report) :
    rig.Steps config world (rig.benchmark config world).events
        (rig.benchmark config world).world ∧
      report.averageSeconds.isFinite = true ∧ report.averageSeconds.isNaN = false ∧
      report.averageSeconds.negative = false ∧
      (report.averageSeconds = .zero ↔ ∀ i < config.runs, ∃ start stop,
        (rig.benchmark config world).clocks[2 * i]? = some start ∧
        (rig.benchmark config world).clocks[2 * i + 1]? = some stop ∧
        stop.nanoseconds ≤ start.nanoseconds) ∧
      (∃ (n : Numeral) (memory : Json), Json.read? report.document = some (.array [
          .object [("name", .text Report.timeMetric), ("unit", .text "second"),
            ("value", .number n), ("runs", .number (.ofNat report.runs)),
            ("config", .text report.label)],
          memory]) ∧
        n.negative = false ∧ n.value = report.averageSeconds) ∧
      ∃ (shown : String) (above below : List Span), report.summary config.output = above ++
          [plain "    Average Execution Time        : ", emphasised .green shown,
            plain s!" second ({report.runs} runs)\n"] ++ below ∧
        ShowsTime shown report.averageSeconds := by
  obtain ⟨laps, all, -, clocks, -, success⟩ := benchmark_laps rig config h
  obtain ⟨finite, positive, zero⟩ := aggregate_laps all success
  have stored : report.timeEntry.value.stored =
      .number (NumeralStyle.json.numeral report.averageSeconds) := if_pos finite
  refine ⟨follows_benchmark rig config world, finite,
    Binary64.not_isNaN (Binary64.isFinite_iff.mp finite), positive, ?_, ?_, ?_⟩
  · rw [zero, clocks, ← all]
    exact @Lap.forall_stamps_iff laps fun start stop => stop.nanoseconds ≤ start.nanoseconds
  · refine ⟨NumeralStyle.json.numeral report.averageSeconds, .object report.memoryEntry.members, ?_,
      (NumeralStyle.negative_numeral _ _).trans positive, NumeralStyle.value_numeral finite⟩
    rw [Report.read?_document, Report.stored, Report.entries, List.map_cons, MetricEntry.members,
      stored]
    rfl
  · obtain ⟨above, below, summary⟩ := report.summary_time config.output
    rw [report.metricLine_time] at summary
    exact ⟨_, above, below, summary, NumeralStyle.display_showsTime finite positive⟩

theorem benchmark_average_threeBuilds :
    (Script.rig.benchmark .threeRuns .threeBuilds).result = .ok .threeBuilds ∧
      Report.threeBuilds.averageSeconds.isFinite = true ∧
      Report.threeBuilds.averageSeconds.negative = false ∧
      ∃ shown, ShowsTime shown Report.threeBuilds.averageSeconds := by
  obtain ⟨_, finite, _, positive, _, _, shown, _, _, _, shows⟩ :=
    benchmark_average Script.rig .threeRuns result_threeBuilds
  exact ⟨result_threeBuilds, finite, positive, shown, shows⟩

end Rig

def Script.oneNanosecond : Script where
  clock := [.ofParts 0 0, .ofParts 0 1]

def Config.oneRun : Config where
  hostCompiler := .gcc
  architecture := .arm
  linkMode := .static
  runs := 1
  output := .ofString "out/benchmark.json"
  runs_pos := by decide
  runs_le := by decide

def Report.oneNanosecond : Report where
  averageSeconds := ⟨false, 4472406533629990549, by decide⟩
  maxKb := 0
  runs := 1
  label := "(HOSTCC, ARCH, DYNLINK)=(gcc, arm, static)"

namespace Rig

/-- The mean of a build of a nanosecond is shown with a minus in its exponent. -/
theorem minus_in_summary_oneNanosecond :
    (Script.rig.benchmark .oneRun .oneNanosecond).result = .ok .oneNanosecond ∧
      '-' ∈ (Span.renderAll false
        (Report.oneNanosecond.summary Config.oneRun.output)).toList := by
  refine ⟨ok_of_toOption (by decide +kernel), ?_⟩
  have value : Report.oneNanosecond.averageSeconds.toRat =
      Binary64.valueOf Report.oneNanosecond.averageSeconds.code := Binary64.toRat_of_nonneg rfl
  have positive : 0 < Binary64.valueOf Report.oneNanosecond.averageSeconds.code :=
    Binary64.valueOf_pos (by decide)
  have small : ¬ 10 ^ (-4 : ℤ) ≤ Binary64.valueOf Report.oneNanosecond.averageSeconds.code :=
    Decimal.pow_le_valueOf_iff.not.mpr (by decide +kernel)
  have range := And.intro positive (not_le.mp small)
  rw [← value] at range
  have shows := NumeralStyle.display_showsTime
    (show Report.oneNanosecond.averageSeconds.isFinite by decide) rfl
  obtain ⟨above, below, summary⟩ := Report.oneNanosecond.summary_time Config.oneRun.output
  have line : emphasised .green (NumeralStyle.display.write
      Report.oneNanosecond.averageSeconds) ∈ Report.oneNanosecond.summary Config.oneRun.output := by
    rw [summary, Report.metricLine_time]
    exact List.mem_append_left _ (List.mem_append_right _ (.tail _ (.head _)))
  exact Span.mem_renderAll line (shows.minus.mpr range)

end Rig

end ColdBuild
