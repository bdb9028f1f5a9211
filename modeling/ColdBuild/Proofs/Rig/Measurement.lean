import ColdBuild.Proofs.Rig.Course
import ColdBuild.Proofs.Rig.Steps
import ColdBuild.Rig.Script

/-!
# What a report is made of

A benchmark interleaves three streams: two clock readings a trial, one memory reading a trial, and
the outcomes of cleans and builds. It folds the trials as they arrive. The report of a run that
gives one is the batch aggregate of trials that pair exactly the right entries of the first two
streams, and after every number of trials the loop's tally is the tally of just these.
-/
namespace ColdBuild

namespace Event

def clockReading? : Event → Option Duration
  | .clock time => some time
  | _ => none

/-- The memory reading of an action that gave one. -/
def peakReading? : Event → Option Nat
  | .reading (.ok peakKb) => some peakKb
  | _ => none

end Event

namespace Outcome

variable {σ α : Type}

def clocks (outcome : Outcome σ α) : List Duration := outcome.events.filterMap Event.clockReading?

def readings (outcome : Outcome σ α) : List Nat := outcome.events.filterMap Event.peakReading?

end Outcome

namespace Lap

/-- The clock readings of a completed trial. -/
def stamps (lap : Lap) : List Duration := [lap.start, lap.stop]

theorem clockReadings_allEvents (config : Config) (index : Nat) (laps : List Lap) :
    (allEvents config index laps).filterMap Event.clockReading? = laps.flatMap stamps := by
  induction laps generalizing index with
  | nil => rfl
  | cons lap rest ih =>
    rw [allEvents, List.filterMap_append, List.flatMap_cons, ← ih (index + 1)]
    rfl

theorem peakReadings_allEvents (config : Config) (index : Nat) (laps : List Lap) :
    (allEvents config index laps).filterMap Event.peakReading? = laps.map peakKb := by
  induction laps generalizing index with
  | nil => rfl
  | cons lap rest ih =>
    rw [allEvents, List.filterMap_append, List.map_cons, ← ih (index + 1)]
    rfl

theorem length_flatMap_stamps (laps : List Lap) :
    (laps.flatMap stamps).length = 2 * laps.length := by
  induction laps with
  | nil => rfl
  | cons lap rest ih =>
    rw [List.flatMap_cons, List.length_append, ih, List.length_cons, Nat.mul_succ, Nat.add_comm]
    rfl

/-- The stamps of a trial stand at twice its position. -/
theorem getElem?_flatMap_stamps (laps : List Lap) (i : Nat) :
    (laps.flatMap stamps)[2 * i]? = laps[i]?.map start ∧
      (laps.flatMap stamps)[2 * i + 1]? = laps[i]?.map stop := by
  induction laps generalizing i with
  | nil => simp
  | cons lap rest ih =>
    cases i with
    | zero => exact ⟨rfl, rfl⟩
    | succ i =>
      rw [show 2 * (i + 1) = 2 * i + 1 + 1 by omega]
      exact ih i

end Lap

namespace Course

variable {config : Config}

theorem events_finished {laps : List Lap} (all : laps.length = config.runs) :
    (⟨.finished laps all, .ok ()⟩ : Course config).events =
      Lap.allEvents config 1 laps ++ [.clean (.ok ())] := by
  simp [events, Loop.events, Loop.laps, Loop.brokenActions, remarks]

end Course

namespace Rig

variable {σ : Type} (rig : Rig σ) (config : Config)

/-- A run that gives a report consists of laps: the clock readings are their stamps, the memory
readings their peaks, and the report is the aggregate of their trials. -/
theorem benchmark_laps {world : σ} {report : Report}
    (h : (rig.benchmark config world).result = .ok report) :
    ∃ laps : List Lap, laps.length = config.runs ∧
      (rig.benchmark config world).events = Lap.allEvents config 1 laps ++ [.clean (.ok ())] ∧
      (rig.benchmark config world).clocks = laps.flatMap Lap.stamps ∧
      (rig.benchmark config world).readings = laps.map Lap.peakKb ∧
      aggregate (laps.map Lap.trial) config.label = .ok report := by
  obtain ⟨course, _, -, events, result⟩ := benchmark_course rig config world
  obtain ⟨laps, all, rfl, success⟩ := Course.finished_of_result (result ▸ h)
  rw [Course.events_finished] at events
  refine ⟨laps, all, events, ?_, ?_, success⟩
  · rw [Outcome.clocks, events, List.filterMap_append, Lap.clockReadings_allEvents]
    exact List.append_nil _
  · rw [Outcome.readings, events, List.filterMap_append, Lap.peakReadings_allEvents]
    exact List.append_nil _

/-- The report of a run is the batch aggregate of as many trials as were asked for. The trial at
each position is made of the two clock readings at twice the position and of the memory reading at
the position itself, among the rig's answers in that run. After any number of trials the loop holds
the tally of those, its counter is their number, and it goes on from there to the same end. -/
theorem benchmark_report {world : σ} {report : Report}
    (h : (rig.benchmark config world).result = .ok report) :
    ∃ trials : List Trial,
      aggregate trials config.label = .ok report ∧
      trials.length = config.runs ∧ report.runs = config.runs ∧
      rig.Steps config world (rig.benchmark config world).events
        (rig.benchmark config world).world ∧
      (rig.benchmark config world).clocks.length = 2 * config.runs ∧
      (rig.benchmark config world).readings.length = config.runs ∧
      (∀ i < config.runs, ∃ start stop peakKb,
        (rig.benchmark config world).clocks[2 * i]? = some start ∧
        (rig.benchmark config world).clocks[2 * i + 1]? = some stop ∧
        (rig.benchmark config world).readings[i]? = some peakKb ∧
        trials[i]? = some { elapsed := (stop.since start).seconds, peakKb }) ∧
      (∀ done left, done + left = config.runs → ∃ tally events middle,
        rig.trials config done 1 .empty world = ⟨.ok tally, events, middle⟩ ∧
        tally = Tally.empty.pushAll (trials.take done) ∧
        tally.trials.toNat = done ∧ done < 1 <<< 64 ∧
        (rig.trials config config.runs 1 .empty world).result =
          (rig.trials config left (1 + done) tally middle).result) := by
  obtain ⟨course, _, completes, events, result⟩ := benchmark_course rig config world
  obtain ⟨laps, all, rfl, success⟩ := Course.finished_of_result (result ▸ h)
  have clocks : (rig.benchmark config world).clocks = laps.flatMap Lap.stamps := by
    rw [Outcome.clocks, events, Course.events_finished, List.filterMap_append,
      Lap.clockReadings_allEvents]
    exact List.append_nil _
  have readings : (rig.benchmark config world).readings = laps.map Lap.peakKb := by
    rw [Outcome.readings, events, Course.events_finished, List.filterMap_append,
      Lap.peakReadings_allEvents]
    exact List.append_nil _
  refine ⟨laps.map Lap.trial, success, ?_, ?_, follows_benchmark rig config world, ?_, ?_, ?_, ?_⟩
  · rw [List.length_map, all]
  · cases success.symm.trans (Lap.aggregate_map_trial all config.label)
    rfl
  · rw [clocks, Lap.length_flatMap_stamps, all]
  · rw [readings, List.length_map, all]
  · intro i within
    have lap : laps[i]? = some laps[i] := List.getElem?_eq_getElem (by omega)
    obtain ⟨first, second⟩ := Lap.getElem?_flatMap_stamps laps i
    refine ⟨laps[i].start, laps[i].stop, laps[i].peakKb, ?_, ?_, ?_, ?_⟩
    · rw [clocks, first, lap]
      rfl
    · rw [clocks, second, lap]
      rfl
    · rw [readings, List.getElem?_map, lap]
      rfl
    · rw [List.getElem?_map, lap]
      rfl
  · intro done left whole
    obtain ⟨middle, part⟩ : ∃ middle, rig.Completes config 1 world (laps.take done) middle :=
      completes.take done
    have length : (laps.take done).length = done := by
      rw [List.length_take]
      omega
    have stopped := part.trials 0 .empty
    have continued := part.trials left .empty
    rw [length, Nat.add_zero] at stopped
    rw [length, whole] at continued
    have limit := config.runs_le
    have few : ((laps.take done).map Lap.trial).length < UInt64.size := by
      rw [List.length_map, length]
      exact Nat.lt_succ_of_le (by omega)
    have count := Tally.toNat_trials_pushAll few
    rw [List.length_map, length] at count
    refine ⟨_, _, middle, stopped, ?_, count, by omega, ?_⟩
    · rw [List.map_take]
    · rw [continued]

end Rig

/-- Three builds, of one, two and three seconds. -/
def Script.threeBuilds : Script where
  readings := [.ok 1000, .ok 1500, .ok 1200]
  clock := [.ofParts 0 0, .ofParts 1 0, .ofParts 10 0, .ofParts 12 0, .ofParts 20 0, .ofParts 23 0]

def Config.threeRuns : Config where
  hostCompiler := .gcc
  architecture := .arm
  linkMode := .static
  runs := 3
  output := .ofString "out/benchmark.json"
  runs_pos := by decide
  runs_le := by decide

def Report.threeBuilds : Report where
  averageSeconds := .ofNat 2
  maxKb := 1500
  runs := 3
  label := "(HOSTCC, ARCH, DYNLINK)=(gcc, arm, static)"

namespace Rig

/-- Errors cannot be compared by evaluation as fast as reports can. -/
theorem ok_of_toOption {result : Except Error Report} {report : Report}
    (h : result.toOption = some report) : result = .ok report := by
  cases result with
  | error e => cases h
  | ok found =>
    cases h
    rfl

theorem result_threeBuilds :
    (Script.rig.benchmark .threeRuns .threeBuilds).result = .ok .threeBuilds :=
  ok_of_toOption (by decide +kernel)

theorem benchmark_report_threeBuilds :
    (Script.rig.benchmark .threeRuns .threeBuilds).result = .ok .threeBuilds ∧
      ∃ trials : List Trial,
        aggregate trials Config.threeRuns.label = .ok .threeBuilds ∧ trials.length = 3 ∧
        (Script.rig.benchmark .threeRuns .threeBuilds).clocks.length = 6 := by
  obtain ⟨trials, mean, length, _, _, clocks, _⟩ :=
    benchmark_report Script.rig .threeRuns result_threeBuilds
  exact ⟨result_threeBuilds, trials, mean, length, clocks⟩

end Rig

end ColdBuild
