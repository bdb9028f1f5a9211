import ColdBuild.Proofs.Rig.Actions
import ColdBuild.Proofs.Rig.Mean

/-!
# Only builds are timed

A rig keeps time if its worlds tell the time: every action may take some, reading the clock takes
none and shows the time (`Rig.KeepsTime`). Whatever a rig answers, it can be given such a clock and
any pace (`Rig.paced`). In a run that gives a report the time between the two readings of a trial is
what the trial's build took, so nothing else that takes time can be seen in the report
(`Rig.benchmark_times_builds`).
-/
namespace ColdBuild

theorem Duration.ofNanoseconds_nanoseconds (d : Duration) : ofNanoseconds d.nanoseconds = d := by
  obtain ⟨n, lt⟩ := d
  unfold ofNanoseconds
  congr
  exact Nat.min_eq_left (Nat.le_pred_of_lt lt)

def Trial.ofSpan (span peakKb : Nat) : Trial where
  elapsed := (Duration.ofNanoseconds span).seconds
  peakKb := peakKb

namespace Lap

theorem trial_eq_ofSpan (lap : Lap) : lap.trial = .ofSpan lap.time.nanoseconds lap.peakKb := by
  rw [Trial.ofSpan, Duration.ofNanoseconds_nanoseconds]
  rfl

theorem zipWith_ofSpan (laps : List Lap) :
    List.zipWith Trial.ofSpan (laps.map fun lap => lap.time.nanoseconds) (laps.map peakKb) =
      laps.map trial := by
  rw [List.zipWith_map, List.zipWith_self]
  exact List.map_congr_left fun lap _ => lap.trial_eq_ofSpan.symm

end Lap

namespace Rig

variable {σ : Type}

/-- The worlds tell the time, in nanoseconds. Actions take any time, but a clock is read at once and
shows what time it is. -/
structure KeepsTime (rig : Rig σ) (time : σ → Nat) : Prop where
  clean (config : Config) (world : σ) : time world ≤ time (rig.clean config world).2
  announce (index runs : Nat) (world : σ) : time world ≤ time (rig.announce index runs world)
  build (config : Config) (world : σ) : time world ≤ time (rig.build config world).2
  reading (world : σ) : time world ≤ time (rig.peakKb world).2
  clock (world : σ) : time (rig.now world).2 = time world
  shown (world : σ) : (rig.now world).1 = .ofNanoseconds (time world)

/-- How many nanoseconds each action takes in the world in which it is done. -/
structure Pace (σ : Type) where
  clean : σ → Nat
  announce : σ → Nat
  build : σ → Nat
  reading : σ → Nat

/-- The rig with a clock that goes on by the pace of its actions. -/
def paced (rig : Rig σ) (pace : Pace σ) : Rig (σ × Nat) where
  clean config world :=
    let (outcome, next) := rig.clean config world.1
    (outcome, next, world.2 + pace.clean world.1)
  build config world :=
    let (outcome, next) := rig.build config world.1
    (outcome, next, world.2 + pace.build world.1)
  peakKb world :=
    let (outcome, next) := rig.peakKb world.1
    (outcome, next, world.2 + pace.reading world.1)
  now world := (.ofNanoseconds world.2, world)
  announce index runs world :=
    (rig.announce index runs world.1, world.2 + pace.announce world.1)

theorem keepsTime_paced (rig : Rig σ) (pace : Pace σ) : (rig.paced pace).KeepsTime Prod.snd where
  clean _ _ := Nat.le_add_right _ _
  announce _ _ _ := Nat.le_add_right _ _
  build _ _ := Nat.le_add_right _ _
  reading _ := Nat.le_add_right _ _
  clock _ := rfl
  shown _ := rfl

def after (rig : Rig σ) (config : Config) (world : σ) : Event → σ
  | .clean _ => (rig.clean config world).2
  | .announce index runs => rig.announce index runs world
  | .clock _ => (rig.now world).2
  | .build .. => (rig.build config world).2
  | .reading _ => (rig.peakKb world).2
  | .measured .. | .teardownFailed _ => world

/-- How many nanoseconds each build among the events took. -/
def buildSpans (rig : Rig σ) (config : Config) (time : σ → Nat) : σ → List Event → List Nat
  | _, [] => []
  | world, event :: rest =>
    let next := rig.after config world event
    let others := buildSpans rig config time next rest
    if event.isBuild then (time next - time world) :: others else others

section

variable {rig : Rig σ} {config : Config} {time : σ → Nat} {world next final : σ} {event : Event}
  {rest : List Event}

theorem Step.eq_after (step : rig.Step config world event next) :
    next = rig.after config world event := by
  cases step <;> rfl

theorem Step.reading_eq {reading : Duration} (step : rig.Step config world (.clock reading) next) :
    reading = (rig.now world).1 := by
  generalize is : Event.clock reading = event at step
  cases step <;> cases is
  rfl

theorem Steps.uncons (steps : rig.Steps config world (event :: rest) final) :
    rig.Step config world event (rig.after config world event) ∧
      rig.Steps config (rig.after config world event) rest final := by
  cases steps with
  | cons first tail =>
    obtain rfl := first.eq_after
    exact ⟨first, tail⟩

namespace KeepsTime

theorem le_after (keeps : rig.KeepsTime time) (world : σ) (event : Event) :
    time world ≤ time (rig.after config world event) := by
  cases event with
  | clean outcome => exact keeps.clean config world
  | announce index runs => exact keeps.announce index runs world
  | clock reading => exact (keeps.clock world).ge
  | build arguments outcome => exact keeps.build config world
  | reading outcome => exact keeps.reading world
  | measured index runs trial => exact le_rfl
  | teardownFailed error => exact le_rfl

/-- Time does not go back. -/
theorem le_of_steps (keeps : rig.KeepsTime time) (steps : rig.Steps config world rest final) :
    time world ≤ time final := by
  induction steps with
  | nil world => exact le_rfl
  | cons first _ ih =>
    obtain rfl := first.eq_after
    exact (keeps.le_after _ _).trans ih

/-- A clock that is read while its time is in range shows exactly that time. -/
theorem nanoseconds_eq (keeps : rig.KeepsTime time) {reading : Duration}
    (step : rig.Step config world (.clock reading) next)
    (inRange : time world < (1 <<< 64) * 1000000000) : reading.nanoseconds = time world := by
  rw [step.reading_eq, keeps.shown]
  exact Nat.min_eq_left (Nat.le_pred_of_lt inRange)

theorem still (keeps : rig.KeepsTime time) {reading : Duration}
    (step : rig.Step config world (.clock reading) next) : time next = time world := by
  rw [step.eq_after]
  exact keeps.clock world

/-- The build of a completed trial took the time between the trial's two readings. -/
theorem buildSpans_allEvents (keeps : rig.KeepsTime time) {outcome : Except Error Unit}
    (laps : List Lap) (index : Nat)
    (steps : rig.Steps config world (Lap.allEvents config index laps ++ [.clean outcome]) final)
    (inRange : time final < (1 <<< 64) * 1000000000) :
    rig.buildSpans config time world (Lap.allEvents config index laps ++ [.clean outcome]) =
      laps.map fun lap => lap.time.nanoseconds := by
  induction laps generalizing index world with
  | nil => rfl
  | cons lap rest ih =>
    obtain ⟨-, announced⟩ := steps.uncons
    obtain ⟨-, prepared⟩ := announced.uncons
    obtain ⟨started, building⟩ := prepared.uncons
    obtain ⟨-, built⟩ := building.uncons
    obtain ⟨stopped, measuring⟩ := built.uncons
    obtain ⟨-, measured⟩ := measuring.uncons
    obtain ⟨-, others⟩ := measured.uncons
    have start := keeps.nanoseconds_eq started ((keeps.le_of_steps prepared).trans_lt inRange)
    have stop := keeps.nanoseconds_eq stopped ((keeps.le_of_steps built).trans_lt inRange)
    have passed : lap.time.nanoseconds = lap.stop.nanoseconds - lap.start.nanoseconds := rfl
    rw [List.map_cons, ← ih (index + 1) others, passed, start, stop, ← keeps.still started]
    rfl

/-- What the builds of a run took, next to the laps of that run. -/
theorem exists_laps (keeps : rig.KeepsTime time) {report : Report}
    (h : (rig.benchmark config world).result = .ok report)
    (inRange : time (rig.benchmark config world).world < (1 <<< 64) * 1000000000) :
    ∃ laps : List Lap, laps.length = config.runs ∧
      rig.buildSpans config time world (rig.benchmark config world).events =
        (laps.map fun lap => lap.time.nanoseconds) ∧
      (rig.benchmark config world).clocks = laps.flatMap Lap.stamps ∧
      aggregate (List.zipWith Trial.ofSpan
          (rig.buildSpans config time world (rig.benchmark config world).events)
          (rig.benchmark config world).readings) config.label = .ok report := by
  obtain ⟨laps, all, events, clocks, readings, success⟩ := benchmark_laps rig config h
  have steps := follows_benchmark rig config world
  rw [events] at steps
  have spans := keeps.buildSpans_allEvents laps 1 steps inRange
  rw [← events] at spans
  refine ⟨laps, all, spans, clocks, ?_⟩
  rw [spans, readings, Lap.zipWith_ofSpan, success]

end KeepsTime

end

/-- In a run that gives a report the exact time of each trial is what the build of that trial took,
and the report is the aggregate of the builds' times with the readings. So runs of one configuration
on any two rigs have the same report if their builds took the same times and the readings were the
same, whatever else took how long. -/
theorem benchmark_times_builds {rig : Rig σ} {config : Config} {time : σ → Nat}
    (keeps : rig.KeepsTime time) {world : σ} {report : Report}
    (h : (rig.benchmark config world).result = .ok report)
    (inRange : time (rig.benchmark config world).world < (1 <<< 64) * 1000000000) :
    ∃ spans, rig.buildSpans config time world (rig.benchmark config world).events = spans ∧
      spans.length = config.runs ∧
      (∀ i < config.runs, ∃ start stop,
        (rig.benchmark config world).clocks[2 * i]? = some start ∧
        (rig.benchmark config world).clocks[2 * i + 1]? = some stop ∧
        spans[i]? = some (stop.since start).nanoseconds) ∧
      aggregate (List.zipWith Trial.ofSpan spans (rig.benchmark config world).readings)
        config.label = .ok report ∧
      ∀ {τ : Type} (partner : Rig τ) (time' : τ → Nat) (world' : τ) (report' : Report),
        partner.KeepsTime time' →
        (partner.benchmark config world').result = .ok report' →
        time' (partner.benchmark config world').world < (1 <<< 64) * 1000000000 →
        partner.buildSpans config time' world' (partner.benchmark config world').events = spans →
        (partner.benchmark config world').readings = (rig.benchmark config world).readings →
        report' = report := by
  obtain ⟨laps, all, spans, clocks, success⟩ := keeps.exists_laps h inRange
  refine ⟨_, rfl, ?_, ?_, success, ?_⟩
  · rw [spans, List.length_map, all]
  · intro i within
    have lap : laps[i]? = some laps[i] := List.getElem?_eq_getElem (by omega)
    obtain ⟨first, second⟩ := Lap.getElem?_flatMap_stamps laps i
    refine ⟨laps[i].start, laps[i].stop, ?_, ?_, ?_⟩
    · rw [clocks, first, lap]
      rfl
    · rw [clocks, second, lap]
      rfl
    · rw [spans, List.getElem?_map, lap]
      rfl
  · intro τ partner time' world' report' keeps' h' inRange' sameSpans sameReadings
    obtain ⟨-, -, -, -, success'⟩ := keeps'.exists_laps h' inRange'
    rw [sameSpans, sameReadings] at success'
    exact Except.ok.inj (success'.symm.trans success)

end Rig

/-- Builds of one, two and three seconds on the script of `threeBuilds`, and a pace for the rest. -/
def Script.pace (clean announce reading : Nat) : Rig.Pace Script where
  clean _ := clean
  announce _ := announce
  build script := (4 - script.readings.length) * Duration.second
  reading _ := reading

namespace Rig

theorem benchmark_times_builds_threeBuilds :
    let rig := Script.rig.paced (Script.pace 0 0 0)
    let slow := Script.rig.paced (Script.pace 7000000001 250 1999999999)
    rig.KeepsTime Prod.snd ∧ slow.KeepsTime Prod.snd ∧
      (rig.benchmark .threeRuns (.threeBuilds, 0)).result = .ok .threeBuilds ∧
      (rig.benchmark .threeRuns (.threeBuilds, 0)).world.2 = 6000000000 ∧
      (slow.benchmark .threeRuns (.threeBuilds, 3)).world.2 = 40000000754 ∧
      (slow.benchmark .threeRuns (.threeBuilds, 3)).result = .ok .threeBuilds := by
  intro rig slow
  have keeps : rig.KeepsTime Prod.snd := keepsTime_paced _ _
  have keeps' : slow.KeepsTime Prod.snd := keepsTime_paced _ _
  have result : (rig.benchmark .threeRuns (.threeBuilds, 0)).result = .ok .threeBuilds :=
    ok_of_toOption (by decide +kernel)
  have final : (rig.benchmark .threeRuns (.threeBuilds, 0)).world.2 = 6000000000 := by
    decide +kernel
  have final' : (slow.benchmark .threeRuns (.threeBuilds, 3)).world.2 = 40000000754 := by
    decide +kernel
  have succeeds : (slow.benchmark .threeRuns (.threeBuilds, 3)).result.toOption.isSome := by
    decide +kernel
  obtain ⟨report, given⟩ := Option.isSome_iff_exists.mp succeeds
  have result' := ok_of_toOption given
  obtain ⟨_, rfl, -, -, -, same⟩ := benchmark_times_builds keeps result (by rw [final]; decide)
  -- that it is the same report is not computed
  obtain rfl : report = .threeBuilds :=
    same slow Prod.snd _ report keeps' result' (by rw [final']; decide) (by decide +kernel)
      (by decide +kernel)
  exact ⟨keeps, keeps', result, final, final', result'⟩

end Rig

end ColdBuild
