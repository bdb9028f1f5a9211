import ColdBuild.Host
import ColdBuild.Proofs.Decimal.Fixed
import ColdBuild.Proofs.Duration.Order
import ColdBuild.Proofs.Rig.Failure
import ColdBuild.Proofs.Rig.Peak

/-!
# What is logged about the trials

A run logs at level info what it measured, and nothing else: one record for each completed trial, in
order (`Course.infos_events`). A record stands between the memory reading of its trial and the clean
that comes next (`Course.around_record`), and so it cannot be that of a trial that failed. Its time
is rounded to three places, which keeps the order of times. Its memory figure is the reading itself,
which is the running maximum of the tally too if readings never drop.
-/
namespace ColdBuild

def Event.infos (events : List Event) : List LogRecord :=
  (events.filterMap record?).filter (·.level = .info)

theorem Event.infos_append (xs ys : List Event) : infos (xs ++ ys) = infos xs ++ infos ys := by
  rw [infos, List.filterMap_append, List.filter_append]
  rfl

open Event (infos infos_append)

/-- The records of a build tool about its commands are not at that level. -/
theorem BuildTool.infos_records (tool : BuildTool) (events : List Event) :
    (events.flatMap tool.records).filter (·.level = .info) = infos events := by
  induction events with
  | nil => rfl
  | cons event rest ih =>
    have first : (tool.records event).filter (·.level = .info) = infos [event] := by
      cases event <;> rfl
    rw [List.flatMap_cons, List.filter_append, first, ih, ← infos_append, List.singleton_append]

namespace Lap

variable {config : Config}

def record (config : Config) (index : Nat) (lap : Lap) : LogRecord where
  level := .info
  target := Event.target
  message :=
    s!"trial {index}/{config.runs}: {lap.time.seconds.fixed 3}s, peak RSS so far {lap.peakKb} KB"

theorem infos_allEvents (config : Config) (index : Nat) (laps : List Lap) :
    infos (allEvents config index laps) =
      laps.mapIdx fun i lap => lap.record config (index + i) := by
  induction laps generalizing index with
  | nil => rfl
  | cons lap rest ih =>
    rw [allEvents, infos_append, List.mapIdx_cons]
    change lap.record config index :: infos (allEvents config (index + 1) rest) = _
    rw [ih (index + 1)]
    simp only [Nat.add_assoc, Nat.add_comm 1, Nat.add_zero]

theorem allEvents_append (config : Config) (index : Nat) (xs ys : List Lap) :
    allEvents config index (xs ++ ys) =
      allEvents config index xs ++ allEvents config (index + xs.length) ys := by
  induction xs generalizing index with
  | nil => rfl
  | cons lap rest ih =>
    rw [List.cons_append, allEvents, allEvents, ih, List.length_cons, List.append_assoc,
      List.cons_append]
    congr 4
    omega

theorem not_isFailure_of_mem_allEvents {index : Nat} {laps : List Lap} {event : Event}
    (mem : event ∈ allEvents config index laps) : event.isFailure = false := by
  by_contra failed
  have failure : event.isFailure = true := by simpa using failed
  have action : event ∈ (allEvents config index laps).filter Event.isAction :=
    List.mem_filter.mpr ⟨mem, Event.isAction_of_isFailure failure⟩
  rw [filter_allEvents] at action
  rw [not_isFailure_of_mem action] at failure
  cases failure

/-- If readings never drop, each of them is the peak of a tally that has taken in the trials so
far. -/
theorem getElem?_readings {laps : List Lap} (ascending : (laps.map Lap.peakKb).Pairwise (· ≤ ·))
    {i : Nat} (within : i < laps.length) :
    (laps.map Lap.peakKb)[i]? =
      some (Tally.empty.pushAll ((laps.map Lap.trial).take (i + 1))).peak.maxKb := by
  have isPeak := Tally.isPeak_empty_pushAll ((laps.map Lap.trial).take (i + 1))
  have readings : ((laps.map Lap.trial).take (i + 1)).map Trial.peakKb =
      (laps.map Lap.peakKb).take (i + 1) := by
    rw [List.map_take, List.map_map]
    rfl
  have length : ((laps.map Lap.peakKb).take (i + 1)).length = i + 1 := by
    rw [List.length_take, List.length_map]
    omega
  rw [readings] at isPeak
  have last := isPeak.getLast? (List.length_pos_iff.mp (by omega)) (ascending.take)
  rwa [List.getLast?_eq_getElem?, length, Nat.add_sub_cancel, List.getElem?_take_of_lt
    (Nat.lt_succ_self i)] at last

end Lap

theorem Loop.length_laps_le {trials : Nat} (loop : Loop trials) : loop.laps.length ≤ trials := by
  cases loop with
  | finished laps all => exact all.le
  | broken laps breakdown fewer => exact fewer.le

namespace Course

variable {config : Config}

/-- What comes after the completed trials: the one that failed, if there is one, and the last
clean. -/
def ending (course : Course config) : List Event :=
  course.loop.brokenActions config 1 ++ .clean course.teardown :: course.remarks

theorem events_eq (course : Course config) :
    course.events = Lap.allEvents config 1 course.loop.laps ++ course.ending := by
  rw [events, Loop.events, ending, List.append_assoc]

/-- It begins with a clean, has no memory reading that went well and logs nothing at level info. -/
theorem ending_spec (course : Course config) :
    (∃ outcome rest, course.ending = .clean outcome :: rest) ∧
      course.ending.filterMap Event.peakReading? = [] ∧ infos course.ending = [] := by
  obtain ⟨loop, teardown⟩ := course
  cases loop with
  | finished laps all => cases teardown <;> exact ⟨⟨_, _, rfl⟩, rfl, rfl⟩
  | broken laps breakdown fewer =>
    cases breakdown <;> cases teardown <;> exact ⟨⟨_, _, rfl⟩, rfl, rfl⟩

theorem infos_events (course : Course config) :
    infos course.events = course.loop.laps.mapIdx fun i lap => lap.record config (i + 1) := by
  rw [events_eq, infos_append, course.ending_spec.2.2, List.append_nil, Lap.infos_allEvents]
  simp only [Nat.add_comm 1]

theorem readings_events (course : Course config) :
    course.events.filterMap Event.peakReading? = course.loop.laps.map Lap.peakKb := by
  rw [events_eq, List.filterMap_append, course.ending_spec.2.1, List.append_nil,
    Lap.peakReadings_allEvents]

/-- The stamps of the completed trials come before any other clock reading. -/
theorem exists_clocks_eq (course : Course config) :
    ∃ further, course.events.filterMap Event.clockReading? =
      course.loop.laps.flatMap Lap.stamps ++ further := by
  refine ⟨course.ending.filterMap Event.clockReading?, ?_⟩
  rw [events_eq, List.filterMap_append, Lap.clockReadings_allEvents]

/-- What completed trials are followed by begins with a clean. -/
theorem exists_clean (course : Course config) (index : Nat) (laps : List Lap) :
    ∃ outcome rest, Lap.allEvents config index laps ++ course.ending = .clean outcome :: rest := by
  cases laps with
  | nil => exact course.ending_spec.1
  | cons lap rest => exact ⟨_, _, rfl⟩

/-- What stands around the record of a completed trial. In front of the trial's own reading there
are as many readings and records as completed trials. -/
theorem around_record (course : Course config) {i : Nat} {lap : Lap}
    (isLap : course.loop.laps[i]? = some lap) :
    ∃ front outcome back,
      course.events = front ++ .reading (.ok lap.peakKb) ::
        .measured (i + 1) config.runs lap.trial :: .clean outcome :: back ∧
      (front.filterMap Event.peakReading?).length = i ∧ (infos front).length = i := by
  obtain ⟨within, rfl⟩ := List.getElem?_eq_some_iff.mp isLap
  have parts : course.loop.laps = course.loop.laps.take i ++
      course.loop.laps[i] :: course.loop.laps.drop (i + 1) := by
    rw [← List.drop_eq_getElem_cons within, List.take_append_drop]
  have count : (course.loop.laps.take i).length = i := by
    rw [List.length_take]
    omega
  generalize course.loop.laps[i] = lap at parts
  generalize course.loop.laps.take i = before at parts count
  obtain ⟨outcome, back, next⟩ :=
    course.exists_clean (1 + before.length + 1) (course.loop.laps.drop (i + 1))
  refine ⟨Lap.allEvents config 1 before ++ [.clean (.ok ()), .announce (1 + i) config.runs,
    .clock lap.start, .build config.buildArguments (.ok ()), .clock lap.stop], outcome, back,
    ?_, ?_, ?_⟩
  · rw [events_eq, parts, Lap.allEvents_append, List.append_assoc, Lap.allEvents, ← next, count]
    simp [Lap.actions, Nat.add_comm 1]
  · rw [List.filterMap_append, Lap.peakReadings_allEvents, List.length_append, List.length_map,
      count]
    rfl
  · rw [infos_append, Lap.infos_allEvents, List.length_append, List.length_mapIdx, count]
    rfl

/-- The completed trial at a position: its stamps, its reading, its record, and where that is. -/
theorem logged_trial (course : Course config) {i : Nat} (within : i < course.loop.laps.length) :
    ∃ start stop time kb front outcome back,
      (course.events.filterMap Event.clockReading?)[2 * i]? = some start ∧
      (course.events.filterMap Event.clockReading?)[2 * i + 1]? = some stop ∧
      time = stop.since start ∧ (course.events.filterMap Event.peakReading?)[i]? = some kb ∧
      (course.loop.laps.map Lap.trial)[i]? = some { elapsed := time.seconds, peakKb := kb } ∧
      (infos course.events)[i]? = some {
        level := .info
        target := "shecc_bench::runner"
        message :=
          s!"trial {i + 1}/{config.runs}: {time.seconds.fixed 3}s, peak RSS so far {kb} KB" } ∧
      course.events = front ++ .reading (.ok kb) ::
        .measured (i + 1) config.runs { elapsed := time.seconds, peakKb := kb } ::
        .clean outcome :: back ∧
      (front.filterMap Event.peakReading?).length = i ∧ (infos front).length = i := by
  obtain ⟨lap, isLap⟩ : ∃ lap, course.loop.laps[i]? = some lap :=
    ⟨_, List.getElem?_eq_getElem within⟩
  obtain ⟨front, outcome, back, around, before, logged⟩ := course.around_record isLap
  obtain ⟨further, clocks⟩ := course.exists_clocks_eq
  obtain ⟨first, second⟩ := Lap.getElem?_flatMap_stamps course.loop.laps i
  have stamps := Lap.length_flatMap_stamps course.loop.laps
  refine ⟨lap.start, lap.stop, lap.time, lap.peakKb, front, outcome, back, ?_, ?_, rfl, ?_, ?_, ?_,
    around, before, logged⟩
  · rw [clocks, List.getElem?_append_left (by omega), first, isLap]
    rfl
  · rw [clocks, List.getElem?_append_left (by omega), second, isLap]
    rfl
  · rw [readings_events, List.getElem?_map, isLap]
    rfl
  · rw [List.getElem?_map, isLap]
    rfl
  · rw [infos_events, List.getElem?_mapIdx, isLap]
    rfl

/-- After an action that failed nothing is logged at level info. -/
theorem infos_after_failure (course : Course config) {front back : List Event} {failed : Event}
    (h : course.events = front ++ failed :: back) (failure : failed.isFailure = true) :
    infos back = [] := by
  have none := course.ending_spec.2.2
  rw [events_eq] at h
  rcases List.append_eq_append_iff.mp h with ⟨middle, -, rest⟩ | ⟨middle, laps, rest⟩
  · rw [rest, infos_append, List.append_eq_nil_iff] at none
    exact (List.append_eq_nil_iff.mp (infos_append [failed] back ▸ none.2)).2
  · cases middle with
    | nil =>
      rw [← List.nil_append course.ending, ← rest, ← List.singleton_append, infos_append,
        List.append_eq_nil_iff] at none
      exact none.2
    | cons event middle =>
      obtain ⟨rfl, -⟩ := List.cons.inj rest
      have mem : failed ∈ Lap.allEvents config 1 course.loop.laps := by simp [laps]
      rw [Lap.not_isFailure_of_mem_allEvents mem] at failure
      cases failure

end Course

/-- The texts of times in records: numerals with three digits after the point, nearest to the exact
time, and in the order of the times. -/
theorem Duration.read?_fixed (time : Duration) :
    Numeral.read? (time.seconds.fixed 3).toList = some (time.seconds.fixedNumeral 3, []) ∧
      (time.seconds.fixedNumeral 3).IsRounded 3 time.seconds.toRat :=
  Binary64.read?_fixed (Binary64.isFinite_iff.mpr time.seconds_within.finite) (by decide)

theorem Duration.toRat_fixedNumeral_mono {time time' : Duration}
    (le : time.seconds ≤ time'.seconds) :
    (time.seconds.fixedNumeral 3).toRat ≤ (time'.seconds.fixedNumeral 3).toRat :=
  Binary64.toRat_fixedNumeral_mono (by decide)
    (Binary64.isFinite_iff.mpr time.seconds_within.finite)
    (Binary64.isFinite_iff.mpr time'.seconds_within.finite) le

namespace Rig

variable {σ : Type} (rig : Rig σ) (config : Config)

variable {rig config}

/-- If readings never drop, each of them is the peak in the loop's tally after its trial. -/
theorem Completes.getElem?_readings {world after : σ} {laps : List Lap}
    (completes : rig.Completes config 1 world laps after)
    (ascending : (laps.map Lap.peakKb).Pairwise (· ≤ ·)) {i : Nat} (within : i < laps.length) :
    ∃ tally events middle,
      rig.trials config (i + 1) 1 .empty world = ⟨.ok tally, events, middle⟩ ∧
      tally = Tally.empty.pushAll ((laps.map Lap.trial).take (i + 1)) ∧
      (laps.map Lap.peakKb)[i]? = some tally.peak.maxKb := by
  obtain ⟨middle, part⟩ := completes.take (i + 1)
  have stopped := part.trials 0 .empty
  rw [List.length_take, Nat.min_eq_left within, Nat.add_zero, List.map_take] at stopped
  exact ⟨_, _, middle, stopped, rfl, Lap.getElem?_readings ascending within⟩

variable (rig config)

/-- The events of a run are the rig's own steps. The records at level info among them are exactly
one for each completed trial, in order, whatever tool the builds are made with. The one with number
`i` comes directly after the reading of its own trial and directly before the next clean, and after
a failure there is none. It names the number of its trial, that of all trials, the trial's own
reading, and its time with three places, rounded to nearest and to the even digit; a time that is
not greater is not shown as a greater one. If the readings of the run never drop, the reading in
each record is the peak in the loop's tally after that trial, and the last one is the peak in the
report. -/
theorem benchmark_log (world : σ) :
    rig.Steps config world (rig.benchmark config world).events
        (rig.benchmark config world).world ∧
    ∃ trials : List Trial,
      trials.length ≤ config.runs ∧
      (rig.benchmark config world).readings.length = trials.length ∧
      (infos (rig.benchmark config world).events).length = trials.length ∧
      (∀ tool : BuildTool,
        ((rig.benchmark config world).events.flatMap tool.records).filter (·.level = .info) =
          infos (rig.benchmark config world).events) ∧
      (∀ i < trials.length, ∃ start stop time kb front outcome back,
        (rig.benchmark config world).clocks[2 * i]? = some start ∧
        (rig.benchmark config world).clocks[2 * i + 1]? = some stop ∧ time = stop.since start ∧
        (rig.benchmark config world).readings[i]? = some kb ∧
        trials[i]? = some { elapsed := time.seconds, peakKb := kb } ∧
        (infos (rig.benchmark config world).events)[i]? = some {
          level := .info
          target := "shecc_bench::runner"
          message :=
            s!"trial {i + 1}/{config.runs}: {time.seconds.fixed 3}s, peak RSS so far {kb} KB" } ∧
        (rig.benchmark config world).events = front ++ .reading (.ok kb) ::
          .measured (i + 1) config.runs { elapsed := time.seconds, peakKb := kb } ::
          .clean outcome :: back ∧
        (front.filterMap Event.peakReading?).length = i ∧ (infos front).length = i) ∧
      (∀ front failed back, (rig.benchmark config world).events = front ++ failed :: back →
        failed.isFailure = true → infos back = []) ∧
      (∀ time : Duration, ∃ n, Numeral.read? (time.seconds.fixed 3).toList = some (n, []) ∧
        n.negative = false ∧ n.IsRounded 3 time.seconds.toRat) ∧
      (∀ (time time' : Duration) n n', Numeral.read? (time.seconds.fixed 3).toList = some (n, []) →
        Numeral.read? (time'.seconds.fixed 3).toList = some (n', []) →
        time.seconds ≤ time'.seconds → n.toRat ≤ n'.toRat) ∧
      ((rig.benchmark config world).readings.Pairwise (· ≤ ·) →
        (∀ i < trials.length, ∃ tally events middle,
          rig.trials config (i + 1) 1 .empty world = ⟨.ok tally, events, middle⟩ ∧
          tally = Tally.empty.pushAll (trials.take (i + 1)) ∧
          (rig.benchmark config world).readings[i]? = some tally.peak.maxKb) ∧
        ∀ report, (rig.benchmark config world).result = .ok report →
          (rig.benchmark config world).readings.getLast? = some report.maxKb) := by
  obtain ⟨course, _, completes, events, -⟩ := benchmark_course rig config world
  have readings : (rig.benchmark config world).readings = course.loop.laps.map Lap.peakKb := by
    rw [Outcome.readings, events, course.readings_events]
  refine ⟨follows_benchmark rig config world, course.loop.laps.map Lap.trial, ?_, ?_, ?_,
    fun tool => tool.infos_records _, ?_, ?_, ?_, ?_, ?_⟩
  · rw [List.length_map]
    exact course.loop.length_laps_le
  · rw [readings, List.length_map, List.length_map]
  · rw [events, course.infos_events, List.length_mapIdx, List.length_map]
  · intro i within
    rw [List.length_map] at within
    rw [Outcome.clocks, Outcome.readings, events]
    exact course.logged_trial within
  · intro front failed back split failure
    exact course.infos_after_failure (events ▸ split) failure
  · intro time
    obtain ⟨read, rounded⟩ := time.read?_fixed
    have sign := Binary64.negative_fixedNumeral 3 time.seconds
    exact ⟨_, read, sign.trans time.seconds_within.nonneg, rounded⟩
  · intro time time' n n' read read' le
    rw [time.read?_fixed.1, Option.some_inj, Prod.mk.injEq] at read
    rw [time'.read?_fixed.1, Option.some_inj, Prod.mk.injEq] at read'
    rw [← read.1, ← read'.1]
    exact Duration.toRat_fixedNumeral_mono le
  · intro ascending
    refine ⟨fun i within => ?_, fun report h => getLast?_readings rig config h ascending⟩
    rw [List.length_map] at within
    rw [readings] at ascending ⊢
    exact completes.getElem?_readings ascending within

theorem benchmark_log_threeSlowerBuilds :
    (Script.rig.benchmark .threeRuns .threeSlowerBuilds).readings.Pairwise (· ≤ ·) ∧
      (infos (Script.rig.benchmark .threeRuns .threeSlowerBuilds).events).length = 3 ∧
      ∃ tally events middle,
        Script.rig.trials .threeRuns 2 1 .empty .threeSlowerBuilds = ⟨.ok tally, events, middle⟩ ∧
        tally.peak.maxKb = 1600 := by
  have readings : (Script.rig.benchmark .threeRuns .threeSlowerBuilds).readings =
      [1000, 1600, 1600] := by decide +kernel
  have ascending :
      (Script.rig.benchmark .threeRuns .threeSlowerBuilds).readings.Pairwise (· ≤ ·) := by
    rw [readings]
    decide
  obtain ⟨-, trials, -, length, logged, -, -, -, -, -, running⟩ :=
    benchmark_log Script.rig .threeRuns .threeSlowerBuilds
  have three : trials.length = 3 := by rw [← length, readings, List.length_cons]; rfl
  obtain ⟨tally, events, middle, stopped, -, figure⟩ := (running ascending).1 1 (by omega)
  rw [readings] at figure
  exact ⟨ascending, logged.trans three, tally, events, middle, stopped,
    (Option.some.inj figure).symm⟩

end Rig

end ColdBuild
