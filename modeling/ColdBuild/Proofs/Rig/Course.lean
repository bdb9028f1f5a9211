import ColdBuild.Benchmark
import ColdBuild.Proofs.Tally.Aggregate

/-!
# The course of a benchmark

What a run of the benchmark on any rig comes to, as plain data. A `Lap` is a completed trial, a
`Breakdown` is the point at which a trial failed, and a `Loop` is some laps that either are all
that were asked for or are followed by a breakdown. A `Course` adds the outcome of the last clean.

A course determines the events and the result of a run, without a rig and without a loop, and
every run has one (`benchmark_course`). What can be said about all runs is therefore said about
courses. `Rig.Completes` keeps the worlds as well: it lets a loop be cut after any of its laps.
-/
namespace ColdBuild

/-- A completed trial: the clock readings around its build and the memory reading after it. -/
structure Lap where
  start : Duration
  stop : Duration
  peakKb : Nat

namespace Lap

def trial (lap : Lap) : Trial where
  elapsed := (lap.stop.since lap.start).seconds
  peakKb := lap.peakKb

/-- The six actions of a completed trial, in order, all successful. -/
def actions (config : Config) (index : Nat) (lap : Lap) : List Event :=
  [.clean (.ok ()), .announce index config.runs, .clock lap.start,
    .build config.buildArguments (.ok ()), .clock lap.stop, .reading (.ok lap.peakKb)]

/-- The actions of completed trials one after another, numbered from `index` on. -/
def allActions (config : Config) : (index : Nat) → List Lap → List Event
  | _, [] => []
  | index, lap :: rest => lap.actions config index ++ allActions config (index + 1) rest

/-- The same with the report that follows each trial. -/
def allEvents (config : Config) : (index : Nat) → List Lap → List Event
  | _, [] => []
  | index, lap :: rest =>
    lap.actions config index ++ .measured index config.runs lap.trial ::
      allEvents config (index + 1) rest

section

variable {config : Config} {laps : List Lap} (all : laps.length = config.runs)
include all

theorem map_trial_ne_nil : laps.map trial ≠ [] := by
  rw [← List.length_pos_iff, List.length_map, all]
  exact config.runs_pos

/-- A configuration asks for no more trials than a tally can count. -/
theorem length_map_trial_lt : (laps.map trial).length < UInt64.size := by
  rw [List.length_map, all]
  exact Nat.lt_succ_of_le config.runs_le

/-- There is a report on as many trials as a configuration asks for. -/
theorem aggregate_map_trial (label : String) :
    aggregate (laps.map trial) label = .ok {
      averageSeconds := (Tally.empty.pushAll (laps.map trial)).elapsedTotal / .ofNat config.runs
      maxKb := (Tally.empty.pushAll (laps.map trial)).peak.maxKb
      runs := config.runs
      label } := by
  rw [aggregate_of_ne_nil (map_trial_ne_nil all) (length_map_trial_lt all), List.length_map, all]

end

end Lap

/-- Where a trial failed: its error, and the clock readings taken before. -/
inductive Breakdown where
  | clean (error : Error)
  | build (start : Duration) (error : Error)
  | reading (start stop : Duration) (error : Error)

namespace Breakdown

def error : Breakdown → Error
  | .clean error | .build _ error | .reading _ _ error => error

def actions (config : Config) (index : Nat) : Breakdown → List Event
  | .clean error => [.clean (.error error)]
  | .build start error =>
    [.clean (.ok ()), .announce index config.runs, .clock start,
      .build config.buildArguments (.error error)]
  | .reading start stop error =>
    [.clean (.ok ()), .announce index config.runs, .clock start,
      .build config.buildArguments (.ok ()), .clock stop, .reading (.error error)]

end Breakdown

/-- How a loop over so many trials went: all of them were completed, or one of them failed and
none came after it. -/
inductive Loop (trials : Nat) where
  | finished (laps : List Lap) (all : laps.length = trials)
  | broken (laps : List Lap) (breakdown : Breakdown) (fewer : laps.length < trials)

namespace Loop

variable {trials : Nat}

def laps : Loop trials → List Lap
  | .finished laps _ | .broken laps _ _ => laps

def brokenActions (config : Config) (index : Nat) : Loop trials → List Event
  | .finished _ _ => []
  | .broken laps breakdown _ => breakdown.actions config (index + laps.length)

/-- The actions of a loop whose first trial has the number `index`. -/
def actions (config : Config) (index : Nat) (loop : Loop trials) : List Event :=
  Lap.allActions config index loop.laps ++ loop.brokenActions config index

def events (config : Config) (index : Nat) (loop : Loop trials) : List Event :=
  Lap.allEvents config index loop.laps ++ loop.brokenActions config index

/-- What a loop makes of a tally. -/
def result (tally : Tally) : Loop trials → Except Error Tally
  | .finished laps _ => .ok (tally.pushAll (laps.map Lap.trial))
  | .broken _ breakdown _ => .error breakdown.error

def afterLap (lap : Lap) : Loop trials → Loop (trials + 1)
  | .finished laps all => .finished (lap :: laps) (by simp [all])
  | .broken laps breakdown fewer => .broken (lap :: laps) breakdown (by simpa using fewer)

theorem events_afterLap (config : Config) (index : Nat) (lap : Lap) (loop : Loop trials) :
    (loop.afterLap lap).events config index =
      lap.actions config index ++ .measured index config.runs lap.trial ::
        loop.events config (index + 1) := by
  cases loop with
  | finished completed all => simp [events, afterLap, laps, brokenActions, Lap.allEvents]
  | broken completed breakdown fewer =>
    have position : index + (completed.length + 1) = index + 1 + completed.length := by omega
    simp [events, afterLap, laps, brokenActions, Lap.allEvents, position]

theorem laps_afterLap (lap : Lap) (loop : Loop trials) :
    (loop.afterLap lap).laps = lap :: loop.laps := by
  cases loop with
  | finished laps all => rfl
  | broken laps breakdown fewer => rfl

theorem result_afterLap (tally : Tally) (lap : Lap) (loop : Loop trials) :
    (loop.afterLap lap).result tally = loop.result (tally.push lap.trial) := by
  cases loop with
  | finished laps all => rfl
  | broken laps breakdown fewer => rfl

end Loop

/-- How a benchmark of a configuration went. -/
structure Course (config : Config) where
  loop : Loop config.runs
  teardown : Except Error Unit

namespace Course

variable {config : Config}

/-- What the benchmark reports about its last clean: only that it failed as well. -/
def remarks (course : Course config) : List Event :=
  match course.loop, course.teardown with
  | .broken .., .error late => [.teardownFailed late]
  | _, _ => []

def events (course : Course config) : List Event :=
  course.loop.events config 1 ++ .clean course.teardown :: course.remarks

def result (course : Course config) : Except Error Report :=
  match course.loop, course.teardown with
  | .finished laps _, .ok () => aggregate (laps.map Lap.trial) config.label
  | .finished _ _, .error error => .error error
  | .broken _ breakdown _, _ => .error breakdown.error

/-- A report comes only from a loop that was finished and a last clean that went well. -/
theorem finished_of_result {course : Course config} {report : Report}
    (h : course.result = .ok report) :
    ∃ laps all, course = ⟨.finished laps all, .ok ()⟩ ∧
      aggregate (laps.map Lap.trial) config.label = .ok report := by
  obtain ⟨loop, teardown⟩ := course
  cases loop with
  | finished laps all =>
    cases teardown with
    | ok _ => exact ⟨laps, all, rfl, h⟩
    | error e => cases h
  | broken laps breakdown fewer => cases h

end Course

namespace Rig

variable {σ : Type}

section

variable {rig : Rig σ} {config : Config}

theorem cleaning_of {world : σ} {outcome : Except Error Unit}
    (h : (rig.clean config world).1 = outcome) :
    rig.cleaning config world = ⟨outcome, [.clean outcome], (rig.clean config world).2⟩ := by
  subst h
  rfl

theorem building_of {world : σ} {outcome : Except Error Unit}
    (h : (rig.build config world).1 = outcome) :
    rig.building config world =
      ⟨outcome, [.build config.buildArguments outcome], (rig.build config world).2⟩ := by
  subst h
  rfl

theorem readingPeak_of {world : σ} {outcome : Except Error Nat}
    (h : (rig.peakKb world).1 = outcome) :
    rig.readingPeak world = ⟨outcome, [.reading outcome], (rig.peakKb world).2⟩ := by
  subst h
  rfl

theorem announcing_apply (index runs : Nat) (world : σ) :
    rig.announcing index runs world =
      ⟨.ok (), [.announce index runs], rig.announce index runs world⟩ := rfl

theorem readingClock_apply (world : σ) :
    rig.readingClock world =
      ⟨.ok (rig.now world).1, [.clock (rig.now world).1], (rig.now world).2⟩ := rfl

theorem emit_apply (event : Event) (world : σ) :
    Bench.emit event world = ⟨.ok (), [event], world⟩ := rfl

end

variable (rig : Rig σ) (config : Config)

/-- Everything that one trial can do: complete, or fail at its clean, its build or its reading. -/
theorem trial_cases (index : Nat) (world : σ) :
    (∃ (lap : Lap) (after : σ), rig.trial config index world =
      ⟨.ok lap.trial, lap.actions config index, after⟩) ∨
    (∃ (breakdown : Breakdown) (after : σ), rig.trial config index world =
      ⟨.error breakdown.error, breakdown.actions config index, after⟩) := by
  unfold trial
  cases hclean : (rig.clean config world).1 with
  | error e =>
    rw [Bench.bind_error (cleaning_of hclean)]
    exact .inr ⟨.clean e, _, rfl⟩
  | ok _ =>
    rw [Bench.bind_ok (cleaning_of hclean), Bench.bind_ok (announcing_apply _ _ _),
      Bench.bind_ok (readingClock_apply _)]
    generalize rig.announce index config.runs (rig.clean config world).2 = announced
    generalize (rig.now announced).1 = start
    generalize (rig.now announced).2 = started
    cases hbuild : (rig.build config started).1 with
    | error e =>
      rw [Bench.bind_error (building_of hbuild)]
      exact .inr ⟨.build start e, _, rfl⟩
    | ok _ =>
      rw [Bench.bind_ok (building_of hbuild), Bench.bind_ok (readingClock_apply _)]
      generalize (rig.now (rig.build config started).2).1 = stop
      generalize (rig.now (rig.build config started).2).2 = stopped
      cases hpeak : (rig.peakKb stopped).1 with
      | error e =>
        rw [Bench.bind_error (readingPeak_of hpeak)]
        exact .inr ⟨.reading start stop e, _, rfl⟩
      | ok peakKb =>
        rw [Bench.bind_ok (readingPeak_of hpeak)]
        exact .inl ⟨⟨start, stop, peakKb⟩, _, rfl⟩

/-- Trials that were completed, each from the world that the one before it left. -/
inductive Completes : (index : Nat) → σ → List Lap → σ → Prop where
  | nil (index : Nat) (world : σ) : Completes index world [] world
  | cons {index : Nat} {world middle after : σ} {lap : Lap} {rest : List Lap}
      (first : rig.trial config index world =
        ⟨.ok lap.trial, lap.actions config index, middle⟩)
      (tail : Completes (index + 1) middle rest after) : Completes index world (lap :: rest) after

variable {rig config}

/-- A part of completed trials is complete. -/
theorem Completes.take {index : Nat} {world after : σ} {laps : List Lap}
    (completes : rig.Completes config index world laps after) (k : Nat) :
    ∃ middle, rig.Completes config index world (laps.take k) middle := by
  induction completes generalizing k with
  | nil index world => exact ⟨world, by rw [List.take_nil]; exact .nil index world⟩
  | @cons index world middle after lap rest first tail ih =>
    cases k with
    | zero => exact ⟨world, .nil index world⟩
    | succ k =>
      obtain ⟨final, tail⟩ := ih k
      exact ⟨final, .cons first tail⟩

/-- After completed trials the loop goes on with the trials that are left, with a tally that has
taken in exactly the completed ones. -/
theorem Completes.trials {index : Nat} {world after : σ} {laps : List Lap}
    (completes : rig.Completes config index world laps after) (remaining : Nat) (tally : Tally) :
    rig.trials config (laps.length + remaining) index tally world =
      (let rest := rig.trials config remaining (index + laps.length)
        (tally.pushAll (laps.map Lap.trial)) after
      ⟨rest.result, Lap.allEvents config index laps ++ rest.events, rest.world⟩) := by
  induction completes generalizing tally with
  | nil index world =>
    rw [List.length_nil, Nat.zero_add]
    rfl
  | @cons index world middle after lap rest first tail ih =>
    have length : (lap :: rest).length + remaining = rest.length + remaining + 1 := by
      rw [List.length_cons]
      omega
    have position : index + (lap :: rest).length = index + 1 + rest.length := by
      rw [List.length_cons]
      omega
    rw [length, position, Rig.trials, Bench.bind_ok first, Bench.bind_ok (emit_apply _ _), ih]
    simp [Lap.allEvents, Tally.pushAll_cons]

variable (rig config)

/-- Every loop of trials has a course, however far it gets. -/
theorem trials_loop (remaining index : Nat) (tally : Tally) (world : σ) :
    ∃ (loop : Loop remaining) (middle after : σ),
      rig.Completes config index world loop.laps middle ∧
      rig.trials config remaining index tally world =
        ⟨loop.result tally, loop.events config index, after⟩ := by
  induction remaining generalizing index tally world with
  | zero => exact ⟨.finished [] rfl, world, world, .nil index world, rfl⟩
  | succ remaining ih =>
    unfold trials
    rcases trial_cases rig config index world with
      ⟨lap, after, completed⟩ | ⟨breakdown, after, failed⟩
    · obtain ⟨loop, middle, final, completes, rest⟩ :=
        ih (index + 1) (tally.push lap.trial) after
      refine ⟨loop.afterLap lap, middle, final, loop.laps_afterLap lap ▸ .cons completed completes,
        ?_⟩
      rw [Bench.bind_ok completed, Bench.bind_ok (emit_apply _ _), rest, Loop.events_afterLap,
        Loop.result_afterLap]
      rfl
    · refine ⟨.broken [] breakdown (Nat.succ_pos remaining), world, after, .nil index world, ?_⟩
      rw [Bench.bind_error failed]
      rfl

/-- Every run of a benchmark has a course, whatever the rig answers. -/
theorem benchmark_course (world : σ) :
    ∃ (course : Course config) (middle : σ),
      rig.Completes config 1 world course.loop.laps middle ∧
      (rig.benchmark config world).events = course.events ∧
      (rig.benchmark config world).result = course.result := by
  obtain ⟨loop, middle, measured, completes, trials⟩ :=
    trials_loop rig config config.runs 1 .empty world
  refine ⟨⟨loop, (rig.clean config measured).1⟩, middle, completes, ?_⟩
  unfold benchmark
  rw [trials]
  dsimp only
  cases hlast : (rig.clean config measured).1 with
  | ok _ =>
    rw [cleaning_of hlast]
    cases loop with
    | finished laps all => exact ⟨rfl, rfl⟩
    | broken laps breakdown fewer => exact ⟨rfl, rfl⟩
  | error late =>
    rw [cleaning_of hlast]
    cases loop with
    | finished laps all => exact ⟨rfl, rfl⟩
    | broken laps breakdown fewer =>
      exact ⟨by simp [Course.events, Course.remarks, Loop.result], rfl⟩

end Rig

end ColdBuild
