import ColdBuild.Proofs.Rig.Actions
import ColdBuild.Rig.Record

/-!
# Which error a benchmark returns

A run returns the error of its first failing action, unchanged, and a report only if nothing
failed. The last clean comes last, so its error is returned only after trials that all went well;
otherwise it is logged, in the only warning a benchmark ever logs.
-/
namespace ColdBuild

namespace Event

/-- The error of an action that failed. -/
def failure? : Event → Option Error
  | .clean (.error error) | .build _ (.error error) | .reading (.error error) => some error
  | _ => none

def isGoodClean : Event → Bool
  | .clean (.ok _) => true
  | _ => false

def isGoodBuild : Event → Bool
  | .build _ (.ok _) => true
  | _ => false

def isGoodReading : Event → Bool
  | .reading (.ok _) => true
  | _ => false

theorem isAction_of_isFailure {event : Event} (failed : event.isFailure = true) :
    event.isAction = true := by
  cases event <;> first | rfl | cases failed

theorem isFailure_of_failure? {event : Event} {error : Error}
    (failed : event.failure? = some error) : event.isFailure = true := by
  unfold failure? at failed
  split at failed
  · rfl
  · rfl
  · rfl
  · cases failed

theorem failure?_of_not_isFailure {event : Event} (well : event.isFailure = false) :
    event.failure? = none := by
  cases failed : event.failure? with
  | none => rfl
  | some error =>
    rw [isFailure_of_failure? failed] at well
    cases well

theorem failure?_clean {outcome : Except Error Unit} {error : Error} :
    (clean outcome).failure? = some error ↔ outcome = .error error := by
  cases outcome <;> simp [failure?]

theorem failure?_build {arguments : List String} {outcome : Except Error Unit} {error : Error} :
    (build arguments outcome).failure? = some error ↔ outcome = .error error := by
  cases outcome <;> simp [failure?]

theorem failure?_reading {outcome : Except Error Nat} {error : Error} :
    (reading outcome).failure? = some error ↔ outcome = .error error := by
  cases outcome <;> simp [failure?]

def warnings (events : List Event) : List LogRecord :=
  (events.filterMap record?).filter (·.level = .warn)

theorem warnings_append (xs ys : List Event) :
    warnings (xs ++ ys) = warnings xs ++ warnings ys := by
  rw [warnings, List.filterMap_append, List.filter_append]
  rfl

end Event

open Event (warnings)

namespace Lap

theorem findSome?_allActions (config : Config) (index : Nat) (laps : List Lap) :
    (allActions config index laps).findSome? Event.failure? = none := by
  rw [List.findSome?_eq_none_iff]
  intro event member
  exact Event.failure?_of_not_isFailure (not_isFailure_of_mem member)

theorem warnings_allEvents (config : Config) (index : Nat) (laps : List Lap) :
    warnings (allEvents config index laps) = [] := by
  induction laps generalizing index with
  | nil => rfl
  | cons lap rest ih =>
    rw [allEvents, Event.warnings_append]
    exact ih (index + 1)

end Lap

namespace Loop

variable {trials : Nat} {config : Config} {index : Nat}

/-- The first failing action of a loop is the one that it broke off at. -/
theorem findSome?_actions (loop : Loop trials) :
    (loop.actions config index).findSome? Event.failure? =
      match loop with
      | .finished _ _ => none
      | .broken _ breakdown _ => some breakdown.error := by
  rw [actions, List.findSome?_append, Lap.findSome?_allActions, Option.none_or]
  cases loop with
  | finished laps all => rfl
  | broken laps breakdown fewer => cases breakdown <;> rfl

theorem warnings_events (loop : Loop trials) : warnings (loop.events config index) = [] := by
  rw [events, Event.warnings_append, Lap.warnings_allEvents, List.nil_append]
  cases loop with
  | finished laps all => rfl
  | broken laps breakdown fewer => cases breakdown <;> rfl

/-- So many readings went well as trials were completed. -/
theorem countP_isGoodReading (loop : Loop trials) :
    (loop.actions config index).countP Event.isGoodReading = loop.laps.length := by
  rw [actions, List.countP_append, Lap.countP_allActions (k := 1) (fun _ _ => rfl), Nat.mul_one]
  cases loop with
  | finished laps all => rfl
  | broken laps breakdown fewer => cases breakdown <;> rfl

end Loop

namespace Course

variable {config : Config}

theorem warnings_events (course : Course config) :
    warnings course.events = warnings course.remarks := by
  rw [events, Event.warnings_append, Loop.warnings_events, List.nil_append]
  rfl

/-- A finished loop gives a report, for a configuration asks for one trial at least. -/
theorem result_finished {laps : List Lap} (all : laps.length = config.runs) :
    ∃ report, aggregate (laps.map Lap.trial) config.label = .ok report :=
  ⟨_, Lap.aggregate_map_trial all config.label⟩

/-- The result is a report exactly when every clean, every build and every reading that the
configuration asks for was made and went well. -/
theorem result_ok_iff (course : Course config) :
    (∃ report, course.result = .ok report) ↔
      course.actions.countP Event.isGoodClean = config.runs + 1 ∧
        course.actions.countP Event.isGoodBuild = config.runs ∧
        course.actions.countP Event.isGoodReading = config.runs := by
  constructor
  · rintro ⟨report, h⟩
    obtain ⟨laps, all, rfl, -⟩ := finished_of_result h
    simp only [actions_finished, List.countP_append]
    rw [Lap.countP_allActions (k := 1) (fun _ _ => rfl),
      Lap.countP_allActions (k := 1) (fun _ _ => rfl),
      Lap.countP_allActions (k := 1) (fun _ _ => rfl), Nat.mul_one, all]
    exact ⟨rfl, rfl, rfl⟩
  · rintro ⟨cleans, -, readings⟩
    obtain ⟨loop, teardown⟩ := course
    rw [actions, List.countP_append, Loop.countP_isGoodReading] at readings
    cases loop with
    | broken laps breakdown fewer =>
      simp only [Loop.laps] at readings
      have none : [Event.clean teardown].countP Event.isGoodReading = 0 := rfl
      omega
    | finished laps all =>
      cases teardown with
      | ok _ => exact result_finished all
      | error e =>
        rw [actions_finished, List.countP_append,
          Lap.countP_allActions (k := 1) (fun _ _ => rfl)] at cleans
        have none : [Event.clean (.error e)].countP Event.isGoodClean = 0 := rfl
        omega

/-- The error of a run is the error of its first failing action. -/
theorem result_error {course : Course config} {error : Error} (h : course.result = .error error) :
    course.actions.findSome? Event.failure? = some error := by
  obtain ⟨loop, teardown⟩ := course
  rw [actions, List.findSome?_append, Loop.findSome?_actions]
  cases loop with
  | broken laps breakdown fewer =>
    cases h
    rfl
  | finished laps all =>
    cases teardown with
    | error late =>
      cases h
      rfl
    | ok _ =>
      obtain ⟨report, success⟩ := result_finished all
      have impossible : Except.ok report = Except.error error := success.symm.trans h
      cases impossible

end Course

namespace Rig

variable {σ : Type} (rig : Rig σ) (config : Config)

/-- An error of a run is the rig's answer to an action of the run. -/
theorem benchmark_error {world : σ} {error : Error}
    (h : (rig.benchmark config world).result = .error error) :
    ∃ event ∈ (rig.benchmark config world).actions, event.failure? = some error ∧
      ∃ before after, rig.Step config before event after := by
  obtain ⟨course, -, actions, result⟩ := benchmark_observed rig config world
  have steps := (follows_benchmark rig config world).actions
  rw [← Outcome.actions] at steps
  obtain ⟨event, member, failed⟩ :=
    List.exists_of_findSome?_eq_some (Course.result_error (result ▸ h))
  rw [← actions] at member
  exact ⟨event, member, failed, steps.mem member⟩

/-- A run that gives a report had no failure. -/
theorem benchmark_no_failure {world : σ} {report : Report}
    (h : (rig.benchmark config world).result = .ok report) :
    (rig.benchmark config world).events.countP Event.isFailure = 0 := by
  obtain ⟨course, -, actions, result⟩ := benchmark_observed rig config world
  obtain ⟨laps, all, rfl, -⟩ := Course.finished_of_result (result ▸ h)
  rw [Event.countP_of_isAction Event.isAction_of_isFailure, ← Outcome.actions, actions,
    Course.actions_finished, List.countP_append, Lap.countP_allActions (k := 0) (fun _ _ => rfl)]
  rfl

/-- A run that gives a report made two calls of the tool for each trial, and one more. -/
theorem benchmark_toolCalls {world : σ} {report : Report}
    (h : (rig.benchmark config world).result = .ok report) :
    (rig.benchmark config world).events.countP Event.isToolCall = 2 * config.runs + 1 := by
  obtain ⟨course, -, actions, result⟩ := benchmark_observed rig config world
  obtain ⟨calls, -⟩ := Course.toolCalls_of_result (result ▸ h)
  rw [Event.countP_of_isAction Event.isAction_of_isToolCall, ← Outcome.actions, actions,
    List.countP_eq_length_filter, calls]
  simp [Nat.mul_comm]

/-- Which of two failures counts, and what becomes of the other. The events of a run are the rig's
own steps, and its actions are its loop's and the last clean. The first failure of the loop is the
result, whatever the last clean does; the last clean's failure is the result only after a loop that
went well, and is otherwise logged last, in the only warning there is. A report is the result
exactly when all that was asked for was done and went well. No error arises but as the rig's answer
to an action of the run, so there is always a trial to aggregate. -/
theorem benchmark_result (world : σ) :
    rig.Steps config world (rig.benchmark config world).events
        (rig.benchmark config world).world ∧
    ∃ (loop : List Event) (teardown : Except Error Unit),
      (rig.benchmark config world).actions = loop ++ [.clean teardown] ∧
      (match loop.findSome? Event.failure?, teardown with
        | some error, .ok () =>
          (rig.benchmark config world).result = .error error ∧
            warnings (rig.benchmark config world).events = []
        | some error, .error late =>
          (rig.benchmark config world).result = .error error ∧
            (∃ before, (rig.benchmark config world).events = before ++ [.teardownFailed late]) ∧
            warnings (rig.benchmark config world).events =
              [{ level := .warn, target := Event.target
                 message := s!"teardown clean failed after aborted run: {late.message}" }]
        | none, .error error =>
          (rig.benchmark config world).result = .error error ∧
            warnings (rig.benchmark config world).events = []
        | none, .ok () =>
          (∃ report, (rig.benchmark config world).result = .ok report) ∧
            warnings (rig.benchmark config world).events = []) ∧
      ((∃ report, (rig.benchmark config world).result = .ok report) ↔
        (rig.benchmark config world).actions.countP Event.isGoodClean = config.runs + 1 ∧
          (rig.benchmark config world).actions.countP Event.isGoodBuild = config.runs ∧
          (rig.benchmark config world).actions.countP Event.isGoodReading = config.runs) ∧
      (∀ error, (rig.benchmark config world).result = .error error →
        ∃ event ∈ (rig.benchmark config world).actions, event.failure? = some error ∧
          ∃ before after, rig.Step config before event after) := by
  obtain ⟨course, events, actions, result⟩ := benchmark_observed rig config world
  refine ⟨follows_benchmark rig config world, course.loop.actions config 1, course.teardown,
    actions, ?_, ?_, ?_⟩
  · rw [events, result, Course.warnings_events, Loop.findSome?_actions]
    obtain ⟨loop, teardown⟩ := course
    cases loop with
    | finished laps all =>
      cases teardown with
      | ok _ => exact ⟨Course.result_finished all, rfl⟩
      | error error => exact ⟨rfl, rfl⟩
    | broken laps breakdown fewer =>
      cases teardown with
      | ok _ => exact ⟨rfl, rfl⟩
      | error late =>
        refine ⟨rfl, ⟨Loop.events config 1 (.broken laps breakdown fewer) ++ [.clean (.error late)],
          ?_⟩, rfl⟩
        rw [List.append_assoc]
        rfl
  · rw [result, actions]
    exact course.result_ok_iff
  · intro error h
    exact benchmark_error rig config h

end Rig
end ColdBuild
