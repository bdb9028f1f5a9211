import ColdBuild.Proofs.Rig.Course
import ColdBuild.Proofs.Rig.Steps

/-!
# The order of actions

A benchmark's actions are complete trials, then at most one that broke off, then one last clean.
Two consequences are stated for themselves, as predicates on lists of events that survive
appending: every build is cold (`ColdBuilds`), and nothing but the last clean comes after a
failure (`EndsAtFailure`).
-/
namespace ColdBuild

namespace Outcome

variable {σ α : Type}

/-- What was done to the rig, without what the benchmark reports about itself. -/
def actions (outcome : Outcome σ α) : List Event := outcome.events.filter Event.isAction

end Outcome

namespace Event

/-- The event is a call of the build tool. -/
def isToolCall : Event → Bool
  | .clean _ | .build .. => true
  | _ => false

def isClean : Event → Bool
  | .clean _ => true
  | _ => false

def isBuild : Event → Bool
  | .build .. => true
  | _ => false

theorem isAction_of_isToolCall {event : Event} (call : event.isToolCall = true) :
    event.isAction = true := by
  cases event <;> first | rfl | cases call

/-- What only actions have can be counted among the actions. -/
theorem countP_of_isAction {p : Event → Bool}
    (action : ∀ {event : Event}, p event = true → event.isAction = true) (events : List Event) :
    events.countP p = (events.filter isAction).countP p := by
  rw [List.countP_filter]
  congr 1
  funext event
  cases h : p event with
  | false => rfl
  | true => rw [action h]; rfl

end Event

namespace Lap

theorem filter_allEvents (config : Config) (index : Nat) (laps : List Lap) :
    (allEvents config index laps).filter Event.isAction = allActions config index laps := by
  induction laps generalizing index with
  | nil => rfl
  | cons lap rest ih =>
    rw [allEvents, List.filter_append, allActions]
    congr 1
    exact ih (index + 1)

/-- What one trial's actions give is given once for each completed trial. -/
theorem filter_allActions {config : Config} {p : Event → Bool} {kept : List Event}
    (each : ∀ (index : Nat) (lap : Lap), (lap.actions config index).filter p = kept)
    (index : Nat) (laps : List Lap) :
    (allActions config index laps).filter p = (List.replicate laps.length kept).flatten := by
  induction laps generalizing index with
  | nil => rfl
  | cons lap rest ih =>
    rw [allActions, List.filter_append, each, ih, List.length_cons, List.replicate_succ,
      List.flatten_cons]

theorem countP_allActions {config : Config} {p : Event → Bool} {k : Nat}
    (each : ∀ (index : Nat) (lap : Lap), (lap.actions config index).countP p = k)
    (index : Nat) (laps : List Lap) :
    (allActions config index laps).countP p = laps.length * k := by
  induction laps generalizing index with
  | nil => simp [allActions]
  | cons lap rest ih =>
    rw [allActions, List.countP_append, each, ih, List.length_cons, Nat.succ_mul, Nat.add_comm]

theorem not_isFailure_of_mem {config : Config} {index : Nat} {laps : List Lap} {event : Event}
    (member : event ∈ allActions config index laps) : event.isFailure = false := by
  have none : (allActions config index laps).countP Event.isFailure = 0 := by
    rw [countP_allActions (k := 0) (fun _ _ => rfl), Nat.mul_zero]
  simpa using List.countP_eq_zero.mp none event member

end Lap

namespace Breakdown

theorem filter_actions (config : Config) (index : Nat) (breakdown : Breakdown) :
    (breakdown.actions config index).filter Event.isAction = breakdown.actions config index := by
  cases breakdown <;> rfl

/-- A trial that broke off did what a complete trial begins with, and then failed. -/
theorem actions_eq_prefix (config : Config) (index : Nat) (breakdown : Breakdown) :
    ∃ (lap : Lap) (front : List Event) (failed : Event),
      breakdown.actions config index = front ++ [failed] ∧
      front <+: lap.actions config index ∧ failed.isFailure = true := by
  cases breakdown with
  | clean error => exact ⟨⟨.zero, .zero, 0⟩, [], _, rfl, List.nil_prefix, rfl⟩
  | build start error => exact ⟨⟨start, .zero, 0⟩, [_, _, _], _, rfl, ⟨_, rfl⟩, rfl⟩
  | reading start stop error =>
    exact ⟨⟨start, stop, 0⟩, [_, _, _, _, _], _, rfl, ⟨_, rfl⟩, rfl⟩

end Breakdown

namespace Loop

variable {trials : Nat} {config : Config} {index : Nat}

theorem filter_events (loop : Loop trials) :
    (loop.events config index).filter Event.isAction = loop.actions config index := by
  rw [events, List.filter_append, Lap.filter_allEvents, actions]
  cases loop with
  | finished laps all => rfl
  | broken laps breakdown fewer => rw [brokenActions, Breakdown.filter_actions]

end Loop

namespace Course

variable {config : Config}

def actions (course : Course config) : List Event :=
  course.loop.actions config 1 ++ [.clean course.teardown]

theorem filter_events (course : Course config) :
    course.events.filter Event.isAction = course.actions := by
  have silent : course.remarks.filter Event.isAction = [] := by
    unfold remarks
    split <;> rfl
  rw [events, List.filter_append, Loop.filter_events, List.filter_cons_of_pos rfl, silent, actions]

theorem actions_finished {laps : List Lap} (all : laps.length = config.runs)
    (teardown : Except Error Unit) :
    (⟨.finished laps all, teardown⟩ : Course config).actions =
      Lap.allActions config 1 laps ++ [.clean teardown] := by
  simp [actions, Loop.actions, Loop.laps, Loop.brokenActions]

end Course

/-- Every build among the events comes directly after a successful clean, an announcement and one
clock reading. -/
def ColdBuilds (config : Config) (events : List Event) : Prop :=
  ∀ front arguments outcome back, events = front ++ .build arguments outcome :: back →
    ∃ earlier index start,
      front = earlier ++ [.clean (.ok ()), .announce index config.runs, .clock start]

namespace ColdBuilds

variable {config : Config}

theorem append {xs ys : List Event} (left : ColdBuilds config xs) (right : ColdBuilds config ys) :
    ColdBuilds config (xs ++ ys) := by
  intro front arguments outcome back h
  rcases List.append_eq_append_iff.mp h with ⟨middle, rfl, hys⟩ | ⟨middle, hxs, hback⟩
  · obtain ⟨earlier, index, start, rfl⟩ := right middle arguments outcome back hys
    exact ⟨xs ++ earlier, index, start, (List.append_assoc _ _ _).symm⟩
  · cases middle with
    | nil =>
      -- the build is the first event of the right part, which has nothing in front of it
      obtain ⟨earlier, index, start, impossible⟩ :=
        right [] arguments outcome back (by simpa using hback.symm)
      simp at impossible
    | cons event rest =>
      obtain ⟨rfl, -⟩ := List.cons.inj hback
      exact left front arguments outcome rest hxs

theorem of_no_build {events : List Event} (none : ∀ event ∈ events, event.isBuild = false) :
    ColdBuilds config events := by
  intro front arguments outcome back h
  have member : Event.build arguments outcome ∈ events := by simp [h]
  cases none _ member

/-- One build, prepared. -/
theorem prepared (index : Nat) (start : Duration) (arguments : List String)
    (outcome : Except Error Unit) :
    ColdBuilds config
      [.clean (.ok ()), .announce index config.runs, .clock start, .build arguments outcome] := by
  intro front other result back h
  rcases front with _ | ⟨a, _ | ⟨b, _ | ⟨c, _ | ⟨d, rest⟩⟩⟩⟩
  · simp at h
  · simp at h
  · simp at h
  · simp only [List.cons_append, List.nil_append, List.cons.injEq] at h
    obtain ⟨rfl, rfl, rfl, -⟩ := h
    exact ⟨[], index, start, rfl⟩
  · simp at h

theorem lap (index : Nat) (lap : Lap) : ColdBuilds config (lap.actions config index) := by
  have measured : ColdBuilds config [.clock lap.stop, .reading (.ok lap.peakKb)] :=
    of_no_build (by simp [Event.isBuild])
  exact (prepared index lap.start config.buildArguments (.ok ())).append measured

theorem allLaps (index : Nat) (laps : List Lap) :
    ColdBuilds config (Lap.allActions config index laps) := by
  induction laps generalizing index with
  | nil => exact of_no_build (by simp [Lap.allActions])
  | cons first rest ih => exact append (lap index first) (ih (index + 1))

theorem breakdown (index : Nat) (breakdown : Breakdown) :
    ColdBuilds config (breakdown.actions config index) := by
  cases breakdown with
  | clean error => exact of_no_build (by simp [Breakdown.actions, Event.isBuild])
  | build start error => exact prepared index start config.buildArguments (.error error)
  | reading start stop error =>
    have measured : ColdBuilds config [.clock stop, .reading (.error error)] :=
      of_no_build (by simp [Event.isBuild])
    exact (prepared index start config.buildArguments (.ok ())).append measured

theorem course (course : Course config) : ColdBuilds config course.actions := by
  refine append (append (allLaps 1 course.loop.laps) ?_) (of_no_build (by simp [Event.isBuild]))
  cases course.loop with
  | finished laps all => exact of_no_build (by simp [Loop.brokenActions])
  | broken laps broken fewer => exact breakdown (1 + laps.length) broken

end ColdBuilds

/-- Nothing comes after a failure. -/
def EndsAtFailure (events : List Event) : Prop :=
  ∀ front failed back, events = front ++ failed :: back → failed.isFailure = true → back = []

namespace EndsAtFailure

variable {config : Config}

/-- What went well may stand in front. -/
theorem append (xs : List Event) {ys : List Event} (well : ∀ event ∈ xs, event.isFailure = false)
    (right : EndsAtFailure ys) : EndsAtFailure (xs ++ ys) := by
  intro front failed back h failure
  rcases List.append_eq_append_iff.mp h with ⟨middle, rfl, hys⟩ | ⟨middle, rfl, hback⟩
  · exact right middle failed back hys failure
  · cases middle with
    | nil => exact right [] failed back (by simpa using hback.symm) failure
    | cons event rest =>
      obtain ⟨rfl, -⟩ := List.cons.inj hback
      have wentWell := well failed (by simp)
      rw [wentWell] at failure
      cases failure

theorem single (event : Event) : EndsAtFailure [event] := by
  intro front failed back h _
  cases front with
  | nil => exact (List.cons.inj h).2.symm
  | cons first rest => simp at h

theorem nil : EndsAtFailure [] := by
  intro front failed back h _
  simp at h

theorem breakdown (index : Nat) (breakdown : Breakdown) :
    EndsAtFailure (breakdown.actions config index) := by
  cases breakdown with
  | clean error => exact single _
  | build start error =>
    exact append [_, _, _] (by simp [Event.isFailure]) (single _)
  | reading start stop error =>
    exact append [_, _, _, _, _] (by simp [Event.isFailure]) (single _)

theorem loop {trials : Nat} (index : Nat) (loop : Loop trials) :
    EndsAtFailure (loop.actions config index) := by
  refine append _ (fun _ member => Lap.not_isFailure_of_mem member) ?_
  cases loop with
  | finished laps all => exact nil
  | broken laps broken fewer => exact breakdown (index + laps.length) broken

end EndsAtFailure

/-- After a failing action only the last clean is left, if it was not that itself. -/
theorem Course.after_failure {config : Config} (course : Course config)
    {front back : List Event} {failed : Event} (h : course.actions = front ++ failed :: back)
    (failure : failed.isFailure = true) : back = [] ∨ back = [.clean course.teardown] := by
  rcases List.append_eq_append_iff.mp h with ⟨middle, -, hlast⟩ | ⟨middle, hloop, hback⟩
  · exact .inl (EndsAtFailure.single _ middle failed back hlast failure)
  · cases middle with
    | nil => exact .inl (List.cons.inj hback).2
    | cons event rest =>
      obtain ⟨rfl, rfl⟩ := List.cons.inj hback
      have none := EndsAtFailure.loop 1 course.loop front failed rest hloop failure
      exact .inr (by rw [none]; rfl)

namespace Lap

theorem filter_isToolCall (config : Config) (index : Nat) (laps : List Lap) :
    (allActions config index laps).filter Event.isToolCall =
      (List.replicate laps.length
        [.clean (.ok ()), .build config.buildArguments (.ok ())]).flatten :=
  filter_allActions (fun _ _ => rfl) index laps

end Lap

/-- With a report, cleans and builds alternate, and the last clean is one more. -/
theorem Course.toolCalls_of_result {config : Config} {course : Course config} {report : Report}
    (h : course.result = .ok report) :
    course.actions.filter Event.isToolCall =
        (List.replicate config.runs
          [.clean (.ok ()), .build config.buildArguments (.ok ())]).flatten ++ [.clean (.ok ())] ∧
      course.actions.countP Event.isClean = config.runs + 1 ∧
      course.actions.countP Event.isBuild = config.runs := by
  obtain ⟨laps, all, rfl, -⟩ := finished_of_result h
  rw [actions_finished, List.filter_append, List.countP_append, List.countP_append]
  refine ⟨?_, ?_, ?_⟩
  · rw [Lap.filter_isToolCall, all]
    rfl
  · rw [Lap.countP_allActions (k := 1) (fun _ _ => rfl), all, Nat.mul_one]
    rfl
  · rw [Lap.countP_allActions (k := 1) (fun _ _ => rfl), all, Nat.mul_one]
    rfl

namespace Rig

variable {σ : Type} (rig : Rig σ) (config : Config)

theorem benchmark_observed (world : σ) :
    ∃ course : Course config, (rig.benchmark config world).events = course.events ∧
      (rig.benchmark config world).actions = course.actions ∧
      (rig.benchmark config world).result = course.result := by
  obtain ⟨course, _, -, events, result⟩ := benchmark_course rig config world
  exact ⟨course, events, by rw [Outcome.actions, events, Course.filter_events], result⟩

/-- The actions of every run: complete trials numbered from one on, nothing or a trial that broke
off at its first failing action, and exactly one last clean. All are answers of the rig, one after
another. Every build is cold, a failure is never followed by another try, and a run that gives a
report made one clean before each build and one at the end. -/
theorem benchmark_actions (world : σ) :
    ∃ (laps : List Lap) (broken : List Event) (teardown : Except Error Unit),
      (rig.benchmark config world).actions =
        Lap.allActions config 1 laps ++ broken ++ [.clean teardown] ∧
      (laps.length = config.runs ∧ broken = [] ∨
        laps.length < config.runs ∧
          (∃ breakdown : Breakdown, broken = breakdown.actions config (laps.length + 1)) ∧
          ∃ (lap : Lap) (front : List Event) (failed : Event), broken = front ++ [failed] ∧
            front <+: lap.actions config (laps.length + 1) ∧ failed.isFailure = true) ∧
      rig.Steps config world (rig.benchmark config world).actions
        (rig.benchmark config world).world ∧
      ColdBuilds config (rig.benchmark config world).actions ∧
      (∀ front failed back, (rig.benchmark config world).actions = front ++ failed :: back →
        failed.isFailure = true → back = [] ∨ back = [.clean teardown]) ∧
      ((∃ report, (rig.benchmark config world).result = .ok report) →
        (rig.benchmark config world).actions.filter Event.isToolCall =
            (List.replicate config.runs
              [.clean (.ok ()), .build config.buildArguments (.ok ())]).flatten ++
              [.clean (.ok ())] ∧
          (rig.benchmark config world).actions.countP Event.isClean = config.runs + 1 ∧
          (rig.benchmark config world).actions.countP Event.isBuild = config.runs) := by
  obtain ⟨course, -, actions, result⟩ := benchmark_observed rig config world
  have steps := (follows_benchmark rig config world).actions
  refine ⟨course.loop.laps, course.loop.brokenActions config 1, course.teardown, actions, ?_,
    steps, actions ▸ ColdBuilds.course course, ?_, ?_⟩
  · cases course.loop with
    | finished laps all => exact .inl ⟨all, rfl⟩
    | broken laps breakdown fewer =>
      have position : Loop.brokenActions config 1 (.broken laps breakdown fewer) =
          breakdown.actions config (laps.length + 1) := by
        rw [Loop.brokenActions, Nat.add_comm]
      refine .inr ⟨fewer, ⟨breakdown, position⟩, ?_⟩
      rw [position]
      exact breakdown.actions_eq_prefix config (laps.length + 1)
  · intro front failed back h
    exact course.after_failure (actions ▸ h)
  · rintro ⟨report, h⟩
    rw [actions]
    exact Course.toolCalls_of_result (result ▸ h)

end Rig
end ColdBuild
