import ColdBuild.Proofs.Rig.Failure
import ColdBuild.Rig.Script

/-!
# What a run leaves of its script

Each call on a scripted rig takes one entry of its list, so what a run leaves is its script less as
many entries as it made calls (`Steps.skip_script`). How many calls that were can be told from its
cleans and builds alone: one clock reading before each build, another one and a memory reading
after each that went well (`Course.calls_of_builds`). Nothing else passes from one run to the next
(`serveAll_script`).
-/
namespace ColdBuild

namespace Event

def isClock : Event → Bool
  | .clock _ => true
  | _ => false

def isReading : Event → Bool
  | .reading _ => true
  | _ => false

def isFailedBuild : Event → Bool
  | .build _ (.error _) => true
  | _ => false

theorem isAction_of_isClock {event : Event} (clock : event.isClock = true) :
    event.isAction = true := by
  cases event <;> first | rfl | cases clock

theorem isAction_of_isReading {event : Event} (reading : event.isReading = true) :
    event.isAction = true := by
  cases event <;> first | rfl | cases reading

theorem isAction_of_isGoodBuild {event : Event} (build : event.isGoodBuild = true) :
    event.isAction = true := by
  cases event <;> first | rfl | cases build

theorem isAction_of_isFailedBuild {event : Event} (build : event.isFailedBuild = true) :
    event.isAction = true := by
  cases event <;> first | rfl | cases build

end Event

namespace Script

/-- The script without so many outcomes, memory readings and clock readings at its beginning. -/
def skip (script : Script) (outcomes readings stamps : Nat) : Script where
  outcomes := script.outcomes.drop outcomes
  readings := script.readings.drop readings
  clock := script.clock.drop stamps

theorem skip_skip (script : Script) (a b c a' b' c' : Nat) :
    (script.skip a b c).skip a' b' c' = script.skip (a + a') (b + b') (c + c') := by
  simp only [skip, List.drop_drop]

theorem nextOutcome_snd (script : Script) : script.nextOutcome.2 = script.skip 1 0 0 := by
  obtain ⟨outcomes, readings, clock⟩ := script
  match outcomes with
  | [] => rfl
  | none :: rest => rfl
  | some e :: rest => rfl

theorem nextReading_snd (script : Script) : script.nextReading.2 = script.skip 0 1 0 := by
  obtain ⟨outcomes, readings, clock⟩ := script
  match readings with
  | [] => rfl
  | reading :: rest => rfl

theorem nextTime_snd (script : Script) : script.nextTime.2 = script.skip 0 0 1 := by
  obtain ⟨outcomes, readings, clock⟩ := script
  match clock with
  | [] => rfl
  | time :: rest => rfl

/-- What a run that left these events has not used: an outcome for each clean and each build, two
clock readings and a memory reading for each build that went well, and one clock reading for each
that failed. -/
def after (script : Script) (events : List Event) : Script :=
  script.skip (events.countP Event.isToolCall) (events.countP Event.isGoodBuild)
    (2 * events.countP Event.isGoodBuild + events.countP Event.isFailedBuild)

theorem after_append (script : Script) (xs ys : List Event) :
    script.after (xs ++ ys) = (script.after xs).after ys := by
  simp only [after, skip_skip, List.countP_append]
  congr 1
  omega

end Script

/-- Calls on a scripted rig use up as many entries as there are calls of their kind. -/
theorem Rig.Steps.skip_script {config : Config} {script final : Script} {events : List Event}
    (steps : Script.rig.Steps config script events final) :
    final = script.skip (events.countP Event.isToolCall) (events.countP Event.isReading)
      (events.countP Event.isClock) := by
  induction steps with
  | nil script => rfl
  | @cons script next final event rest first tail ih =>
    -- one entry for the first event, and the others from where it stopped
    have used : next = script.skip ([event].countP Event.isToolCall)
        ([event].countP Event.isReading) ([event].countP Event.isClock) := by
      cases first with
      | clean => exact script.nextOutcome_snd
      | build => exact script.nextOutcome_snd
      | clock => exact script.nextTime_snd
      | reading => exact script.nextReading_snd
      | announce => rfl
      | measured => rfl
      | teardownFailed => rfl
    rw [ih, used, Script.skip_skip, ← List.countP_append, ← List.countP_append,
      ← List.countP_append]
    rfl

/-- A trial that failed took a memory reading if its build went well, and read the clock before its
build and, if that went well, after it. -/
theorem Breakdown.calls_of_builds (config : Config) (index : Nat) (breakdown : Breakdown) :
    (breakdown.actions config index).countP Event.isReading =
        (breakdown.actions config index).countP Event.isGoodBuild ∧
      (breakdown.actions config index).countP Event.isClock =
        2 * (breakdown.actions config index).countP Event.isGoodBuild +
          (breakdown.actions config index).countP Event.isFailedBuild := by
  cases breakdown with
  | clean error => exact ⟨rfl, rfl⟩
  | build start error => exact ⟨rfl, rfl⟩
  | reading start stop error => exact ⟨rfl, rfl⟩

/-- Clock and memory readings can be counted by the builds of a run. -/
theorem Course.calls_of_builds {config : Config} (course : Course config) :
    course.actions.countP Event.isReading = course.actions.countP Event.isGoodBuild ∧
      course.actions.countP Event.isClock =
        2 * course.actions.countP Event.isGoodBuild +
          course.actions.countP Event.isFailedBuild := by
  obtain ⟨loop, teardown⟩ := course
  have last (p : Event → Bool) (none : ∀ outcome, p (.clean outcome) = false) :
      [Event.clean teardown].countP p = 0 := by
    rw [List.countP_singleton, none]
    rfl
  simp only [actions, Loop.actions, List.countP_append]
  rw [Lap.countP_allActions (p := Event.isReading) (k := 1) (fun _ _ => rfl),
    Lap.countP_allActions (p := Event.isClock) (k := 2) (fun _ _ => rfl),
    Lap.countP_allActions (p := Event.isGoodBuild) (k := 1) (fun _ _ => rfl),
    Lap.countP_allActions (p := Event.isFailedBuild) (k := 0) (fun _ _ => rfl),
    last Event.isReading fun _ => rfl, last Event.isClock fun _ => rfl,
    last Event.isGoodBuild fun _ => rfl, last Event.isFailedBuild fun _ => rfl]
  cases loop with
  | finished laps all =>
    simp only [Loop.brokenActions, List.countP_nil, true_and]
    omega
  | broken laps breakdown fewer =>
    obtain ⟨readings, stamps⟩ := breakdown.calls_of_builds config (1 + laps.length)
    simp only [Loop.brokenActions]
    omega

namespace Rig

theorem benchmark_world (config : Config) (script : Script) :
    (Script.rig.benchmark config script).world =
      script.after (Script.rig.benchmark config script).events := by
  obtain ⟨course, -, actions, -⟩ := benchmark_observed Script.rig config script
  obtain ⟨readings, stamps⟩ := course.calls_of_builds
  rw [← actions] at readings stamps
  rw [(follows_benchmark Script.rig config script).skip_script, Script.after,
    Event.countP_of_isAction Event.isAction_of_isReading,
    Event.countP_of_isAction Event.isAction_of_isClock,
    Event.countP_of_isAction Event.isAction_of_isGoodBuild,
    Event.countP_of_isAction Event.isAction_of_isFailedBuild]
  simp only [Outcome.actions] at readings stamps
  rw [readings, stamps]

theorem serve_world (request : Request) (script : Script) :
    (Script.rig.serve request script).world =
      script.after (Script.rig.serve request script).events := by
  unfold serve
  split
  · rfl
  · exact benchmark_world _ script

section

variable {σ : Type} (rig : Rig σ)

/-- The world in which requests leave a rig when they are served one after another. -/
def worldAfter (requests : List Request) (world : σ) : σ :=
  requests.foldl (fun world request => (rig.serve request world).world) world

theorem worldAfter_append (front back : List Request) (world : σ) :
    rig.worldAfter (front ++ back) world = rig.worldAfter back (rig.worldAfter front world) :=
  List.foldl_append

theorem serveAll_append (front back : List Request) (world : σ) :
    rig.serveAll (front ++ back) world =
      rig.serveAll front world ++ rig.serveAll back (rig.worldAfter front world) := by
  induction front generalizing world with
  | nil => rfl
  | cons request rest ih => exact congrArg _ (ih _)

/-- Each request is served in the world that those before it left, and in nothing else. -/
theorem getElem?_serveAll (requests : List Request) (world : σ) (j : Nat) :
    (rig.serveAll requests world)[j]? =
      requests[j]?.map fun request =>
        rig.serve request (rig.worldAfter (requests.take j) world) := by
  induction requests generalizing world j with
  | nil => rfl
  | cons request rest ih =>
    cases j with
    | zero => rfl
    | succ j => exact ih _ j

end

theorem worldAfter_script (requests : List Request) (script : Script) :
    Script.rig.worldAfter requests script =
      script.after ((Script.rig.serveAll requests script).flatMap Outcome.events) := by
  induction requests generalizing script with
  | nil => rfl
  | cons request rest ih =>
    rw [serveAll, List.flatMap_cons, Script.after_append, ← serve_world]
    exact ih _

/-- Runs on one rig have only the script in common. Each request has exactly the outcome, with the
same events and so the same log, that it has on a rig of its own with the script that the requests
before it left; and they leave the script less an entry for each of their calls, counted by their
cleans and builds. A request that is refused makes no call. Serving a list in two parts is serving
it as a whole, and the outcomes that are left are those that no clean and no build has used. -/
theorem serveAll_script (requests : List Request) (script : Script) :
    (∀ j, (Script.rig.serveAll requests script)[j]? =
      requests[j]?.map fun request => Script.rig.serve request
        (script.after ((Script.rig.serveAll (requests.take j) script).flatMap Outcome.events))) ∧
    (∀ request : Request,
      match request.resolve with
      | .error error => Script.rig.serve request script = ⟨.error error, [], script⟩
      | .ok config => Script.rig.serve request script = Script.rig.benchmark config script ∧
        (Script.rig.serve request script).world =
          script.after (Script.rig.serve request script).events) ∧
    (∀ front back : List Request,
      Script.rig.serveAll (front ++ back) script =
          Script.rig.serveAll front script ++
            Script.rig.serveAll back (Script.rig.worldAfter front script) ∧
        Script.rig.worldAfter (front ++ back) script =
          Script.rig.worldAfter back (Script.rig.worldAfter front script)) ∧
    Script.rig.worldAfter requests script =
      script.after ((Script.rig.serveAll requests script).flatMap Outcome.events) ∧
    (Script.rig.worldAfter requests script).outcomes.length = script.outcomes.length -
      ((Script.rig.serveAll requests script).flatMap Outcome.events).countP Event.isToolCall := by
  refine ⟨?_, ?_, ?_, worldAfter_script requests script, ?_⟩
  · intro j
    rw [getElem?_serveAll, worldAfter_script]
  · intro request
    cases resolved : request.resolve with
    | error error => simp only [serve, resolved]
    | ok config =>
      refine ⟨?_, serve_world request script⟩
      simp only [serve, resolved]
  · intro front back
    exact ⟨serveAll_append Script.rig front back script,
      worldAfter_append Script.rig front back script⟩
  · rw [worldAfter_script]
    exact List.length_drop

end Rig

end ColdBuild
