import ColdBuild.Proofs.Host.Recording
import ColdBuild.Proofs.Rig.Course
import ColdBuild.Session

/-!
# Progress lines

The progress lines of a run are those of just the trials whose clean went well, in order. They can
therefore be read off the outcomes of the cleans that the loop made, without its announcements.
-/
namespace ColdBuild

/-- The progress lines of the trials with the given numbers. -/
def progressLines (runs : Nat) (trials : List Nat) : String :=
  String.join (trials.map fun index => s!"Running ({index}/{runs})...\n")

theorem progressLine_newline (index runs : Nat) :
    progressLine index runs ++ "\n" = s!"Running ({index}/{runs})...\n" := by
  rw [progressLine, String.append_assoc]
  rfl

/-- The numbers of the trials whose clean went well, if these are the outcomes of the cleans and the
first trial has the number `index`. -/
def startedTrials (index : Nat) (cleaned : List Bool) : List Nat :=
  ((cleaned.zipIdx index).filter (·.1)).map (·.2)

theorem progressLines_append (runs : Nat) (xs ys : List Nat) :
    progressLines runs (xs ++ ys) = progressLines runs xs ++ progressLines runs ys := by
  rw [progressLines, List.map_append, String.join_append]
  rfl

theorem startedTrials_append (index : Nat) (xs ys : List Bool) :
    startedTrials index (xs ++ ys) =
      startedTrials index xs ++ startedTrials (index + xs.length) ys := by
  simp only [startedTrials, List.zipIdx_append, List.filter_append, List.map_append]

theorem startedTrials_replicate (index k : Nat) :
    startedTrials index (List.replicate k true) = List.range' index k := by
  induction k generalizing index with
  | zero => rfl
  | succ k ih =>
    rw [List.range'_succ, ← ih (index + 1), List.replicate_succ]
    rfl

namespace Session

theorem progress_append (xs ys : List Event) :
    progress (xs ++ ys) = progress xs ++ progress ys := by
  rw [progress, List.map_append, String.join_append]
  rfl

end Session

open Session (progress progress_append)

namespace Lap

theorem cleaned_allEvents (config : Config) (index : Nat) (laps : List Lap) :
    (allEvents config index laps).filterMap Event.cleaned? = List.replicate laps.length true := by
  induction laps generalizing index with
  | nil => rfl
  | cons lap rest ih =>
    rw [allEvents, List.filterMap_append, List.length_cons, List.replicate_succ, ← ih (index + 1)]
    rfl

theorem progress_actions (config : Config) (index : Nat) (lap : Lap) :
    progress (lap.actions config index) = progressLines config.runs [index] := by
  simp [progress, actions, progressLines, String.join_cons, progressLine_newline]

theorem progress_allEvents (config : Config) (index : Nat) (laps : List Lap) :
    progress (allEvents config index laps) =
      progressLines config.runs (List.range' index laps.length) := by
  induction laps generalizing index with
  | nil => rfl
  | cons lap rest ih =>
    have silent (trial : Trial) (events : List Event) :
        progress (.measured index config.runs trial :: events) = progress events := by
      simp [progress, String.join_cons]
    rw [allEvents, progress_append, progress_actions, silent, ih, ← progressLines_append,
      List.length_cons, List.range'_succ]
    rfl

end Lap

namespace Breakdown

theorem progress_actions (config : Config) (index : Nat) (breakdown : Breakdown) :
    progress (breakdown.actions config index) =
      progressLines config.runs
        (startedTrials index ((breakdown.actions config index).filterMap Event.cleaned?)) := by
  cases breakdown with
  | clean error => rfl
  | build start error =>
    have started :
        (actions config index (.build start error)).filterMap Event.cleaned? = [true] := rfl
    rw [started, show startedTrials index [true] = [index] from rfl]
    simp [progress, actions, progressLines, String.join_cons, progressLine_newline]
  | reading start stop error =>
    have started :
        (actions config index (.reading start stop error)).filterMap Event.cleaned? = [true] := rfl
    rw [started, show startedTrials index [true] = [index] from rfl]
    simp [progress, actions, progressLines, String.join_cons, progressLine_newline]

end Breakdown

namespace Loop

variable {trials : Nat} {config : Config} {index : Nat}

theorem cleaned_events (loop : Loop trials) :
    (loop.events config index).filterMap Event.cleaned? =
      List.replicate loop.laps.length true ++
        (loop.brokenActions config index).filterMap Event.cleaned? := by
  rw [events, List.filterMap_append, Lap.cleaned_allEvents]

/-- The trials that a loop announces are those whose clean went well. -/
theorem progress_events (loop : Loop trials) :
    progress (loop.events config index) =
      progressLines config.runs
        (startedTrials index ((loop.events config index).filterMap Event.cleaned?)) := by
  rw [cleaned_events, startedTrials_append, startedTrials_replicate, progressLines_append,
    List.length_replicate, events, progress_append, Lap.progress_allEvents]
  congr 1
  cases loop with
  | finished laps all => rfl
  | broken laps breakdown fewer => exact breakdown.progress_actions config (index + laps.length)

end Loop

namespace Course

variable {config : Config}

theorem progress_events (course : Course config) :
    progress course.events = progress (course.loop.events config 1) := by
  have silent : progress (.clean course.teardown :: course.remarks) = "" := by
    unfold remarks
    split <;> rfl
  rw [events, progress_append, silent, String.append_empty]

end Course

namespace Rig

variable {σ : Type} (rig : Rig σ) (config : Config)

/-- A run's last call of the host is one more clean. The progress lines are those of the trials
whose clean, among the ones before it, went well. -/
theorem benchmark_progress (world : σ) :
    ∃ (loop : List Event) (teardown : Except Error Unit) (remarks : List Event),
      (rig.benchmark config world).events = loop ++ .clean teardown :: remarks ∧
      remarks.filter Event.asksHost = [] ∧
      progress (rig.benchmark config world).events =
        progressLines config.runs (startedTrials 1 (loop.filterMap Event.cleaned?)) := by
  obtain ⟨course, _, -, events, -⟩ := benchmark_course rig config world
  refine ⟨course.loop.events config 1, course.teardown, course.remarks, events, ?_, ?_⟩
  · unfold Course.remarks
    split <;> rfl
  · rw [events, Course.progress_events, Loop.progress_events]

/-- A run that gives a report has shown the progress lines of all its trials. -/
theorem progress_of_report {world : σ} {report : Report}
    (h : (rig.benchmark config world).result = .ok report) :
    progress (rig.benchmark config world).events =
      progressLines config.runs (List.range' 1 config.runs) := by
  obtain ⟨course, _, -, events, result⟩ := benchmark_course rig config world
  obtain ⟨laps, all, rfl, -⟩ := Course.finished_of_result (result ▸ h)
  rw [events, Course.progress_events, Loop.progress_events, Loop.cleaned_events,
    startedTrials_append, startedTrials_replicate, progressLines_append, Loop.laps, all]
  exact String.append_empty

end Rig

end ColdBuild
