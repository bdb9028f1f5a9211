import ColdBuild.Host
import ColdBuild.Proofs.Rig.Failure
import Mathlib.Data.List.Forall2

/-!
# The calls of a host

A host can be made to remember the calls made to it and what it answered. A benchmark of a build
tool on such a host goes exactly as it goes on the host itself (`Records`), so nothing is assumed
about hosts by looking at their calls. The calls of a run are those that its events stand for, one
each and in the same order (`BuildTool.Causes`): a clean or a build is one child.
-/
namespace ColdBuild

/-- A call of a host, with its answer. -/
inductive HostCall where
  | spawn (program : String) (directory : Path) (arguments : List String)
      (child : Except OsFault WaitStatus)
  | peakKb (reading : Except OsFault Nat)
  | now (time : Duration)
  | writeFile (path : Path) (text : String) (outcome : Except OsFault Unit)

namespace HostCall

/-- The host did what it was asked for; a child must also have ended with status zero. -/
def wentWell : HostCall → Bool
  | .spawn _ _ _ (.ok status) => status.word = 0
  | .spawn _ _ _ (.error _) => false
  | .peakKb reading => reading.isOk
  | .now _ => true
  | .writeFile _ _ outcome => outcome.isOk

def isChild : HostCall → Bool
  | .spawn .. => true
  | _ => false

def isWrite : HostCall → Bool
  | .writeFile .. => true
  | _ => false

/-- For a child that cleans, whether it went well. -/
def cleaned? (call : HostCall) : Option Bool :=
  match call with
  | .spawn _ _ arguments _ =>
    if arguments = Config.cleanArguments then some call.wentWell else none
  | _ => none

end HostCall

/-- The host, with the calls made to it so far in its world. -/
def Host.recording {σ : Type} (host : Host σ) : Host (σ × List HostCall) where
  spawn program directory arguments := fun (world, calls) =>
    let (child, after) := host.spawn program directory arguments world
    (child, after, calls ++ [.spawn program directory arguments child])
  peakKb := fun (world, calls) =>
    let (reading, after) := host.peakKb world
    (reading, after, calls ++ [.peakKb reading])
  now := fun (world, calls) =>
    let (time, after) := host.now world
    (time, after, calls ++ [.now time])
  writeFile path text := fun (world, calls) =>
    let (outcome, after) := host.writeFile path text world
    (outcome, after, calls ++ [.writeFile path text outcome])

section

variable {σ : Type} {host : Host σ} {path : Path} {before after : σ} {outcome : Except OsFault Unit}

theorem Host.recording_writeFile {text : String}
    (write : host.writeFile path text before = (outcome, after)) (calls : List HostCall) :
    host.recording.writeFile path text (before, calls) =
      (outcome, after, calls ++ [.writeFile path text outcome]) := by
  simp only [recording, write]

theorem Report.store_of_writeFile {report : Report}
    (write : host.writeFile path report.document before = (outcome, after)) :
    report.store host path before = (outcome.mapError (.write path), after) := by
  unfold store
  rw [write]

end

namespace Event

/-- The event is an action that the host has a part in. -/
def asksHost : Event → Bool
  | .clean _ | .build .. | .clock _ | .reading _ => true
  | _ => false

/-- For a clean, whether it went well. -/
def cleaned? : Event → Option Bool
  | .clean outcome => some outcome.isOk
  | _ => none

theorem cleaned?_of_not_asksHost {event : Event} (quiet : event.asksHost = false) :
    event.cleaned? = none := by
  cases event <;> first | rfl | cases quiet

end Event

namespace BuildTool

variable {σ α β : Type}

/-- A child did its job if it was started and its status word is zero, and in no other case. -/
theorem judge_ok_iff (tool : BuildTool) (action : String) (child : Except OsFault WaitStatus) :
    tool.judge action child = .ok () ↔ ∃ status, child = .ok status ∧ status.word = 0 := by
  cases child with
  | error fault => simp [judge]
  | ok status =>
    by_cases success : status.success = true
    · simp [judge, success, (status.success_iff).mp success]
    · have word : status.word ≠ 0 := fun h => success (status.success_iff.mpr h)
      simp [judge, success, word]

/-- A child that did not do its job is the build tool's error. -/
theorem isBuildTool_of_judge {tool : BuildTool} {action : String}
    {child : Except OsFault WaitStatus} {error : Error}
    (h : tool.judge action child = .error error) :
    error.isBuildTool = true := by
  cases child with
  | error fault =>
    cases h
    rfl
  | ok status =>
    unfold judge at h
    dsimp only at h
    split at h
    · cases h
    · cases h
      rfl

theorem judge_isOk (tool : BuildTool) (action : String) {program : String} {directory : Path}
    {arguments : List String} (child : Except OsFault WaitStatus) :
    (tool.judge action child).isOk =
      (HostCall.spawn program directory arguments child).wentWell := by
  cases child with
  | error fault => rfl
  | ok status => by_cases word : status.word = 0 <;>
      simp [judge, WaitStatus.success, HostCall.wentWell, word, Except.isOk, Except.toBool]

/-- An event on the tool's rig, and the one call it made. A clean attempts a child with the
arguments for cleaning, a build one with the arguments for building its configuration. -/
inductive Causes (tool : BuildTool) (config : Config) : Event → HostCall → Prop where
  | clean (child : Except OsFault WaitStatus) :
      Causes tool config (.clean (tool.judge "distclean" child))
        (.spawn tool.program tool.directory Config.cleanArguments child)
  | build (child : Except OsFault WaitStatus) :
      Causes tool config (.build config.buildArguments (tool.judge "build" child))
        (.spawn tool.program tool.directory config.buildArguments child)
  | clock (time : Duration) : Causes tool config (.clock time) (.now time)
  | reading (answer : Except OsFault Nat) :
      Causes tool config (.reading (answer.mapError .resourceUsage)) (.peakKb answer)

/-- The calls that events made, one for each event that asks the host. -/
def Caused (tool : BuildTool) (config : Config) (events : List Event) (calls : List HostCall) :
    Prop :=
  List.Forall₂ (tool.Causes config) (events.filter Event.asksHost) calls

/-- On the recording host a computation does what it does on the host itself, and adds the calls
that its events made. -/
def Records (tool : BuildTool) (config : Config) (recorded : Bench (σ × List HostCall) α)
    (plain : Bench σ α) : Prop :=
  ∀ world calls, ∃ made,
    recorded (world, calls) =
      ⟨(plain world).result, (plain world).events, (plain world).world, calls ++ made⟩ ∧
    tool.Caused config (plain world).events made

variable {tool : BuildTool} {config : Config}

theorem Caused.append {front back : List Event} {xs ys : List HostCall}
    (left : tool.Caused config front xs) (right : tool.Caused config back ys) :
    tool.Caused config (front ++ back) (xs ++ ys) := by
  unfold Caused
  rw [List.filter_append]
  exact List.rel_append left right

theorem Caused.split {front back : List Event} {calls : List HostCall}
    (caused : tool.Caused config (front ++ back) calls) :
    ∃ xs ys, calls = xs ++ ys ∧ tool.Caused config front xs ∧ tool.Caused config back ys := by
  unfold Caused at caused
  rw [List.filter_append] at caused
  have first := (List.forall₂_take_append _ _ _ caused.flip).flip
  have second := (List.forall₂_drop_append _ _ _ caused.flip).flip
  exact ⟨_, _, (List.take_append_drop _ calls).symm, first, second⟩

/-- A clean makes exactly one call, which is a child with the arguments for cleaning. -/
theorem Caused.of_clean {outcome : Except Error Unit} {calls : List HostCall}
    (caused : tool.Caused config [.clean outcome] calls) :
    ∃ child, outcome = tool.judge "distclean" child ∧
      calls = [.spawn tool.program tool.directory Config.cleanArguments child] := by
  cases caused with
  | cons cause rest =>
    cases cause with
    | clean child =>
      cases rest
      exact ⟨child, rfl, rfl⟩

/-- The event of a call failed exactly if the call did not go well. -/
theorem Causes.wentWell {event : Event} {call : HostCall}
    (cause : tool.Causes config event call) : call.wentWell = !event.isFailure := by
  cases cause with
  | clean child =>
    rw [← judge_isOk tool "distclean"]
    cases tool.judge "distclean" child <;> rfl
  | build child =>
    rw [← judge_isOk tool "build"]
    cases tool.judge "build" child <;> rfl
  | clock time => rfl
  | reading answer => cases answer <;> rfl

theorem Causes.cleaned? {event : Event} {call : HostCall}
    (cause : tool.Causes config event call) : event.cleaned? = call.cleaned? := by
  cases cause with
  | clean child =>
    simp only [Event.cleaned?, HostCall.cleaned?, if_pos]
    rw [← judge_isOk tool "distclean"]
  | build child =>
    have different : config.buildArguments ≠ Config.cleanArguments := by
      simp [Config.buildArguments, Config.cleanArguments]
    simp only [Event.cleaned?, HostCall.cleaned?, if_neg different]
  | clock time => rfl
  | reading answer => rfl

/-- What is read off events can be read off their calls, if each event agrees with its call. -/
theorem Caused.filterMap_eq {γ : Type} {f : Event → Option γ} {g : HostCall → Option γ}
    {events : List Event} {calls : List HostCall} (caused : tool.Caused config events calls)
    (quiet : ∀ event, event.asksHost = false → f event = none)
    (agree : ∀ event call, tool.Causes config event call → f event = g call) :
    events.filterMap f = calls.filterMap g := by
  induction events generalizing calls with
  | nil =>
    cases caused
    rfl
  | cons event rest ih =>
    unfold Caused at caused
    cases asks : event.asksHost with
    | false =>
      rw [List.filter_cons_of_neg (by simp [asks])] at caused
      rw [List.filterMap_cons_none (quiet event asks)]
      exact ih caused
    | true =>
      rw [List.filter_cons_of_pos asks] at caused
      cases caused with
      | cons cause tail =>
        rw [List.filterMap_cons, List.filterMap_cons, agree _ _ cause, ih tail]

theorem Caused.countP_eq {p : Event → Bool} {q : HostCall → Bool} {events : List Event}
    {calls : List HostCall} (caused : tool.Caused config events calls)
    (quiet : ∀ event, event.asksHost = false → p event = false)
    (agree : ∀ event call, tool.Causes config event call → p event = q call) :
    events.countP p = calls.countP q := by
  have same := caused.filterMap_eq (f := fun event => if p event then some () else none)
    (g := fun call => if q call then some () else none)
    (fun event silent => by simp [quiet event silent])
    (fun event call cause => by simp [agree event call cause])
  have kept (b : Bool) : (if b then some () else none).isSome = b := by cases b <;> rfl
  have lengths := congrArg List.length same
  simp only [List.length_filterMap_eq_countP, kept] at lengths
  exact lengths

/-- The calls of a run went well exactly if no event failed. -/
theorem Caused.wentWell_iff {events : List Event} {calls : List HostCall}
    (caused : tool.Caused config events calls) :
    (∀ call ∈ calls, call.wentWell = true) ↔ events.countP Event.isFailure = 0 := by
  have same := caused.countP_eq (p := Event.isFailure) (q := fun call => !call.wentWell)
    (fun event quiet => by cases event <;> simp_all [Event.asksHost, Event.isFailure])
    (fun event call cause => by rw [cause.wentWell, Bool.not_not])
  rw [same, List.countP_eq_zero]
  simp only [Bool.not_eq_true', Bool.not_eq_false]

theorem Caused.not_isWrite {events : List Event} {calls : List HostCall}
    (caused : tool.Caused config events calls) : ∀ call ∈ calls, call.isWrite = false := by
  have same := caused.countP_eq (p := fun _ => false) (q := HostCall.isWrite)
    (fun event quiet => rfl) (fun event call cause => by cases cause <;> rfl)
  rw [List.countP_false] at same
  simpa using same.symm

theorem Caused.countP_isChild {events : List Event} {calls : List HostCall}
    (caused : tool.Caused config events calls) :
    events.countP Event.isToolCall = calls.countP HostCall.isChild :=
  caused.countP_eq
    (fun event quiet => by cases event <;> simp_all [Event.asksHost, Event.isToolCall])
    (fun event call cause => by cases cause <;> rfl)

theorem records_pure (a : α) :
    tool.Records config (pure a : Bench (σ × List HostCall) α) (pure a) :=
  fun _ calls => ⟨[], by rw [List.append_nil]; rfl, .nil⟩

theorem records_bind {recorded : Bench (σ × List HostCall) α} {plain : Bench σ α}
    {recordedNext : α → Bench (σ × List HostCall) β} {next : α → Bench σ β}
    (first : tool.Records config recorded plain)
    (rest : ∀ a, tool.Records config (recordedNext a) (next a)) :
    tool.Records config (recorded >>= recordedNext) (plain >>= next) := by
  intro world calls
  obtain ⟨made, same, caused⟩ := first world calls
  cases h : plain world with
  | mk result events after =>
    rw [h] at same caused
    cases result with
    | error e =>
      rw [Bench.bind_error h, Bench.bind_error same]
      exact ⟨made, rfl, caused⟩
    | ok a =>
      rw [Bench.bind_ok h, Bench.bind_ok same]
      obtain ⟨more, sameRest, causedRest⟩ := rest a after (calls ++ made)
      refine ⟨made ++ more, ?_, caused.append causedRest⟩
      rw [sameRest, List.append_assoc]

theorem records_emit {event : Event} (quiet : event.asksHost = false) :
    tool.Records config (Bench.emit event : Bench (σ × List HostCall) Unit) (Bench.emit event) := by
  intro world calls
  refine ⟨[], by rw [List.append_nil]; rfl, ?_⟩
  unfold Caused
  rw [show (Bench.emit event world).events = [event] from rfl,
    List.filter_cons_of_neg (by simp [quiet])]
  exact .nil

section

variable (tool config) (host : Host σ)

theorem records_cleaning :
    tool.Records config ((tool.rig host.recording).cleaning config)
      ((tool.rig host).cleaning config) :=
  fun _ _ => ⟨_, rfl, .cons (.clean _) .nil⟩

/-- Every part of a trial is recorded. -/
theorem relates_records :
    Rig.Relates (fun _ => tool.Records config) (tool.rig host.recording) config (tool.rig host)
      config where
  pure := records_pure
  bind := records_bind
  cleaning := records_cleaning tool config host
  announcing _ := records_emit rfl
  building _ _ := ⟨_, rfl, .cons (.build _) .nil⟩
  readingClock _ _ := ⟨_, rfl, .cons (.clock _) .nil⟩
  readingPeak _ _ := ⟨_, rfl, .cons (.reading _) .nil⟩
  measured _ _ := records_emit rfl

/-- A benchmark goes the same way whether or not its calls are recorded. -/
theorem records_benchmark :
    tool.Records config ((tool.rig host.recording).benchmark config)
      ((tool.rig host).benchmark config) := by
  intro world calls
  obtain ⟨made, sameTrials, causedTrials⟩ :=
    (relates_records tool config host).trials config.runs 1 .empty world calls
  have last := records_cleaning tool config host
    ((tool.rig host).trials config config.runs 1 .empty world).world (calls ++ made)
  obtain ⟨more, sameLast, causedLast⟩ := last
  refine ⟨made ++ more, ?_, ?_⟩
  · unfold Rig.benchmark
    rw [sameTrials]
    dsimp only
    rw [sameLast, List.append_assoc]
    dsimp only
    split <;> rfl
  · have caused := causedTrials.append causedLast
    unfold Rig.benchmark
    dsimp only
    split
    · exact caused
    · exact caused
    · exact caused
    · rw [← List.append_nil (made ++ more)]
      exact caused.append .nil

/-- What stops a benchmark of a build tool is the tool, or the reading of the peak memory. -/
theorem benchmark_cause {world : σ} {error : Error}
    (h : ((tool.rig host).benchmark config world).result = .error error) :
    error.isBuildTool = true ∨ ∃ fault, error = .resourceUsage fault := by
  obtain ⟨event, -, failed, before, after, step⟩ := Rig.benchmark_error _ config h
  cases step with
  | clean => exact .inl (isBuildTool_of_judge (Event.failure?_clean.mp failed))
  | build => exact .inl (isBuildTool_of_judge (Event.failure?_build.mp failed))
  | reading =>
    have refused := Event.failure?_reading.mp failed
    unfold rig reading at refused
    dsimp only at refused
    cases answer : (host.peakKb before).1 with
    | ok peakKb =>
      rw [answer] at refused
      cases refused
    | error fault =>
      rw [answer] at refused
      cases refused
      exact .inr ⟨fault, rfl⟩
  | announce => cases failed
  | clock => cases failed
  | measured => cases failed
  | teardownFailed => cases failed

end

end BuildTool

end ColdBuild
