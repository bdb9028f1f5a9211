import ColdBuild.Proofs.Config.Acceptance
import ColdBuild.Proofs.Host.Recording
import ColdBuild.Proofs.Rig.Failure
import ColdBuild.Proofs.Session.Progress
import ColdBuild.Session

/-!
# How a session ends

A session whose arguments were understood ends in one of four ways: its request is refused, its
benchmark is aborted, its report cannot be stored, or its report is stored. Each way fixes the exit
code, the output, the last diagnostic and the calls of the host at once. A session is all or
nothing: it exits with zero exactly if its request resolves and every call of the host went well,
and nothing is written before all trials are over.
-/
namespace ColdBuild

/-- Whatever text is written at a path in a world, `read` finds it there if writing it went well.
Of a device that only swallows what it is given this does not hold. -/
def Host.Keeps {σ : Type} (host : Host σ) (read : Path → σ → Option String) (path : Path)
    (before : σ) : Prop :=
  ∀ text after, host.writeFile path text before = (.ok (), after) → read path after = some text

open BuildTool (judge_ok_iff records_benchmark benchmark_cause)

namespace Transcript

variable {σ : Type}

/-- The session showed `output` and ended with an error, which was said last. -/
structure Stopped (transcript : Transcript σ) (output : String) (error : Error) : Prop where
  exit : transcript.exit = 1
  output : transcript.output = output
  said : transcript.diagnostics.getLast? = some (.said (error.message ++ "\n"))

end Transcript

namespace Session

variable {σ : Type}

/-- The request was refused, before anything was done. -/
structure Refused (before : σ) (transcript : Transcript σ) (calls : List HostCall)
    (error : Error) : Prop where
  configuration : error.isConfiguration = true
  calls : calls = []
  world : transcript.world = before
  stopped : transcript.Stopped "" error

/-- What a session shows before its trials. -/
def opening (environment : Environment) (config : Config) : String :=
  Span.renderAll environment.colour config.header

/-- The benchmark failed. The last call was the last clean; the progress lines are those of just
the trials whose clean, among the calls before that one, went well. No file was written. -/
structure Aborted (environment : Environment) (config : Config) (transcript : Transcript σ)
    (calls : List HostCall) (error : Error) : Prop where
  cause : error.isBuildTool = true ∨ ∃ fault, error = .resourceUsage fault
  configuration : error.isConfiguration = false
  failed : ∃ call ∈ calls, call.wentWell = false
  unwritten : ∀ call ∈ calls, call.isWrite = false
  stopped : ∃ loop teardown, calls = loop ++ [teardown] ∧ teardown.cleaned?.isSome = true ∧
    transcript.Stopped (opening environment config ++ progressLines config.runs
      (startedTrials 1 (loop.filterMap HostCall.cleaned?))) error

/-- All that was asked for was done and went well up to the report; the one write comes after it. -/
def Measured (config : Config) (calls : List HostCall) (report : Report)
    (outcome : Except OsFault Unit) : Prop :=
  ∃ run, calls = run ++ [.writeFile config.output report.document outcome] ∧
    (∀ call ∈ run, call.wentWell = true ∧ call.isWrite = false) ∧
    run.countP HostCall.isChild = 2 * config.runs + 1

/-- The report could not be stored, and no summary was shown. -/
structure Unwritten (environment : Environment) (config : Config) (transcript : Transcript σ)
    (calls : List HostCall) (report : Report) (fault : OsFault) : Prop where
  measured : Measured config calls report (.error fault)
  stopped : transcript.Stopped (opening environment config ++
    progressLines config.runs (List.range' 1 config.runs)) (.write config.output fault)

/-- The report was stored, last of all, in the world `before` that the trials left, and then the
summary was shown. -/
structure Stored (host : Host σ) (environment : Environment) (config : Config) (before : σ)
    (transcript : Transcript σ) (calls : List HostCall) (report : Report) : Prop where
  measured : Measured config calls report (.ok ())
  exit : transcript.exit = 0
  output : transcript.output = opening environment config ++
    progressLines config.runs (List.range' 1 config.runs) ++
    Span.renderAll environment.colour (report.summary config.output)
  contents : ∀ read, host.Keeps read config.output before →
    read config.output transcript.world = some report.document

end Session

namespace Session

section

variable (environment : Environment) (options : Options)

def tool : BuildTool := { program := options.tool, directory := options.directory }

def shown (records : List LogRecord) : List Diagnostic :=
  (records.filter (environment.logFilter options.verbosity).1.shows).map
    (.logged · environment.logColour)

/-- What is on the diagnostic output when the trials are over. -/
def journal (events : List Event) : List Diagnostic :=
  (environment.logFilter options.verbosity).2 ++
    shown environment options
      (toolRecord (tool options) :: events.flatMap (tool options).records)

end

variable {host : Host σ} {environment : Environment} {options : Options} {world after : σ}
  {config : Config} {events : List Event}

theorem perform_refused {error : Error} (refused : options.request.resolve = .error error) :
    perform host environment options world =
      ⟨1, "", (environment.logFilter options.verbosity).2 ++ [.said (error.message ++ "\n")],
        world⟩ := by
  unfold perform
  rw [refused]

theorem perform_aborted {error : Error} (resolved : options.request.resolve = .ok config)
    (aborted : ((tool options).rig host).benchmark config world = ⟨.error error, events, after⟩) :
    perform host environment options world =
      ⟨1, opening environment config ++ progress events,
        journal environment options events ++ [.said (error.message ++ "\n")], after⟩ := by
  unfold perform
  rw [resolved]
  unfold tool at aborted
  dsimp only
  rw [aborted]
  rfl

theorem perform_unwritten {report : Report} {middle : σ} {fault : OsFault}
    (resolved : options.request.resolve = .ok config)
    (measured : ((tool options).rig host).benchmark config world = ⟨.ok report, events, middle⟩)
    (unwritten : host.writeFile config.output report.document middle = (.error fault, after)) :
    perform host environment options world =
      ⟨1, opening environment config ++ progress events,
        journal environment options events ++
          [.said ((Error.write config.output fault).message ++ "\n")], after⟩ := by
  unfold perform
  rw [resolved]
  unfold tool at measured
  dsimp only
  rw [measured]
  dsimp only
  rw [Report.store_of_writeFile unwritten]
  rfl

theorem perform_stored {report : Report} {middle : σ}
    (resolved : options.request.resolve = .ok config)
    (measured : ((tool options).rig host).benchmark config world = ⟨.ok report, events, middle⟩)
    (written : host.writeFile config.output report.document middle = (.ok (), after)) :
    perform host environment options world =
      ⟨0, opening environment config ++ progress events ++
          Span.renderAll environment.colour (report.summary config.output),
        journal environment options events ++
          shown environment options [storedRecord config.output], after⟩ := by
  unfold perform
  rw [resolved]
  unfold tool at measured
  dsimp only
  rw [measured]
  dsimp only
  rw [Report.store_of_writeFile written]
  rfl

section

variable {tool : BuildTool} {run : List HostCall}

/-- The calls of a benchmark end with one more clean, and tell the progress lines of the run. -/
theorem progress_of_caused {rig : Rig σ}
    (caused : tool.Caused config (rig.benchmark config world).events run) :
    ∃ loop teardown, run = loop ++ [teardown] ∧ teardown.cleaned?.isSome = true ∧
      progress (rig.benchmark config world).events =
        progressLines config.runs (startedTrials 1 (loop.filterMap HostCall.cleaned?)) := by
  obtain ⟨trials, teardown, remarks, whole, quiet, lines⟩ := rig.benchmark_progress config world
  have front : tool.Caused config (trials ++ [.clean teardown]) run := by
    unfold BuildTool.Caused at caused ⊢
    rw [whole, List.filter_append, List.filter_cons_of_pos rfl, quiet] at caused
    rwa [List.filter_append]
  obtain ⟨loop, last, rfl, causedLoop, causedLast⟩ := front.split
  obtain ⟨child, -, rfl⟩ := causedLast.of_clean
  have cleaned := causedLoop.filterMap_eq
    (fun event quiet => Event.cleaned?_of_not_asksHost quiet)
    (fun event call cause => cause.cleaned?)
  refine ⟨loop, _, rfl, rfl, ?_⟩
  rw [lines, cleaned]

theorem not_isConfiguration_of_cause {error : Error}
    (cause : error.isBuildTool = true ∨ ∃ fault, error = .resourceUsage fault) :
    error.isConfiguration = false := by
  rcases cause with tool | ⟨fault, rfl⟩
  · cases error <;> first | rfl | cases tool
  · rfl

theorem aborted_of_caused (environment : Environment) {error : Error} (before : List Diagnostic)
    (aborted : (tool.rig host).benchmark config world = ⟨.error error, events, after⟩)
    (caused : tool.Caused config events run) :
    Aborted environment config
      ⟨1, opening environment config ++ progress events,
        before ++ [.said (error.message ++ "\n")], after⟩ run error := by
  have result : ((tool.rig host).benchmark config world).result = .error error := by rw [aborted]
  have left : ((tool.rig host).benchmark config world).events = events := by rw [aborted]
  rw [← left] at caused ⊢
  have cause := benchmark_cause tool config host result
  obtain ⟨loop, teardown, split, clean, lines⟩ := progress_of_caused caused
  refine ⟨cause, not_isConfiguration_of_cause cause, ?_, caused.not_isWrite, loop, teardown, split,
    clean, rfl, ?_, List.getLast?_concat⟩
  · obtain ⟨event, member, failed, -⟩ := Rig.benchmark_error _ config result
    by_contra none
    have well : ∀ call ∈ run, call.wentWell = true := by simpa using none
    have absent := List.countP_eq_zero.mp (caused.wentWell_iff.mp well) event
      (List.mem_of_mem_filter member)
    exact absent (Event.isFailure_of_failure? failed)
  · rw [lines]

theorem measured_of_caused {report : Report}
    (measured : (tool.rig host).benchmark config world = ⟨.ok report, events, after⟩)
    (caused : tool.Caused config events run) (outcome : Except OsFault Unit) :
    Measured config (run ++ [.writeFile config.output report.document outcome]) report outcome ∧
      progress events = progressLines config.runs (List.range' 1 config.runs) := by
  have result : ((tool.rig host).benchmark config world).result = .ok report := by rw [measured]
  have left : ((tool.rig host).benchmark config world).events = events := by rw [measured]
  rw [← left] at caused ⊢
  have well := caused.wentWell_iff.mpr (Rig.benchmark_no_failure _ config result)
  have children := caused.countP_isChild
  rw [Rig.benchmark_toolCalls _ config result] at children
  have calls : ∀ call ∈ run, call.wentWell = true ∧ call.isWrite = false :=
    fun call member => ⟨well call member, caused.not_isWrite call member⟩
  exact ⟨⟨run, rfl, calls, children.symm⟩, Rig.progress_of_report _ config result⟩

end

theorem Measured.wentWell {calls : List HostCall} {report : Report}
    (measured : Measured config calls report (.ok ())) : ∀ call ∈ calls, call.wentWell = true := by
  obtain ⟨run, rfl, well, -⟩ := measured
  intro call member
  rcases List.mem_append.mp member with earlier | last
  · exact (well call earlier).1
  · rw [List.mem_singleton.mp last]
    rfl

theorem exit_iff_of_failed {transcript : Transcript σ} {calls : List HostCall} {resolves : Prop}
    (exit : transcript.exit = 1) (failed : ∃ call ∈ calls, call.wentWell = false) :
    transcript.exit = 0 ↔ resolves ∧ ∀ call ∈ calls, call.wentWell = true := by
  constructor
  · intro zero
    rw [exit] at zero
    cases zero
  · rintro ⟨-, well⟩
    obtain ⟨call, member, failed⟩ := failed
    rw [well call member] at failed
    cases failed

/-- A session is all or nothing, on every host and from every world. With the calls recorded it
goes the same way. It exits with zero exactly if its request resolves and every call went well. A
request that does not resolve is refused; otherwise the calls are those of the benchmark, where
every clean and every build is one child that must be started and end with status zero, and after a
report one write. A run that fails is aborted, and a report is stored or remains unwritten. -/
theorem perform_all_or_nothing (host : Host σ) (environment : Environment) (options : Options)
    (world : σ) :
    ∃ transcript calls,
      perform host environment options world = transcript ∧
      perform host.recording environment options (world, []) =
        ⟨transcript.exit, transcript.output, transcript.diagnostics, transcript.world, calls⟩ ∧
      (transcript.exit = 0 ↔
        (∃ config, options.request.resolve = .ok config) ∧ ∀ call ∈ calls, call.wentWell = true) ∧
      (∀ action child, (tool options).judge action child = .ok () ↔
        ∃ status, child = .ok status ∧ status.word = 0) ∧
      match options.request.resolve with
      | .error error => Refused world transcript calls error
      | .ok config =>
        ∃ run written, calls = run ++ written ∧
          (tool options).Caused config (((tool options).rig host).benchmark config world).events
            run ∧
          match (((tool options).rig host).benchmark config world).result with
          | .error error => written = [] ∧ Aborted environment config transcript calls error
          | .ok report =>
            ∃ outcome, written = [.writeFile config.output report.document outcome] ∧
              match outcome with
              | .error fault => Unwritten environment config transcript calls report fault
              | .ok () =>
                Stored host environment config
                  (((tool options).rig host).benchmark config world).world transcript calls
                  report := by
  have driver := judge_ok_iff (tool options)
  cases resolved : options.request.resolve with
  | error error =>
    refine ⟨_, [], perform_refused resolved, perform_refused resolved, ?_, driver, ?_⟩
    · simp
    · exact ⟨Request.isConfiguration_of_resolve resolved, rfl, rfl, rfl, rfl, List.getLast?_concat⟩
  | ok config =>
    obtain ⟨run, recorded, caused⟩ := records_benchmark (tool options) config host world []
    rw [List.nil_append] at recorded
    dsimp only
    cases plain : ((tool options).rig host).benchmark config world with
    | mk result events after =>
      rw [plain] at recorded caused
      cases result with
      | error error =>
        have aborted :=
          aborted_of_caused environment (journal environment options events) plain caused
        exact ⟨_, run, perform_aborted resolved plain, perform_aborted resolved recorded,
          exit_iff_of_failed rfl aborted.failed, driver, run, [], (List.append_nil run).symm,
          caused, rfl, aborted⟩
      | ok report =>
        cases write : host.writeFile config.output report.document after with
        | mk outcome final =>
          have recordedWrite := Host.recording_writeFile write run
          obtain ⟨measured, lines⟩ := measured_of_caused plain caused outcome
          cases outcome with
          | error fault =>
            refine ⟨_, _, perform_unwritten resolved plain write,
              perform_unwritten resolved recorded recordedWrite,
              exit_iff_of_failed rfl ⟨_, List.mem_concat_self, rfl⟩, driver, run, _, rfl, caused, _,
              rfl, measured, rfl, ?_, List.getLast?_concat⟩
            rw [lines]
          | ok _ =>
            refine ⟨_, _, perform_stored resolved plain write,
              perform_stored resolved recorded recordedWrite,
              ⟨fun _ => ⟨⟨config, rfl⟩, measured.wentWell⟩, fun _ => rfl⟩, driver, run, _, rfl,
              caused, _, rfl, measured, rfl, ?_, fun read keeps => keeps _ _ write⟩
            rw [lines]

end Session

end ColdBuild
