import ColdBuild.Benchmark
import ColdBuild.CommandLine.Arguments
import ColdBuild.CommandLine.Help
import ColdBuild.Environment
import ColdBuild.Host
import ColdBuild.Report.Summary

/-!
# A session on the command line

A session reads its arguments, resolves the request, benchmarks it on a host, stores the report
and shows the summary. It stops at the first step that fails, with that step's error on the
diagnostic output: a command line that cannot be understood exits with status two, every other
error with one. The summary is shown only after the report has been stored.

The environment decides whether text is coloured and refines which log records are shown.
-/

namespace ColdBuild

/-- A line for the diagnostic output. -/
inductive Diagnostic where
  | logged (entry : LogRecord) (coloured : Bool)
  | said (text : String)
  deriving DecidableEq, Repr

/-- The line as it is written, with the time of day where it is a record. -/
def Diagnostic.text (stamp : String) : Diagnostic → String
  | .logged entry coloured => entry.line stamp coloured
  | .said text => text

/-- What a session has shown, and how it ended. -/
structure Transcript (σ : Type) where
  exit : Nat
  output : String
  diagnostics : List Diagnostic
  world : σ

namespace Environment

/-- Which records are shown at a verbosity, as the environment refines it, and the warnings
about what it could not read. -/
def logFilter (environment : Environment) (verbosity : Nat) : LogFilter × List Diagnostic :=
  let filter := LogFilter.upTo (match verbosity with
    | 0 => .warn
    | 1 => .info
    | _ => .debug)
  match environment.lookup "RUST_LOG" with
  | none => (filter, [])
  | some text =>
    let (refined, warnings) := filter.refine text
    (refined, warnings.map fun warning => .said s!"warning: {warning}, ignoring it\n")

end Environment

namespace Session

def target : String := "shecc_bench"

/-- Logged before the first trial. -/
def toolRecord (tool : BuildTool) : LogRecord where
  level := .debug
  target := target
  message := s!"build tool `{tool.program}` in {tool.directory.display}"

/-- Logged after the report has been stored. -/
def storedRecord (path : Path) : LogRecord where
  level := .info
  target := target
  message := s!"wrote {path.display}"

/-- The progress lines among events. -/
def progress (events : List Event) : String :=
  String.join (events.map fun
    | .announce index runs => progressLine index runs ++ "\n"
    | _ => "")

variable {σ : Type}

def perform (host : Host σ) (environment : Environment) (options : Options) (world : σ) :
    Transcript σ :=
  let colour := environment.colour
  let (filter, warnings) := environment.logFilter options.verbosity
  let shown (records : List LogRecord) : List Diagnostic :=
    (records.filter filter.shows).map (.logged · environment.logColour)
  let failed (e : Error) : Diagnostic := .said (e.message ++ "\n")
  match options.request.resolve with
  | .error e => ⟨1, "", warnings ++ [failed e], world⟩
  | .ok config =>
    let tool : BuildTool := { program := options.tool, directory := options.directory }
    let run := (tool.rig host).benchmark config world
    let output := Span.renderAll colour config.header ++ progress run.events
    let diagnostics :=
      warnings ++ shown (toolRecord tool :: run.events.flatMap tool.records)
    match run.result with
    | .error e => ⟨1, output, diagnostics ++ [failed e], run.world⟩
    | .ok report =>
      match report.store host config.output run.world with
      | (.error e, world) => ⟨1, output, diagnostics ++ [failed e], world⟩
      | (.ok (), world) =>
        ⟨0, output ++ Span.renderAll colour (report.summary config.output),
          diagnostics ++ shown [storedRecord config.output], world⟩

def run (host : Host σ) (environment : Environment) (arguments : List String) (world : σ) :
    Transcript σ :=
  match Reading.all arguments with
  | .error .help =>
    ⟨0, Span.showAll environment.messageColour (helpSpans environment.tool), [], world⟩
  | .error .version => ⟨0, versionText, [], world⟩
  | .error (.mistake error) =>
    ⟨2, "", [.said (Span.showAll environment.messageColour (error.report ++ [.plain "\n"]))], world⟩
  | .ok given => perform host environment (given.complete environment.tool) world

end Session

end ColdBuild
