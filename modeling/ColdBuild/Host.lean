import ColdBuild.Report.Document
import ColdBuild.Rig.Record

/-!
# Hosts and build tools

A host is what the operating system offers to a benchmark: it runs a program to its end, tells
the peak memory of the children that have ended, has a clock and writes files. A build tool is a
program and the directory it runs in; on a host it is a rig. Each clean and each build attempts
exactly one child, and goes well only if the child was started and its status word is zero.
-/

namespace ColdBuild

/-- What the operating system offers, acting on a world. -/
structure Host (σ : Type) where
  /-- Runs a program in a directory until it ends. -/
  spawn : (program : String) → (directory : Path) → (arguments : List String) → σ →
    Except OsFault WaitStatus × σ
  /-- The high-water mark of memory over all ended children, in KB. -/
  peakKb : σ → Except OsFault Nat × σ
  now : σ → Duration × σ
  /-- Makes a file hold exactly a text. -/
  writeFile : Path → String → σ → Except OsFault Unit × σ

/-- The program that cleans and builds, and where it does so. -/
structure BuildTool where
  program : String := "make"
  directory : Path := .ofString "."
  deriving DecidableEq

instance : Inhabited BuildTool := ⟨{}⟩

namespace BuildTool

variable {σ : Type}

/-- Why a child that was attempted did not do its job, if it did not. -/
def judge (tool : BuildTool) (action : String) :
    Except OsFault WaitStatus → Except Error Unit
  | .error fault => .error (.spawn action tool.program fault)
  | .ok status =>
    if status.success then .ok () else .error (.buildTool action tool.program status)

def run (tool : BuildTool) (host : Host σ) (action : String) (arguments : List String) (world : σ) :
    Except Error Unit × σ :=
  let (child, world) := host.spawn tool.program tool.directory arguments world
  (tool.judge action child, world)

def clean (tool : BuildTool) (host : Host σ) : σ → Except Error Unit × σ :=
  tool.run host "distclean" Config.cleanArguments

def build (tool : BuildTool) (host : Host σ) (config : Config) : σ → Except Error Unit × σ :=
  tool.run host "build" config.buildArguments

/-- The reading of a host's peak memory, as a benchmark takes it. -/
def reading (host : Host σ) (world : σ) : Except Error Nat × σ :=
  let (reading, world) := host.peakKb world
  (reading.mapError .resourceUsage, world)

/-- The tool on a host as a rig. -/
def rig (tool : BuildTool) (host : Host σ) : Rig σ where
  clean _ := tool.clean host
  build := tool.build host
  peakKb := reading host
  now := host.now

/-- The module that the records of a build tool name. -/
def target : String := "shecc_bench::driver"

/-- The record that precedes a child with the given arguments. -/
def running (tool : BuildTool) (arguments : List String) : LogRecord :=
  let command := " ".intercalate (tool.program :: arguments)
  { level := .debug, target := target
    message := s!"running `{command}` in {tool.directory.display}" }

/-- What is logged about an event when the rig is this tool. -/
def records (tool : BuildTool) : Event → List LogRecord
  | .clean _ => [tool.running Config.cleanArguments]
  | .build arguments _ => [tool.running arguments]
  | event => event.record?.toList

end BuildTool

/-- Stores a report's document at a path; directories are not made for it. -/
def Report.store {σ : Type} (report : Report) (host : Host σ) (path : Path) (world : σ) :
    Except Error Unit × σ :=
  let (outcome, world) := host.writeFile path report.document world
  (outcome.mapError (.write path), world)

end ColdBuild
