import ColdBuild.Host
import ColdBuild.Proofs.Config.Acceptance
import ColdBuild.Proofs.Rig.Measurement
import ColdBuild.Proofs.Rig.Relation
import Mathlib.Data.List.Forall2

/-!
# What a configuration cannot influence

A rig is impartial if it answers every configuration alike, as one that follows a script does. On
such a rig two configurations that ask for equally many trials are benchmarked alike: the same
actions with the same outcomes, the same records in the log and the same figures. Only the arguments
of the builds and the label of the report tell them apart (`Impartial.benchmark_eq`), and neither
depends on where the report goes or on how the compiler is spelled.
-/
namespace ColdBuild

/-- The event, with other arguments if it is a build. -/
def Event.withArguments (arguments : List String) : Event → Event
  | .build _ outcome => .build arguments outcome
  | event => event

def Report.withLabel (label : String) (report : Report) : Report := { report with label }

def Outcome.withArguments {σ α : Type} (arguments : List String) (outcome : Outcome σ α) :
    Outcome σ α :=
  { outcome with events := outcome.events.map (Event.withArguments arguments) }

namespace Event

theorem record?_withArguments (arguments : List String) (event : Event) :
    (event.withArguments arguments).record? = event.record? := by
  cases event <;> rfl

/-- A benchmark logs nothing about the arguments of its builds. -/
theorem records_withArguments (arguments : List String) (events : List Event) :
    (events.map (withArguments arguments)).filterMap record? = events.filterMap record? := by
  rw [List.filterMap_map]
  congr 1
  funext event
  exact record?_withArguments arguments event

end Event

/-- Records of a tool that stand at one place in the logs of two benchmarks. They are the same,
except that where a build begins each names the arguments of its own configuration. -/
inductive BuildTool.Alike (tool : BuildTool) (a b : Config) : LogRecord → LogRecord → Prop where
  | same (entry : LogRecord) : Alike tool a b entry entry
  | build : Alike tool a b (tool.running a.buildArguments) (tool.running b.buildArguments)

/-- Other arguments of builds are seen only in the records that announce these builds. -/
theorem BuildTool.alike_records (tool : BuildTool) (a b : Config) (events : List Event) :
    List.Forall₂ (tool.Alike a b)
      ((events.map (Event.withArguments a.buildArguments)).flatMap tool.records)
      ((events.map (Event.withArguments b.buildArguments)).flatMap tool.records) := by
  induction events with
  | nil => exact .nil
  | cons event rest ih =>
    simp only [List.map_cons, List.flatMap_cons]
    refine List.rel_append ?_ ih
    cases event with
    | build arguments outcome => exact .cons .build .nil
    | clean outcome => exact .cons (.same _) .nil
    | measured index runs trial => exact .cons (.same _) .nil
    | teardownFailed error => exact .cons (.same _) .nil
    | announce index runs => exact .nil
    | clock time => exact .nil
    | reading outcome => exact .nil

/-- A tally is finished in the same way under any label. -/
theorem Tally.finish_withLabel (tally : Tally) (label other : String) :
    tally.finish other = (tally.finish label).map (Report.withLabel other) := by
  rcases Nat.eq_zero_or_pos tally.trials.toNat with none | pos
  · rw [finish_of_eq_zero none, finish_of_eq_zero none]
    rfl
  · rw [finish_of_pos pos, finish_of_pos pos]
    rfl

namespace Rig

variable {σ α β : Type}

/-- The rig's answers do not depend on the configuration. -/
structure Impartial (rig : Rig σ) : Prop where
  clean (a b : Config) : rig.clean a = rig.clean b
  build (a b : Config) : rig.build a = rig.build b

/-- The second computation does what the first one does, but its builds have other arguments. -/
def Readdressed (arguments : List String) (bench other : Bench σ α) : Prop :=
  ∀ world, other world = (bench world).withArguments arguments

theorem readdressed_pure (arguments : List String) (a : α) :
    Readdressed arguments (pure a : Bench σ α) (pure a) := fun _ => rfl

theorem readdressed_bind {arguments : List String} {first other : Bench σ α}
    {next otherNext : α → Bench σ β} (start : Readdressed arguments first other)
    (rest : ∀ a, Readdressed arguments (next a) (otherNext a)) :
    Readdressed arguments (first >>= next) (other >>= otherNext) := by
  intro world
  have begun := start world
  cases h : first world with
  | mk result events after =>
    rw [h] at begun
    cases result with
    | ok a =>
      rw [Bench.bind_ok h, Bench.bind_ok begun, rest a after]
      simp [Outcome.withArguments]
    | error e =>
      rw [Bench.bind_error h, Bench.bind_error begun]
      rfl

namespace Impartial

variable {rig : Rig σ} (impartial : rig.Impartial) (a b : Config)
include impartial

theorem readdressed_cleaning :
    Readdressed b.buildArguments (rig.cleaning a) (rig.cleaning b) := by
  intro world
  unfold cleaning
  rw [impartial.clean b a]
  rfl

theorem readdressed_building :
    Readdressed b.buildArguments (rig.building a) (rig.building b) := by
  intro world
  unfold building
  rw [impartial.build b a]
  rfl

/-- Every part of a trial is the same for both, up to the arguments of its build. -/
theorem relates_readdressed (same : a.runs = b.runs) :
    Relates (fun _ => Readdressed b.buildArguments) rig a rig b where
  pure := readdressed_pure b.buildArguments
  bind := readdressed_bind
  cleaning := impartial.readdressed_cleaning a b
  announcing index world := by rw [same]; rfl
  building := impartial.readdressed_building a b
  readingClock _ := rfl
  readingPeak _ := rfl
  measured index trial world := by rw [same]; rfl

/-- The benchmark of one configuration is that of the other, with its own arguments in the builds
and its own label on the report. -/
theorem benchmark_eq (same : a.runs = b.runs) (world : σ) :
    rig.benchmark b world =
      ⟨(rig.benchmark a world).result.map (Report.withLabel b.label),
        (rig.benchmark a world).events.map (Event.withArguments b.buildArguments),
        (rig.benchmark a world).world⟩ := by
  have trials := (impartial.relates_readdressed a b same).trials a.runs 1 .empty world
  have last := impartial.readdressed_cleaning a b (rig.trials a a.runs 1 .empty world).world
  unfold benchmark
  rw [← same, trials]
  dsimp only [Outcome.withArguments]
  rw [last]
  dsimp only [Outcome.withArguments]
  cases (rig.trials a a.runs 1 .empty world).result with
  | ok tally =>
    cases (rig.cleaning a (rig.trials a a.runs 1 .empty world).world).result with
    | ok _ => simp [tally.finish_withLabel a.label b.label]
    | error late => simp [Except.map]
  | error e =>
    cases (rig.cleaning a (rig.trials a a.runs 1 .empty world).world).result with
    | ok _ => simp [Except.map]
    | error late => simp [Except.map, Event.withArguments]

/-- The figures of the report are the same, or the error is; the label is that of the
configuration. -/
theorem benchmark_result_eq (same : a.runs = b.runs) (world : σ) :
    match (rig.benchmark a world).result, (rig.benchmark b world).result with
    | .ok report, .ok other =>
      other.averageSeconds = report.averageSeconds ∧ other.maxKb = report.maxKb ∧
        other.runs = report.runs ∧ report.label = a.label ∧ other.label = b.label
    | .error error, .error other => other = error
    | _, _ => False := by
  have own := congrArg Outcome.result (impartial.benchmark_eq a a rfl world)
  rw [congrArg Outcome.result (impartial.benchmark_eq a b same world)]
  cases h : (rig.benchmark a world).result with
  | error error => rfl
  | ok report =>
    rw [h] at own
    exact ⟨rfl, rfl, rfl, congrArg Report.label (Except.ok.inj own), rfl⟩

/-- Where the report goes makes no difference to a benchmark. -/
theorem benchmark_output (path : Path) (world : σ) :
    rig.benchmark { a with output := path } world = rig.benchmark a world := by
  rw [impartial.benchmark_eq a { a with output := path } rfl world]
  exact (impartial.benchmark_eq a a rfl world).symm

end Impartial

end Rig

/-- A rig that follows a script is impartial. -/
theorem Script.impartial_rig : Script.rig.Impartial := ⟨fun _ _ => rfl, fun _ _ => rfl⟩

/-- A build tool is impartial on a host where its child ends in the same way whatever it builds. -/
theorem BuildTool.impartial_rig {τ : Type} {tool : BuildTool} {host : Host τ}
    (alike : ∀ a b : Config, host.spawn tool.program tool.directory a.buildArguments =
      host.spawn tool.program tool.directory b.buildArguments) : (tool.rig host).Impartial where
  clean _ _ := rfl
  build a b := by
    funext world
    simp only [rig, build, run, alike a b]

namespace Rig

/-- Compiler, architecture, linking and path have no influence on what is measured. Take a rig that
follows a script, or any other that answers every configuration alike. Two configurations that ask
for equally many trials have the same events on it, one by one, but for the arguments of the builds,
and leave it in the same state. They log the same, where again only the records that announce builds
name other arguments, and end with the same error or with the same figures under their own labels.
If they differ in their paths at most, arguments, labels, outcomes and documents are the same; and
so are those of two requests that spell the compiler `cc` and `gcc`. -/
theorem benchmark_impartial :
    Script.rig.Impartial ∧
    (∀ (τ : Type) (tool : BuildTool) (host : Host τ),
      (∀ a b : Config, host.spawn tool.program tool.directory a.buildArguments =
        host.spawn tool.program tool.directory b.buildArguments) → (tool.rig host).Impartial) ∧
    ∀ (σ : Type) (rig : Rig σ) (world : σ), rig.Impartial →
      (∀ a b : Config, a.runs = b.runs →
        (rig.benchmark b world).events =
          (rig.benchmark a world).events.map (Event.withArguments b.buildArguments) ∧
        (rig.benchmark b world).world = (rig.benchmark a world).world ∧
        (rig.benchmark b world).events.filterMap Event.record? =
          (rig.benchmark a world).events.filterMap Event.record? ∧
        (∀ tool : BuildTool, List.Forall₂ (tool.Alike a b)
          ((rig.benchmark a world).events.flatMap tool.records)
          ((rig.benchmark b world).events.flatMap tool.records)) ∧
        match (rig.benchmark a world).result, (rig.benchmark b world).result with
        | .ok report, .ok other =>
          other.averageSeconds = report.averageSeconds ∧ other.maxKb = report.maxKb ∧
            other.runs = report.runs ∧ report.label = a.label ∧ other.label = b.label
        | .error error, .error other => other = error
        | _, _ => False) ∧
      (∀ (a : Config) (path : Path),
        ({ a with output := path } : Config).buildArguments = a.buildArguments ∧
        ({ a with output := path } : Config).label = a.label ∧
        rig.benchmark { a with output := path } world = rig.benchmark a world ∧
        (rig.benchmark { a with output := path } world).result.map Report.document =
          (rig.benchmark a world).result.map Report.document) ∧
      ∀ request : Request,
        ({ request with hostCompiler := "cc" } : Request).resolve =
          ({ request with hostCompiler := "gcc" } : Request).resolve ∧
        rig.serve { request with hostCompiler := "cc" } world =
          rig.serve { request with hostCompiler := "gcc" } world := by
  refine ⟨Script.impartial_rig, fun _ _ _ => BuildTool.impartial_rig,
    fun σ rig world impartial => ⟨fun a b same => ?_, fun a path => ?_, fun request => ?_⟩⟩
  · have events : (rig.benchmark b world).events =
        (rig.benchmark a world).events.map (Event.withArguments b.buildArguments) :=
      congrArg Outcome.events (impartial.benchmark_eq a b same world)
    have own : (rig.benchmark a world).events =
        (rig.benchmark a world).events.map (Event.withArguments a.buildArguments) :=
      congrArg Outcome.events (impartial.benchmark_eq a a rfl world)
    have left : (rig.benchmark b world).world = (rig.benchmark a world).world := by
      rw [impartial.benchmark_eq a b same world]
    refine ⟨events, left, ?_, fun tool => ?_, impartial.benchmark_result_eq a b same world⟩
    · rw [events, Event.records_withArguments]
    · have alike := tool.alike_records a b (rig.benchmark a world).events
      rwa [← events, ← own] at alike
  · have outcome := impartial.benchmark_output a path world
    exact ⟨rfl, rfl, outcome, by rw [outcome]⟩
  · have resolved := @Request.resolve_respelled { request with hostCompiler := "gcc" } "cc"
      request.architecture rfl rfl
    exact ⟨resolved, by simp only [serve, resolved]⟩

/-- Three dynamic builds for another architecture with another compiler. -/
theorem benchmark_impartial_threeBuilds :
    let other : Config := { Config.threeRuns with
      hostCompiler := .clang, architecture := .riscv, linkMode := .dynamic }
    Script.rig.Impartial ∧ Config.threeRuns.runs = other.runs ∧
      Config.threeRuns.buildArguments ≠ other.buildArguments ∧
      ∃ report, (Script.rig.benchmark other .threeBuilds).result = .ok report ∧
        report.averageSeconds = Report.threeBuilds.averageSeconds ∧ report.maxKb = 1500 ∧
        report.label = "(HOSTCC, ARCH, DYNLINK)=(clang, riscv, dynamic)" := by
  intro other
  obtain ⟨impartial, -, all⟩ := benchmark_impartial
  obtain ⟨-, -, -, -, results⟩ :=
    (all Script Script.rig .threeBuilds impartial).1 .threeRuns other rfl
  rw [result_threeBuilds] at results
  refine ⟨impartial, rfl, by decide, ?_⟩
  cases h : (Script.rig.benchmark other .threeBuilds).result with
  | error error =>
    rw [h] at results
    exact results.elim
  | ok report =>
    rw [h] at results
    obtain ⟨average, peak, -, -, label⟩ := results
    exact ⟨report, rfl, average, peak, label.trans (by decide)⟩

end Rig

end ColdBuild
