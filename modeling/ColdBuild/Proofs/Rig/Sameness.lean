import ColdBuild.Host
import ColdBuild.Proofs.Config.Acceptance
import ColdBuild.Proofs.Path
import ColdBuild.Proofs.Rig.Measurement
import ColdBuild.Proofs.Rig.Relation

/-!
# Configurations of one and the same benchmark

Configurations are compared field by field, and their paths by components. For two requests that
are accepted this comes to a comparison of what was given, where `cc` stands for `gcc`
(`Request.same_iff`).

A rig is consistent if it answers configurations alike that are the same. A rig that follows a
script is consistent, and so is a build tool, which knows a configuration by its build arguments
alone. On a consistent rig the same configurations are benchmarked in the same way, down to every
event (`Rig.Consistent.benchmark_eq`), although their paths may be shown as different texts.
-/
namespace ColdBuild

open Relation (ReflTransGen)

theorem LinkMode.ofDynamic_inj {a b : Bool} : ofDynamic a = ofDynamic b ↔ a = b := by
  cases a <;> cases b <;> decide

namespace Config

variable {a b : Config}

theorem same_iff :
    a.same b = true ↔
      a.hostCompiler = b.hostCompiler ∧ a.architecture = b.architecture ∧
        a.linkMode = b.linkMode ∧ a.runs = b.runs ∧ a.output.components = b.output.components := by
  simp only [same, Bool.and_eq_true, decide_eq_true_eq, Path.same_iff, and_assoc]

theorem same_equivalence : Equivalence fun a b : Config => a.same b = true where
  refl a := same_iff.mpr ⟨rfl, rfl, rfl, rfl, rfl⟩
  symm same := by
    obtain ⟨compiler, target, link, runs, output⟩ := same_iff.mp same
    exact same_iff.mpr ⟨compiler.symm, target.symm, link.symm, runs.symm, output.symm⟩
  trans same same' := by
    obtain ⟨compiler, target, link, runs, output⟩ := same_iff.mp same
    rw [same_iff] at same' ⊢
    rwa [compiler, target, link, runs, output]

theorem label_of_same (same : a.same b = true) : a.label = b.label := by
  obtain ⟨compiler, target, link, -, -⟩ := same_iff.mp same
  rw [label, label, compiler, target, link]

theorem buildArguments_of_same (same : a.same b = true) : a.buildArguments = b.buildArguments := by
  obtain ⟨compiler, target, link, -, -⟩ := same_iff.mp same
  rw [buildArguments, buildArguments, compiler, target, link]

theorem runs_of_same (same : a.same b = true) : a.runs = b.runs :=
  (same_iff.mp same).2.2.2.1

end Config

namespace Request

variable {first second : Request} {a b : Config}

/-- Requests ask for the same benchmark if they give the same, but for the spelling of the compiler
and for what does not count in a path. -/
theorem same_iff (resolved : first.resolve = .ok a) (resolved' : second.resolve = .ok b) :
    a.same b = true ↔
      (if first.hostCompiler = "cc" then "gcc" else first.hostCompiler) =
          (if second.hostCompiler = "cc" then "gcc" else second.hostCompiler) ∧
        first.architecture = second.architecture ∧ first.dynamic = second.dynamic ∧
        first.runs = second.runs ∧ first.output.components = second.output.components := by
  obtain ⟨compiler, target, link, count, output⟩ := resolve_ok_iff.mp resolved
  obtain ⟨compiler', target', link', count', output'⟩ := resolve_ok_iff.mp resolved'
  rw [Config.same_iff, ← HostCompiler.spells.name_inj, HostCompiler.name_of_parse compiler,
    HostCompiler.name_of_parse compiler', ← Architecture.spells.name_inj,
    Architecture.name_of_parse target, Architecture.name_of_parse target', link, link',
    LinkMode.ofDynamic_inj, ← Int.natCast_inj, count, count', Int64.toInt_inj, output, output']

/-- A slash behind the path makes no other benchmark, but it is shown. -/
theorem exists_same_displayed_differently (resolved : first.resolve = .ok a)
    (nonempty : first.output.bytes ≠ []) :
    ∃ path b, ({ first with output := path } : Request).resolve = .ok b ∧ a.same b = true ∧
      a.output.display ≠ b.output.display := by
  obtain ⟨compiler, target, link, count, output⟩ := resolve_ok_iff.mp resolved
  let path : Path := ⟨first.output.bytes ++ [Path.slash]⟩
  have resolved' : ({ first with output := path } : Request).resolve =
      .ok { a with output := path } := resolve_ok_iff.mpr ⟨compiler, target, link, count, rfl⟩
  refine ⟨path, { a with output := path }, resolved', ?_, ?_⟩
  · have same := Path.components_of_shortens (Path.Shortens.lastSlash nonempty)
    exact Config.same_iff.mpr ⟨rfl, rfl, rfl, rfl, by rw [output]; exact same.symm⟩
  · intro shown
    rw [output, Path.display_concat_slash] at shown
    have lengths := congrArg String.length shown
    simp at lengths

end Request

namespace Rig

variable {σ : Type}

/-- The rig answers configurations alike that are the same. -/
structure Consistent (rig : Rig σ) : Prop where
  clean {a b : Config} : a.same b = true → rig.clean a = rig.clean b
  build {a b : Config} : a.same b = true → rig.build a = rig.build b

namespace Consistent

variable {rig : Rig σ} {a b : Config} (consistent : rig.Consistent) (same : a.same b = true)
include consistent same

/-- Every part of a trial is the same. -/
theorem relates_eq : Relates (fun _ first other => first = other) rig a rig b where
  pure _ := rfl
  bind begun rest := by rw [begun, funext rest]
  cleaning := by
    unfold Rig.cleaning
    rw [consistent.clean same]
  announcing index := by rw [Config.runs_of_same same]
  building := by
    unfold Rig.building
    rw [consistent.build same, Config.buildArguments_of_same same]
  readingClock := rfl
  readingPeak := rfl
  measured index trial := by rw [Config.runs_of_same same]

/-- The same configurations are benchmarked in the same way, and so to the same end. -/
theorem benchmark_eq : rig.benchmark a = rig.benchmark b := by
  have relates := consistent.relates_eq same
  funext world
  unfold benchmark
  rw [relates.trials a.runs 1 .empty, relates.cleaning, Config.runs_of_same same,
    Config.label_of_same same]

end Consistent

end Rig

/-- A rig that follows a script is consistent. -/
theorem Script.consistent_rig : Script.rig.Consistent := ⟨fun _ => rfl, fun _ => rfl⟩

/-- A build tool is consistent on any host: of a configuration it is given the arguments alone. -/
theorem BuildTool.consistent_rig {τ : Type} (tool : BuildTool) (host : Host τ) :
    (tool.rig host).Consistent where
  clean _ := rfl
  build same := congrArg (tool.run host "build") (Config.buildArguments_of_same same)

namespace Config

/-- Sameness is an equivalence that the whole benchmark respects. Of two requests that are accepted
it says that they give the same compiler, where `cc` is `gcc`, the same architecture, linking and
number of trials, and paths with the same components. These are the same if the paths begin in the
same way and have the same parts in order; which is to say that both paths come down to one when
doubled slashes, slashes at the end and dots behind slashes are left out. The same configurations
have one label and one list of build arguments. On every consistent rig, such as one that follows a
script or a build tool on any host, they have one course, one result and one document. But there is
always another text that a path of the same configuration is shown as, unless the path is empty. -/
theorem same_congruence :
    (Equivalence fun a b : Config => a.same b = true) ∧
    (∀ (first second : Request) (a b : Config),
      first.resolve = .ok a → second.resolve = .ok b →
        (a.same b = true ↔
          (if first.hostCompiler = "cc" then "gcc" else first.hostCompiler) =
              (if second.hostCompiler = "cc" then "gcc" else second.hostCompiler) ∧
            first.architecture = second.architecture ∧ first.dynamic = second.dynamic ∧
            first.runs = second.runs ∧ first.output.components = second.output.components)) ∧
    (∀ p q : Path,
      (p.components = q.components ↔ p.start = q.start ∧ p.parts = q.parts) ∧
      (p.components = q.components ↔
        ∃ r, ReflTransGen Path.Shortens p r ∧ ReflTransGen Path.Shortens q r)) ∧
    Script.rig.Consistent ∧
    (∀ (τ : Type) (tool : BuildTool) (host : Host τ), (tool.rig host).Consistent) ∧
    (∀ a b : Config, a.same b = true →
      a.label = b.label ∧ a.buildArguments = b.buildArguments ∧
      ∀ (σ : Type) (rig : Rig σ) (world : σ), rig.Consistent →
        rig.benchmark a world = rig.benchmark b world ∧
        (rig.benchmark a world).result.map Report.document =
          (rig.benchmark b world).result.map Report.document) ∧
    ∀ (request : Request) (a : Config), request.resolve = .ok a → request.output.bytes ≠ [] →
      ∃ path b, ({ request with output := path } : Request).resolve = .ok b ∧ a.same b = true ∧
        a.output.display ≠ b.output.display := by
  refine ⟨same_equivalence, fun first second a b => Request.same_iff,
    fun p q => ⟨Path.components_eq_iff, Path.components_eq_iff_shorten⟩, Script.consistent_rig,
    fun _ => BuildTool.consistent_rig, fun a b same => ?_,
    fun request a => Request.exists_same_displayed_differently⟩
  refine ⟨label_of_same same, buildArguments_of_same same, fun σ rig world consistent => ?_⟩
  have benchmarks := congrFun (consistent.benchmark_eq same) world
  exact ⟨benchmarks, by rw [benchmarks]⟩

/-- Another spelling of the compiler, and a path with three things in it that do not count. -/
theorem same_congruence_respelled :
    let first : Request :=
      { hostCompiler := "cc", architecture := "arm", dynamic := false, runs := 3,
        output := .ofString "out//./benchmark.json/" }
    let second : Request :=
      { hostCompiler := "gcc", architecture := "arm", dynamic := false, runs := 3,
        output := .ofString "out/benchmark.json" }
    ∃ a, first.resolve = .ok a ∧ second.resolve = .ok .threeRuns ∧ a.same .threeRuns = true ∧
      (Script.rig.benchmark a .threeBuilds).result = .ok .threeBuilds ∧
      ∃ path b, ({ first with output := path } : Request).resolve = .ok b ∧ a.same b = true ∧
        a.output.display ≠ b.output.display := by
  intro first second
  obtain ⟨-, requests, -, script, -, alike, shown⟩ := same_congruence
  have resolved : first.resolve = .ok { Config.threeRuns with output := first.output } :=
    Request.resolve_ok_iff.mpr ⟨rfl, rfl, rfl, rfl, rfl⟩
  have resolved' : second.resolve = .ok .threeRuns :=
    Request.resolve_ok_iff.mpr ⟨rfl, rfl, rfl, rfl, rfl⟩
  have same := (requests first second _ _ resolved resolved').mpr
    ⟨by decide, rfl, rfl, rfl, by decide⟩
  obtain ⟨benchmarks, -⟩ := (alike _ _ same).2.2 Script Script.rig .threeBuilds script
  refine ⟨_, resolved, resolved', same, ?_, shown first _ resolved (by decide)⟩
  rw [benchmarks, Rig.result_threeBuilds]

end Config

end ColdBuild
