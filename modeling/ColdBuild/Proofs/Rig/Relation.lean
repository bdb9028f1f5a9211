import ColdBuild.Benchmark

/-!
# Relations between benchmarks

Two rigs whose parts of a trial are related are related in whole loops of trials, if the relation
survives doing one thing after another. So a fact that compares runs, or one about every run of a
rig, which is its own partner then, needs to be proved only for the parts.
-/
namespace ColdBuild.Rig

variable {σ τ : Type}

/-- A relation between computations on two rigs, each with its configuration, that holds of the
parts of a trial and of computations put together from related ones. -/
structure Relates (related : (α : Type) → Bench σ α → Bench τ α → Prop) (rig : Rig σ)
    (config : Config) (partner : Rig τ) (partnerConfig : Config) : Prop where
  pure {α : Type} (a : α) : related α (pure a) (pure a)
  bind {α β : Type} {first : Bench σ α} {partnerFirst : Bench τ α} {next : α → Bench σ β}
    {partnerNext : α → Bench τ β} :
    related α first partnerFirst → (∀ a, related β (next a) (partnerNext a)) →
      related β (first >>= next) (partnerFirst >>= partnerNext)
  cleaning : related Unit (rig.cleaning config) (partner.cleaning partnerConfig)
  announcing (index : Nat) :
    related Unit (rig.announcing index config.runs) (partner.announcing index partnerConfig.runs)
  building : related Unit (rig.building config) (partner.building partnerConfig)
  readingClock : related Duration rig.readingClock partner.readingClock
  readingPeak : related Nat rig.readingPeak partner.readingPeak
  measured (index : Nat) (trial : Trial) :
    related Unit (Bench.emit (.measured index config.runs trial))
      (Bench.emit (.measured index partnerConfig.runs trial))

namespace Relates

variable {related : (α : Type) → Bench σ α → Bench τ α → Prop} {rig : Rig σ} {config : Config}
  {partner : Rig τ} {partnerConfig : Config}

theorem trial (relates : Relates related rig config partner partnerConfig) (index : Nat) :
    related Trial (rig.trial config index) (partner.trial partnerConfig index) := by
  refine relates.bind relates.cleaning fun _ => ?_
  refine relates.bind (relates.announcing index) fun _ => ?_
  refine relates.bind relates.readingClock fun start => ?_
  refine relates.bind relates.building fun _ => ?_
  refine relates.bind relates.readingClock fun stop => ?_
  exact relates.bind relates.readingPeak fun _ => relates.pure _

theorem trials (relates : Relates related rig config partner partnerConfig)
    (remaining index : Nat) (tally : Tally) :
    related Tally (rig.trials config remaining index tally)
      (partner.trials partnerConfig remaining index tally) := by
  induction remaining generalizing index tally with
  | zero => exact relates.pure tally
  | succ remaining ih =>
    refine relates.bind (relates.trial index) fun trial => ?_
    exact relates.bind (relates.measured index trial) fun _ => ih _ _

end Relates

end ColdBuild.Rig
