import ColdBuild.Proofs.Rig.Relation

/-!
# A benchmark's events are steps of its rig

`Rig.Step` relates a world, an event and the next world when the event records what the rig
answered there. `Rig.Steps` chains steps. Every computation a benchmark is built from leaves
events that are such a chain, from the world it starts in to the world it ends in, so the events
of a benchmark are neither invented nor left out (`follows_benchmark`).

The worlds are arbitrary, so a rig may answer each call in any way, from any script.
-/
namespace ColdBuild.Rig

variable {σ α β : Type}

/-- One event, with the world before and after it. An action records the rig's answer in the
world before it; what a benchmark reports about itself leaves the world alone. -/
inductive Step (rig : Rig σ) (config : Config) : σ → Event → σ → Prop where
  | clean (world : σ) :
      Step rig config world (.clean (rig.clean config world).1) (rig.clean config world).2
  | announce (index runs : Nat) (world : σ) :
      Step rig config world (.announce index runs) (rig.announce index runs world)
  | clock (world : σ) : Step rig config world (.clock (rig.now world).1) (rig.now world).2
  | build (world : σ) :
      Step rig config world (.build config.buildArguments (rig.build config world).1)
        (rig.build config world).2
  | reading (world : σ) :
      Step rig config world (.reading (rig.peakKb world).1) (rig.peakKb world).2
  | measured (index runs : Nat) (trial : Trial) (world : σ) :
      Step rig config world (.measured index runs trial) world
  | teardownFailed (error : Error) (world : σ) :
      Step rig config world (.teardownFailed error) world

/-- Events one after another, each from the world that the one before it left. -/
inductive Steps (rig : Rig σ) (config : Config) : σ → List Event → σ → Prop where
  | nil (world : σ) : Steps rig config world [] world
  | cons {world next final : σ} {event : Event} {rest : List Event}
      (first : Step rig config world event next) (tail : Steps rig config next rest final) :
      Steps rig config world (event :: rest) final

variable {rig : Rig σ} {config : Config}

theorem Steps.single {world next : σ} {event : Event} (step : rig.Step config world event next) :
    rig.Steps config world [event] next :=
  .cons step (.nil next)

theorem Steps.append {world middle final : σ} {front back : List Event}
    (left : rig.Steps config world front middle) (right : rig.Steps config middle back final) :
    rig.Steps config world (front ++ back) final := by
  induction left with
  | nil world => exact right
  | cons first _ ih => exact .cons first (ih right)

theorem Steps.mem {world final : σ} {events : List Event} {event : Event}
    (steps : rig.Steps config world events final) (member : event ∈ events) :
    ∃ before after, rig.Step config before event after := by
  induction steps with
  | nil world => cases member
  | cons first _ ih =>
    rcases List.mem_cons.mp member with rfl | later
    · exact ⟨_, _, first⟩
    · exact ih later

/-- Only actions change a world, so a chain stays one without the reports between them. -/
theorem Steps.actions {world final : σ} {events : List Event}
    (steps : rig.Steps config world events final) :
    rig.Steps config world (events.filter Event.isAction) final := by
  induction steps with
  | nil world => exact .nil world
  | cons first _ ih =>
    cases first with
    | measured => simpa [Event.isAction] using ih
    | teardownFailed => simpa [Event.isAction] using ih
    | clean => exact .cons (.clean _) ih
    | announce index runs => exact .cons (.announce index runs _) ih
    | clock => exact .cons (.clock _) ih
    | build => exact .cons (.build _) ih
    | reading => exact .cons (.reading _) ih

/-- The events that a computation leaves are steps of the rig, wherever it starts and however it
ends. -/
def Follows (rig : Rig σ) (config : Config) (bench : Bench σ α) : Prop :=
  ∀ world, rig.Steps config world (bench world).events (bench world).world

theorem follows_pure (a : α) : rig.Follows config (pure a : Bench σ α) :=
  fun world => .nil world

theorem follows_bind {first : Bench σ α} {next : α → Bench σ β}
    (hfirst : rig.Follows config first) (hnext : ∀ a, rig.Follows config (next a)) :
    rig.Follows config (first >>= next) := by
  intro world
  have start := hfirst world
  cases h : first world with
  | mk result events after =>
    rw [h] at start
    cases result with
    | ok a =>
      rw [Bench.bind_ok h]
      exact start.append (hnext a after)
    | error e =>
      rw [Bench.bind_error h]
      exact start

variable (rig config)

theorem follows_cleaning : rig.Follows config (rig.cleaning config) :=
  fun world => .single (.clean world)

/-- Every part of a trial follows the rig. -/
theorem relates_follows :
    Relates (fun _ bench _ => rig.Follows config bench) rig config rig config where
  pure := follows_pure
  bind := follows_bind
  cleaning := follows_cleaning rig config
  announcing index world := .single (.announce index config.runs world)
  building world := .single (.build world)
  readingClock world := .single (.clock world)
  readingPeak world := .single (.reading world)
  measured index trial world := .single (.measured index config.runs trial world)

/-- Every event of a benchmark is a step of its rig, and nothing else touches the world. -/
theorem follows_benchmark : rig.Follows config (rig.benchmark config) := by
  intro world
  have trials := (relates_follows rig config).trials config.runs 1 .empty world
  have teardown := trials.append
    (follows_cleaning rig config (rig.trials config config.runs 1 .empty world).world)
  unfold benchmark
  dsimp only
  split
  · exact teardown
  · exact teardown
  · exact teardown
  · exact teardown.append (.single (.teardownFailed _ _))

end ColdBuild.Rig
