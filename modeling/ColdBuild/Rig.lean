import ColdBuild.Config
import ColdBuild.Duration
import ColdBuild.Trial

/-!
# Rigs

A rig is what a benchmark acts on: something that cleans and builds, a clock, and a reading of
the peak memory of ended children. Each action changes the rig's world and may fail where its
type says so. Announcing a trial cannot fail, but it may take time in a world that has a clock.

A `Bench` is a computation on a rig's world. It leaves events behind, in order and with their
outcomes, whether or not it fails; the first failure ends it. So a computation's events tell
exactly which actions were tried and how each one went.
-/

namespace ColdBuild

/-- What happened while a benchmark ran. The first five are actions on the rig; the last two are
things the benchmark reports about itself. -/
inductive Event where
  | clean (outcome : Except Error Unit)
  | announce (index runs : Nat)
  | clock (reading : Duration)
  | build (arguments : List String) (outcome : Except Error Unit)
  | reading (outcome : Except Error Nat)
  | measured (index runs : Nat) (trial : Trial)
  | teardownFailed (error : Error)

namespace Event

/-- The event is an action on the rig. -/
def isAction : Event → Bool
  | .measured .. | .teardownFailed _ => false
  | _ => true

/-- The event is an action that failed. -/
def isFailure : Event → Bool
  | .clean (.error _) | .build _ (.error _) | .reading (.error _) => true
  | _ => false

end Event

/-- What a benchmark acts on. -/
structure Rig (σ : Type) where
  clean : Config → σ → Except Error Unit × σ
  build : Config → σ → Except Error Unit × σ
  peakKb : σ → Except Error Nat × σ
  now : σ → Duration × σ
  announce : Nat → Nat → σ → σ := fun _ _ world => world

/-- How a computation on a rig's world ended, and what it left behind. -/
structure Outcome (σ α : Type) where
  result : Except Error α
  events : List Event
  world : σ

/-- A computation on a rig's world. -/
def Bench (σ α : Type) : Type := σ → Outcome σ α

namespace Bench

variable {σ α β : Type}

def yield (a : α) : Bench σ α := fun world => ⟨.ok a, [], world⟩

/-- Goes on with `next` unless the first part failed. -/
def andThen (first : Bench σ α) (next : α → Bench σ β) : Bench σ β := fun world =>
  match first world with
  | ⟨.ok a, events, world⟩ =>
    let rest := next a world
    { rest with events := events ++ rest.events }
  | ⟨.error e, events, world⟩ => ⟨.error e, events, world⟩

instance : Monad (Bench σ) where
  pure := yield
  bind := andThen

@[simp] theorem pure_apply (a : α) (world : σ) :
    (pure a : Bench σ α) world = ⟨.ok a, [], world⟩ := rfl

theorem bind_apply (first : Bench σ α) (next : α → Bench σ β) (world : σ) :
    (first >>= next) world = andThen first next world := rfl

/-- After a first part that went well, the second part starts where it stopped. -/
theorem bind_ok {first : Bench σ α} {next : α → Bench σ β} {world after : σ} {a : α}
    {events : List Event} (h : first world = ⟨.ok a, events, after⟩) :
    (first >>= next) world =
      ⟨(next a after).result, events ++ (next a after).events, (next a after).world⟩ := by
  simp only [bind_apply, andThen, h]

/-- A first part that failed is all there is. -/
theorem bind_error {first : Bench σ α} {next : α → Bench σ β} {world after : σ} {e : Error}
    {events : List Event} (h : first world = ⟨.error e, events, after⟩) :
    (first >>= next) world = ⟨.error e, events, after⟩ := by
  simp only [bind_apply, andThen, h]

def emit (event : Event) : Bench σ Unit := fun world => ⟨.ok (), [event], world⟩

end Bench

namespace Rig

variable {σ : Type} (rig : Rig σ)

/-- Cleans, and records how it went. -/
def cleaning (config : Config) : Bench σ Unit := fun world =>
  let (outcome, world) := rig.clean config world
  ⟨outcome, [.clean outcome], world⟩

def building (config : Config) : Bench σ Unit := fun world =>
  let (outcome, world) := rig.build config world
  ⟨outcome, [.build config.buildArguments outcome], world⟩

/-- Reads the peak memory of ended children, and records the reading. -/
def readingPeak : Bench σ Nat := fun world =>
  let (outcome, world) := rig.peakKb world
  ⟨outcome, [.reading outcome], world⟩

def readingClock : Bench σ Duration := fun world =>
  let (reading, world) := rig.now world
  ⟨.ok reading, [.clock reading], world⟩

def announcing (index runs : Nat) : Bench σ Unit := fun world =>
  ⟨.ok (), [.announce index runs], rig.announce index runs world⟩

end Rig

end ColdBuild
