import ColdBuild.Rig
import ColdBuild.Tally

/-!
# The benchmark

A benchmark measures one configuration in as many trials as it asks for. Each trial starts from
a clean tree, announces itself and times one build; only the build lies between the two clock
readings. The first failure ends the trials. One last clean follows in any case, so that no
build products stay behind.

A failed trial is reported whatever the last clean does; a failure of the last clean is the
result only when all trials went well, and an event otherwise.
-/

namespace ColdBuild

namespace Rig

variable {σ : Type} (rig : Rig σ)

/-- One clean build, measured. -/
def trial (config : Config) (index : Nat) : Bench σ Trial := do
  rig.cleaning config
  rig.announcing index config.runs
  let start ← rig.readingClock
  rig.building config
  let stop ← rig.readingClock
  let peakKb ← rig.readingPeak
  return { elapsed := (stop.since start).seconds, peakKb }

/-- The remaining trials, numbered from `index` on, taken into the tally one by one. -/
def trials (config : Config) : (remaining index : Nat) → Tally → Bench σ Tally
  | 0, _, tally => pure tally
  | remaining + 1, index, tally => do
    let trial ← rig.trial config index
    Bench.emit (.measured index config.runs trial)
    trials config remaining (index + 1) (tally.push trial)

/-- All trials, the last clean, and the report. -/
def benchmark (config : Config) : Bench σ Report := fun world =>
  let measured := rig.trials config config.runs 1 .empty world
  let teardown := rig.cleaning config measured.world
  let events := measured.events ++ teardown.events
  match measured.result, teardown.result with
  | .ok tally, .ok () => ⟨tally.finish config.label, events, teardown.world⟩
  | .ok _, .error e => ⟨.error e, events, teardown.world⟩
  | .error e, .ok () => ⟨.error e, events, teardown.world⟩
  | .error e, .error late => ⟨.error e, events ++ [.teardownFailed late], teardown.world⟩

/-- Resolves a request and runs it; a request that is refused does not touch the rig. -/
def serve (request : Request) : Bench σ Report := fun world =>
  match request.resolve with
  | .error e => ⟨.error e, [], world⟩
  | .ok config => rig.benchmark config world

/-- Requests served one after another on one rig, each from where the one before left it: the
outcome of each. -/
def serveAll : List Request → σ → List (Outcome σ Report)
  | [], _ => []
  | request :: rest, world =>
    let outcome := rig.serve request world
    outcome :: serveAll rest outcome.world

end Rig

end ColdBuild
