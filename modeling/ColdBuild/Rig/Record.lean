import ColdBuild.Decimal.Numeral
import ColdBuild.Log
import ColdBuild.Rig

/-!
# What a benchmark logs

A measured trial is logged with its time to three decimal places and the reading taken after it;
a last clean that failed after the trials had failed is logged as a warning. Nothing else that
happens on a rig leaves a record of its own.
-/

namespace ColdBuild

/-- The module that the records of a benchmark name. -/
def Event.target : String := "shecc_bench::runner"

/-- The record of an event, for the events that are logged. -/
def Event.record? : Event → Option LogRecord
  | .measured index runs trial => some {
      level := .info
      target := Event.target
      message := s!"trial {index}/{runs}: {trial.elapsed.fixed 3}s, peak RSS so far {trial.peakKb} KB" }
  | .teardownFailed error => some {
      level := .warn
      target := Event.target
      message := s!"teardown clean failed after aborted run: {error.message}" }
  | _ => none

end ColdBuild
