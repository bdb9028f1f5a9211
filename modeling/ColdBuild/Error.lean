import ColdBuild.OsFault
import ColdBuild.Path
import ColdBuild.WaitStatus

/-!
# What can go wrong

One cause per constructor, with the values it is reported with. Configuration errors arise
before any process is started; build tool errors are a tool that could not be started or that
ended with a status other than success. A cause that stands on a fault beneath it also gives
that fault's text.
-/

namespace ColdBuild

/-- Why a benchmark, or a part of it, failed. -/
inductive Error where
  | runCount (runs : Int)
  | unknownChoice (field value choices : String)
  | buildTool (action program : String) (status : WaitStatus)
  | spawn (action program : String) (fault : OsFault)
  | resourceUsage (fault : OsFault)
  | noTrials
  | write (path : Path) (fault : OsFault)
  | serialize (reason : String)
  deriving DecidableEq, Repr

namespace Error

def message : Error → String
  | .runCount runs => s!"--runs must be at least 1 (got {runs})"
  | .unknownChoice field value choices =>
    s!"invalid choice for {field}: '{value}' (choose from {choices})"
  | .buildTool action program status => s!"`{program} {action}` failed with {status.message}"
  | .spawn action program fault => s!"Failed to run `{program} {action}`: {fault.message}"
  | .resourceUsage fault => s!"Failed to read child resource usage: {fault.message}"
  | .noTrials => "No trial results to aggregate"
  | .write path fault => s!"Failed to write {path.display}: {fault.message}"
  | .serialize reason => s!"Failed to serialize benchmark report: {reason}"

/-- The text of the fault underneath, if the cause stands on one. -/
def source? : Error → Option String
  | .spawn _ _ fault | .resourceUsage fault | .write _ fault => some fault.message
  | .serialize reason => some reason
  | .runCount _ | .unknownChoice .. | .buildTool .. | .noTrials => none

/-- Errors of the request itself, found before any process is started. -/
def isConfiguration : Error → Bool
  | .runCount _ | .unknownChoice .. => true
  | _ => false

/-- The build tool could not be run, or did not end in success. -/
def isBuildTool : Error → Bool
  | .buildTool .. | .spawn .. => true
  | _ => false

end Error

end ColdBuild
