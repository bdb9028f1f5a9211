import ColdBuild.Machine
import ColdBuild.Session

/-!
# The program

Rehearses a session: the arguments and the environment are real, the machine is a new one that
holds nothing but the system's utilities and an empty directory. So no process is started and no
file is touched, while output, diagnostics and exit status are those of the session.
-/

namespace ColdBuild

/-- The directory that a rehearsal starts in. -/
def rehearsalDirectory : String := "/home/rehearsal"

def rehearse (environment : Environment) (arguments : List String) : Transcript Machine :=
  Session.run Machine.host environment arguments
    (Machine.inDirectory rehearsalDirectory environment)

end ColdBuild

open ColdBuild

/-- Shows what a session shows, and exits as it does. -/
def main (arguments : List String) : IO UInt32 := do
  let environment ← Environment.names.filterMapM fun name => do
    return (← IO.getEnv name).map fun value => (name, value)
  let transcript := rehearse environment arguments
  let stamp := s!"{← IO.monoMsNow} ms"
  (← IO.getStdout).putStr transcript.output
  (← IO.getStderr).putStr (String.join (transcript.diagnostics.map (·.text stamp)))
  return UInt32.ofNat transcript.exit
