import ColdBuild.Rig

/-!
# Scripted rigs

A rig whose world is a script: the outcomes of cleans and builds, the memory readings and the
clock readings still to come. Each call takes the next entry of its list. When a list is used
up, cleans and builds succeed, readings are zero and the clock stands at its origin.
-/

namespace ColdBuild

/-- What the calls still to come will give. -/
structure Script where
  /-- The errors of cleans and builds, in the order of the calls; `none` is a success. -/
  outcomes : List (Option Error) := []
  readings : List (Except Error Nat) := []
  clock : List Duration := []

namespace Script

def nextOutcome (script : Script) : Except Error Unit × Script :=
  match script.outcomes with
  | [] => (.ok (), script)
  | none :: rest => (.ok (), { script with outcomes := rest })
  | some e :: rest => (.error e, { script with outcomes := rest })

def nextReading (script : Script) : Except Error Nat × Script :=
  match script.readings with
  | [] => (.ok 0, script)
  | reading :: rest => (reading, { script with readings := rest })

def nextTime (script : Script) : Duration × Script :=
  match script.clock with
  | [] => (.zero, script)
  | reading :: rest => (reading, { script with clock := rest })

/-- The rig that follows its script. -/
def rig : Rig Script where
  clean _ := nextOutcome
  build _ := nextOutcome
  peakKb := nextReading
  now := nextTime

end Script

end ColdBuild
