import ColdBuild.Machine.Process
import ColdBuild.Machine.Shell.Reader
import ColdBuild.WaitStatus

/-!
# What a running script can see and change

A shell is a process with variables, functions, arguments, options and traps. The commands inside
brackets, pipelines and substitutions are run by a copy of the shell, of which only what all
processes share comes back.

A fault that ends the script, like everything that leaves a function or a loop, is kept as a
departure: while there is one, nothing is run.
-/

namespace ColdBuild.Shell

/-- Why the commands that follow are not run: the shell, a function or a loop has been left. -/
inductive Departure where
  | exited
  | killed (signal : Nat)
  | returned
  /-- So many loops are left; the last of them goes on with its next turn if `again` is set. -/
  | leftLoops (count : Nat) (again : Bool)
  deriving DecidableEq, Repr

/-- A variable, which may be marked before it has a value. -/
structure Variable where
  value : Option String := none
  exported : Bool := false
  readOnly : Bool := false
  deriving DecidableEq, Repr

structure Job where
  number : Nat
  status : Nat
  /-- When it has ended, by the clock. -/
  ending : Nat
  deriving DecidableEq, Repr

structure State extends Process where
  title : String
  parameters : List String
  /-- The directory it is in, by the way that led there. -/
  place : String
  bindings : List (String × Variable) := []
  functions : List (String × Command) := []
  /-- The texts that commands have as their input. -/
  documents : List (Nat × Word) := []
  /-- The letters of the options that are on. -/
  options : List Char := []
  /-- Actions for signals, and for the end under number zero. -/
  traps : List (Nat × String) := []
  /-- The number of the shell that all copies come from. -/
  shellNumber : Nat
  jobs : List Job := []
  background : Option Nat := none
  /-- The line of the command that is being run. -/
  line : Nat := 1
  /-- The builtin command that is being run. -/
  builtin : Option String := none
  /-- What the builtin command has printed so far. -/
  printed : String := ""
  /-- The command being run may fail without ending the script. -/
  guarded : Bool := false
  loopDepth : Nat := 0
  /-- For each function being run, the variables that it will put back. -/
  frames : List (List (String × Option Variable)) := []
  /-- The status of the last substitution in the words being expanded. -/
  substituted : Nat := 0
  /-- Where the options of the arguments are being read: the next argument and letter. -/
  optionPlace : Nat × Nat := (1, 0)
  departure : Option Departure := none

namespace State

def setStatus (s : State) (status : Nat) : State := { s with status }

def isOn (s : State) (option : Char) : Bool := s.options.contains option

/-- Takes over a process, which is the shell itself after a change. -/
def become (s : State) (p : Process) : State := { s with toProcess := p }

/-- Writes a message to the diagnostic output, with where it comes from. -/
def warn (s : State) (message : String) : State :=
  let builtin := match s.builtin with
    | some name => s!"{name}: "
    | none => ""
  s.become (s.complain s!"{s.title}: {s.line}: {builtin}{message}\n")

def abort (s : State) (message : String) : State :=
  { (s.warn message).setStatus 2 with departure := some .exited }

/-- Reports a failure of a command, and makes it the status. -/
def fail (s : State) (status : Nat) (message : String) : State := (s.warn message).setStatus status

/-- Adds to what the builtin command prints. -/
def print (s : State) (text : String) : State := { s with printed := s.printed ++ text }

def say (s : State) (text : String) : State := s.print (text ++ "\n")

/-! ## Variables -/

def binding (s : State) (name : String) : Variable := (s.bindings.lookup name).getD {}

def value? (s : State) (name : String) : Option String := (s.binding name).value

/-- The value of a variable; an unset one is empty. -/
def valueOf (s : State) (name : String) : String := (s.value? name).getD ""

def bind (s : State) (name : String) (binding : Variable) : State :=
  if s.bindings.any (·.1 = name) then
    { s with bindings := s.bindings.map fun old => if old.1 = name then (name, binding) else old }
  else { s with bindings := s.bindings ++ [(name, binding)] }

/-- Sets a variable, which must not be marked as unchangeable. -/
def assign (s : State) (name value : String) : State :=
  let old := s.binding name
  let s := if name = "OPTIND" then
      { s with optionPlace := ((String.toNat? value).getD 1, 0) }
    else s
  s.bind name { old with value := some value, exported := old.exported || s.isOn 'a' }

def assignOrAbort (s : State) (name value : String) : State :=
  if (s.binding name).readOnly then s.abort s!"{name}: is read only" else s.assign name value

/-- The environment of the commands that are run. -/
def exports (s : State) : List (String × String) :=
  s.bindings.filterMap fun (name, binding) =>
    if binding.exported then binding.value.map (name, ·) else none

/-- Remembers a variable, to be put back when the function being run ends. -/
def makeLocal (s : State) (name : String) : State :=
  match s.frames with
  | [] => s
  | frame :: frames =>
    if frame.any (·.1 = name) then s
    else { s with frames := ((name, s.bindings.lookup name) :: frame) :: frames }

def restore (s : State) (frame : List (String × Option Variable)) : State :=
  frame.foldl (fun s (name, old) =>
    match old with
    | some binding => s.bind name binding
    | none => { s with bindings := s.bindings.filter (·.1 ≠ name) }) s

/-- What separates the arguments in one text. -/
def separator (s : State) : String :=
  match s.value? "IFS" with
  | some text => String.ofList (text.toList.take 1)
  | none => " "

/-- The value of a parameter that is no list; nothing if it is not set. -/
def parameter? (s : State) (name : String) : Option String :=
  match name with
  | "#" => some (toString s.parameters.length)
  | "?" => some (toString s.status)
  | "$" => some (toString s.shellNumber)
  | "0" => some s.title
  | "!" => s.background.map toString
  | "-" => some (String.ofList s.options.reverse)
  | "*" | "@" => if s.parameters.isEmpty then none else some (s.separator.intercalate s.parameters)
  | "PPID" => some (toString s.parent)
  | _ =>
    if name.toList.all Char.isDigit then
      let index := Nat.ofDigitChars 10 name.toList 0
      if index = 0 then some s.title else s.parameters[index - 1]?
    else s.value? name

/-! ## Copies of the shell -/

/-- A copy of the shell, to run something on its own. -/
def fork (s : State) : State :=
  let (p, number) := s.toProcess.nextNumber
  { s with
    toProcess := { p with number, parent := s.number }
    traps := s.traps.filter (·.2 = "")
    jobs := []
    builtin := none
    printed := "" }

/-- Lets the process end as the departure says. -/
def ended (s : State) : Process :=
  match s.departure with
  | some (.killed signal) => { s.toProcess with killed := some signal }
  | _ => s.toProcess

/-! ## Signals -/

/-- The number of a signal, given by number or by name in capital or small letters. -/
def signal? (text : String) : Option Nat :=
  match text.toNat? with
  | some n => if n < 65 then some n else none
  | none =>
    let name := String.ofList (text.toList.map Char.toUpper)
    if name = "EXIT" then some 0 else (WaitStatus.signalNames.findIdx? (· = name)).map (· + 1)

/-- Signals that do not end a process that does nothing about them. -/
def harmlessSignals : List Nat := [0, 17, 18, 19, 20, 21, 22, 23, 28]

/-- Signals that no process can do anything about. -/
def strictSignals : List Nat := [9, 19]

end State

end ColdBuild.Shell
