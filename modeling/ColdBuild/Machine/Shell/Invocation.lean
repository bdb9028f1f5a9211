import ColdBuild.Machine.Shell.Evaluator

/-!
# Calling the shell

The shell is called with options, and with a text to run, with the path of a script, or with
neither to run what it reads. What follows are the arguments of the script. The variables of the
environment become variables of the shell.
-/

namespace ColdBuild.Shell

structure Invocation where
  options : List Char := []
  /-- The first argument is the text to run. -/
  givenText : Bool := false
  words : List String := []
  deriving DecidableEq, Repr

namespace Invocation

/-- Reads the letters of one word, and the words that they take. -/
def letters (on : Bool) : List Char → Invocation → List String →
    Except String (Invocation × List String)
  | [], invocation, rest => .ok (invocation, rest)
  | 'c' :: more, invocation, rest => letters on more { invocation with givenText := true } rest
  | 'l' :: more, invocation, rest => letters on more invocation rest
  | 'o' :: more, invocation, rest =>
    match rest with
    | [] => letters on more invocation rest
    | name :: rest =>
      match State.optionNames.find? (·.2 = name) with
      | none => .error ("Illegal option " ++ (if on then "-o " else "+o ") ++ name)
      | some (letter, _) =>
        let others := invocation.options.filter (· ≠ letter)
        letters on more { invocation with options := if on then letter :: others else others } rest
  | letter :: more, invocation, rest =>
    if State.optionNames.any (·.1 = letter) then
      let others := invocation.options.filter (· ≠ letter)
      letters on more { invocation with options := if on then letter :: others else others } rest
    else .error ("Illegal option " ++ String.ofList [if on then '-' else '+', letter])

def read : (fuel : Nat) → Invocation → List String → Except String Invocation
  | 0, invocation, words => .ok { invocation with words }
  | _, invocation, [] => .ok invocation
  | fuel + 1, invocation, word :: rest =>
    match word.toList with
    | ['-'] | ['-', '-'] => .ok { invocation with words := rest }
    | '-' :: more => do
      let (invocation, rest) ← letters true more invocation rest
      read fuel invocation rest
    | '+' :: more => do
      let (invocation, rest) ← letters false more invocation rest
      read fuel invocation rest
    | _ => .ok { invocation with words := word :: rest }

end Invocation

/-- The search path of a shell that is given none. -/
def defaultPath : String := "/usr/local/sbin:/usr/local/bin:/usr/sbin:/usr/bin:/sbin:/bin"

/-- Fuel for long scripts. -/
def scriptFuel : Nat := 100000

/-- A shell at its beginning. -/
def State.ofProcess (p : Process) : State :=
  let real := p.files.pathOf p.current
  let place := match p.environmentValue? "PWD" with
    | some path =>
      let found := (p.files.findDirectory p.current ⟨Octets.bytes path⟩).toOption
      if path.startsWith "/" && found = some p.current then path else real
    | none => real
  let given : List (String × Variable) := p.environment.filterMap fun (name, value) =>
    if isName name.toList then some (name, { value := some value, exported := true }) else none
  let own : List (String × String) := [("IFS", " \t\n"), ("OPTIND", "1"), ("PPID", toString p.parent)]
  let missing : List (String × String) :=
    [("PATH", defaultPath), ("PS1", "# "), ("PS2", "> "), ("PS4", "+ ")]
  let s : State := {
    toProcess := p
    title := p.name
    parameters := []
    place
    bindings := given
    shellNumber := p.number
    line := 0 }
  let s := own.foldl (fun s (name, value) => s.assign name value) s
  let s := missing.foldl (fun s (name, value) =>
    if (s.value? name).isSome then s else s.assign name value) s
  s.bind "PWD" { value := some place, exported := true }

/-- Runs what has not been read of an open file, and what is written behind that meanwhile. -/
def runFile (run : String → State → State) (place : Nat) : (fuel : Nat) → State → State
  | 0, s => s
  | fuel + 1, s =>
    match ({ s.toProcess with descriptors := [(10, place)] }).readAll 10 with
    | .error _ | .ok ("", _) => s
    | .ok (text, p) =>
      let s := run text (s.become { p with descriptors := s.descriptors })
      if s.departure.isSome then s else runFile run place fuel s

def runShell (execute : Executor) (p : Process) : Process :=
  let s := State.ofProcess p
  let run (text : String) (s : State) : State := perform execute scriptFuel (.text text) s
  let finished (s : State) : Process := (s.finish run).ended
  match Invocation.read (p.words.length + 1) {} p.arguments with
  | .error message => (s.abort message).toProcess
  | .ok invocation =>
    let s := { s with options := (State.optionNames.map Prod.fst).filter invocation.options.contains }
    match invocation.givenText, invocation.words with
    | true, [] => (s.abort "-c requires an argument").toProcess
    | true, text :: rest =>
      finished (run text { s with title := rest.headD s.title, parameters := rest.drop 1, line := 1 })
    | false, words =>
      if words.isEmpty || s.isOn 's' then
        match s.readAll 0 with
        | .error _ => s.toProcess
        | .ok (text, p) =>
          let s := (s.become p).switch 's' true
          finished (run text { s with parameters := words, line := 1 })
      else
        let path := words.headD ""
        match s.openPath .reading path with
        | .error fault =>
          (s.abort s!"cannot open {path}: {State.openingText false fault}").toProcess
        | .ok (p, place) =>
          finished (runFile run place scriptFuel
            { (s.become p) with title := path, parameters := words.drop 1, line := 1 })

end ColdBuild.Shell
