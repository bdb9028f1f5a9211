import ColdBuild.Machine.Loading
import ColdBuild.Machine.Shell.Builtin

/-!
# Running scripts

A command changes the state of the shell it is in; the commands of a pipeline, of brackets and in
the background change that of a copy. A script is run line by line, so what is wrong with a line
is noticed when the lines before it have been run.

Programs are run by a function that is given. Running takes fuel: each command inside another one,
and each turn of a loop, uses some up.
-/

namespace ColdBuild.Shell

namespace State

/-! ## Redirections -/

/-- Why a file could not be opened, as the shell says it. -/
def openingText (creating : Bool) (fault : OsFault) : String :=
  if fault = .noSuchFile ∨ fault = .notADirectory then
    if creating then "Directory nonexistent" else "No such file"
  else Process.faultText fault

/-- Lets a descriptor stand for a file. -/
def openFor (s : State) (descriptor : Nat) (mode : OpenMode) (path : String) : State :=
  match s.openPath mode path with
  | .ok (p, place) => s.become (p.attach descriptor place)
  | .error fault =>
    let creating := mode = .writing || mode = .appending || mode = .both
    let verb := if creating then "create" else "open"
    s.abort s!"cannot {verb} {path}: {openingText creating fault}"

/-- Redirects a descriptor. A fault is left behind as a departure. -/
def redirect (run : Runner) (redirection : Redirection) (s : State) : State :=
  let descriptor := redirection.descriptor
  match redirection.direction with
  | .document number =>
    let (text, s) := expandText run { tilde := false } ((s.documents.lookup number).getD []) s
    if s.departure.isSome then s
    else
      let (p, reading, writing) := s.toProcess.pipe
      let p := (p.attach descriptor writing).send descriptor text
      s.become (p.attach descriptor reading)
  | direction =>
    let (target, s) := expandText run {} redirection.target s
    if s.departure.isSome then s
    else match direction with
      | .input => s.openFor descriptor .reading target
      | .both => s.openFor descriptor .both target
      | .append => s.openFor descriptor .appending target
      | .overwriting => s.openFor descriptor .writing target
      | .output =>
        match s.isOn 'C', s.node? target with
        | true, some (.file ..) => s.abort s!"cannot create {target}: File exists"
        | _, _ => s.openFor descriptor .writing target
      | _ =>
        match target.toList with
        | ['-'] => s.become (s.close descriptor)
        | [digit] =>
          if !digit.isDigit then s.abort "Syntax error: Bad fd number"
          else match s.openFile? (digit.toNat - '0'.toNat) with
            | some (place, _) => s.become (s.attach descriptor place)
            | none => s.abort s!"{digit}: Bad file descriptor"
        | _ => s.abort "Syntax error: Bad fd number"

/-- Redirects descriptors one after another. A fault makes the status two, and nothing else. -/
def redirectAll (run : Runner) (redirections : List Redirection) (s : State) : State × Bool :=
  let redirected := redirections.foldl (fun s redirection =>
    if s.departure.isSome then s else redirect run redirection s) s
  if s.departure.isNone && redirected.departure.isSome then
    ({ redirected with departure := none }.setStatus 2, false)
  else (redirected, true)

/-- Puts descriptors back to what they were. -/
def withDescriptors (s : State) (descriptors : List (Nat × Nat)) : State :=
  { s with descriptors }

/-! ## Signals and ends -/

/-- Leaves the shell because of a failure, if it is one that may not be. -/
def checked (s : State) : State :=
  if s.isOn 'e' && !s.guarded && s.departure.isNone && s.status ≠ 0 then
    { s with departure := some .exited }
  else s

/-- Reacts to the signals that have come for the shell. -/
def heed (runText : String → State → State) (s : State) : State :=
  let mine := s.system.signals.filter (·.1 = s.number)
  if mine.isEmpty then s
  else
    let s := { s with system := { s.system with
      signals := s.system.signals.filter (·.1 ≠ s.number) } }
    mine.foldl (fun s (_, signal) =>
      match s.departure, strictSignals.contains signal, s.traps.lookup signal with
      | some (.killed _), _, _ => s
      | _, false, some action =>
        if action = "" then s
        else
          let status := s.status
          let after := runText action s
          if after.departure.isSome then after else after.setStatus status
      | _, _, _ =>
        if harmlessSignals.contains signal || (s.ignored.contains signal && signal ≠ 9) then s
        else { s with departure := some (.killed signal) }) s

/-- Runs the action for the end of the shell, if there is one. -/
def finish (runText : String → State → State) (s : State) : State :=
  match s.departure, s.traps.lookup 0 with
  | some (.killed _), _ | _, none | _, some "" => s
  | _, some action =>
    let status := s.status
    let after := runText action
      { s with departure := none, traps := s.traps.filter (·.1 ≠ 0), guarded := false }
    match after.departure with
    | some (.killed _) | some .exited => after
    | _ => after.setStatus status

def signalTexts : List String :=
  ["Hangup", "", "Quit", "Illegal instruction", "Trace/breakpoint trap", "Aborted", "Bus error",
    "Floating point exception", "Killed", "User defined signal 1", "Segmentation fault",
    "User defined signal 2", "", "Alarm clock", "Terminated", "Stack fault", "Child exited",
    "Continued", "Stopped (signal)", "Stopped", "Stopped (tty input)", "Stopped (tty output)",
    "Urgent I/O condition", "CPU time limit exceeded", "File size limit exceeded",
    "Virtual timer expired", "Profiling timer expired", "Window changed", "I/O possible",
    "Power failure", "Bad system call"]

/-- Takes note of how a process has ended that the shell was waiting for. -/
def settle (s : State) (child : Process) : State :=
  let s := s.become (s.toProcess.adopt child)
  let s := s.setStatus (child.endingStatus)
  match child.killed with
  | none => s
  | some signal =>
    let text := (signalTexts[signal - 1]?).getD s!"Unknown signal {signal}"
    if text = "" then s else s.become (s.complain (text ++ "\n"))

/-! ## Programs -/

def executionText (fault : OsFault) : String :=
  if fault = .noSuchFile ∨ fault = .notADirectory then "not found" else Process.faultText fault

def executionStatus (fault : OsFault) : Nat :=
  if [OsFault.noSuchFile, .notADirectory, .tooManyLinks, .nameTooLong].contains fault then 127
  else 126

/-- Loads a program from a path. A file that does not say what it is, is a script. -/
def loadAt (s : State) (path : String) (words : List String) : Except OsFault Loaded :=
  match Loaded.load s.toProcess Loaded.depthLimit path words with
  | .error fault =>
    if fault = .badExecutable then
      Loaded.load s.toProcess Loaded.depthLimit "/bin/sh" ("/bin/sh" :: path :: words.drop 1)
    else .error fault
  | loaded => loaded

/-- Whether something with the program's name is there but is no program. -/
def isDenied (s : State) (name : String) : Bool :=
  s.searchPath.any fun directory =>
    (s.node? (if directory = "" then name else s!"{directory}/{name}")).isSome

def child (s : State) (environment : List (String × String)) (words : List String) : Process :=
  let (p, number) := s.toProcess.nextNumber
  { p with
    number, parent := s.number, words, environment, status := 0
    ignored := s.traps.filterMap fun (signal, action) => if action = "" then some signal else none }

def runProgram (execute : Executor) (words : List String) (s : State) : Process :=
  let name := words.headD ""
  let child := s.child s.exports words
  let failed (status : Nat) (text : String) : Process :=
    ((({ s with builtin := none }).become child).fail status s!"{name}: {text}").toProcess
  let attempt (path : String) : Process :=
    match s.loadAt path words with
    | .ok loaded => execute loaded { child with words := loaded.words }
    | .error fault => failed (executionStatus fault) (executionText fault)
  if name.contains '/' then attempt name
  else match s.programPath? name with
    | some path => attempt path
    | none => failed 127 (if s.isDenied name then "Permission denied" else "not found")

/-! ## Simple commands -/

/-- The words are called to change variables, so that those that look like assignments are. -/
def isDeclaring (name : String) : Bool := ["export", "readonly", "local"].contains name

def expandCommand (run : Runner) : List Word → List String → State → List String × State
  | [], fields, s => (fields, s)
  | word :: rest, fields, s =>
    let declaring := match fields with
      | "command" :: name :: _ => isDeclaring name
      | name :: _ => isDeclaring name
      | [] => false
    match declaring, assignment? word with
    | true, some (name, value) =>
      let (text, s) := expandText run { assignment := true } value s
      expandCommand run rest (fields ++ [s!"{name}={text}"]) s
    | _, _ =>
      let (more, s) := expandFields run word s
      expandCommand run rest (fields ++ more) s

def assignAll (run : Runner) (exported : Bool) (assignments : List (String × Word)) (s : State) :
    State :=
  assignments.foldl (fun s (name, value) =>
    if s.departure.isSome then s
    else
      let (text, s) := expandText run { assignment := true } value s
      if s.departure.isSome then s
      else
        let s := s.assignOrAbort name text
        if exported then s.bind name { s.binding name with exported := true } else s) s

def flush (s : State) : State :=
  let text := s.printed
  let s := { s with printed := "" }
  if text = "" then s
  else match s.toProcess.write 1 text with
    | .ok p => s.become p
    | .error _ =>
      let name := s.builtin.getD ""
      (s.warn s!"{name}: I/O error").setStatus (s.status ||| 1)

def runBuiltin (name : String) (body : State → State) (s : State) : State :=
  let outer := s.builtin
  { flush (body { s with builtin := some name }) with builtin := outer }

def trace (s : State) (assignments : List (String × String)) (words : List String) : State :=
  if !s.isOn 'x' then s
  else
    let shown := assignments.map (fun (name, value) => s!"{name}={value}") ++ words
    s.become (s.complain (s.valueOf "PS4" ++ " ".intercalate shown ++ "\n"))

/-- The words behind `command` and its options, and whether they are only to be described. -/
def commandWords : List String → Option (Option Bool × List String)
  | "--" :: rest => some (none, rest)
  | "-v" :: rest => some (some true, rest)
  | "-V" :: rest => some (some false, rest)
  | "-p" :: rest => commandWords rest
  | words => if words.head?.any fun word => word.startsWith "-" && word ≠ "-" then none
    else some (none, words)

/-- Where a file with commands is found: along the search path unless its name holds a slash. -/
def sourcePath? (s : State) (name : String) : Option String :=
  if name.contains '/' then some name
  else (s.searchPath.map fun directory =>
      if directory = "" then name else s!"{directory}/{name}").find? fun path =>
    match s.node? path with
    | some (.file ..) => true
    | _ => false

/-- The text holds no command, but blank lines and comments only. -/
def isVoid (text : String) : Bool :=
  (text.splitOn "\n").all fun line =>
    match line.toList.dropWhile (fun c => c = ' ' || c = '\t') with
    | [] | '#' :: _ => true
    | _ => false

/-! ## Choices -/

/-- The body of the first arm with a pattern that matches a text. -/
def chosen (run : Runner) (text : List Char) :
    List (List Word × Command) → State → Option Command × State
  | [], s => (none, s)
  | (patterns, body) :: rest, s =>
    let (found, s) := patterns.foldl (fun (found, s) word =>
      if found || s.departure.isSome then (found, s)
      else
        let (pattern, s) := expandPattern run word s
        (Pattern.isMatch (Pattern.items pattern) text, s)) (false, s)
    if s.departure.isSome then (none, s)
    else if found then (some body, s)
    else chosen run text rest s

end State

/-! ## Commands -/

inductive Task where
  | command (command : Command)
  /-- A text, line by line. -/
  | text (text : String)
  /-- The lines that are left of a source. -/
  | lines (source : Source)
  /-- A simple command whose words have been expanded. -/
  | words (plain : Bool) (words : List String)
  /-- Further turns of a loop; the status of the last one. -/
  | turns (expected : Bool) (test body : Command) (status : Nat)
  /-- Further items of a loop. -/
  | items (name : String) (items : List String) (body : Command)

namespace State

/-- The state after a turn of a loop: the departure if it was one from this loop only, and
whether there may be another turn. -/
def afterTurn (s : State) : State × Bool :=
  match s.departure with
  | some (.leftLoops 1 again) => ({ s with departure := none }, again)
  | some (.leftLoops (n + 1) again) => ({ s with departure := some (.leftLoops n again) }, false)
  | some _ => (s, false)
  | none => (s, true)

end State

open State in
/-- Runs something. Once the shell, a function or a loop has been left, nothing is run. -/
def perform (execute : Executor) : (fuel : Nat) → Task → State → State
  | 0, _, s => s
  | fuel + 1, task, s =>
    let run : Runner := fun command s =>
      if s.isOn 'n' then s else perform execute fuel (.command command) s
    let runText (text : String) (s : State) : State := perform execute fuel (.text text) s
    let runApart : Runner := fun body s => finish runText (run body s)
    let heed (s : State) : State := s.heed runText
    if s.departure.isSome then s
    else match task with
      | .text text => perform execute fuel (.lines { rest := text.toList }) s
      | .lines source =>
        if source.rest.isEmpty then s
        else match readList (8 * source.rest.length + 32) .line source with
          | .error fault => { s with line := fault.line }.abort fault.message
          | .ok (command, source) =>
            let s := { s with documents := source.documents ++ s.documents }
            let s := heed (run command s)
            perform execute fuel (.lines { source with documents := [] }) s
      | .words plain words =>
        let name := words.headD ""
        let arguments := words.drop 1
        let function := if plain || isSpecialBuiltin name then none else s.functions.lookup name
        match function with
        | some body =>
          let outer := s
          let s := { s with
            parameters := arguments, frames := [] :: s.frames, loopDepth := 0, builtin := none
            optionPlace := (1, 0) }
          let s := run body s
          let s := s.restore (s.frames.headD [])
          { s with
            parameters := outer.parameters, frames := outer.frames
            loopDepth := outer.loopDepth, builtin := outer.builtin
            optionPlace := outer.optionPlace
            departure := if s.departure = some .returned then none else s.departure }
        | none =>
          let quietly (s : State) : State :=
            if plain && s.departure = some .exited && s.status = 2 && name ≠ "exit" then
              { s with departure := none }
            else s
          match name with
          | "eval" =>
            s.runBuiltin name fun s =>
              let text := " ".intercalate arguments
              if isVoid text then s.setStatus 0 else quietly (runText text s)
          | "." =>
            s.runBuiltin name fun s =>
              match arguments with
              | [] => s.setStatus 0
              | file :: _ =>
                match s.sourcePath? file with
                | none => quietly (s.abort s!"{file}: not found")
                | some path =>
                  match s.readFile path with
                  | .error fault =>
                    quietly (s.abort s!"cannot open {path}: {openingText false fault}")
                  | .ok text =>
                    let guarded := s.guarded
                    let s := if isVoid text then s.setStatus 0
                      else runText text { s with guarded := false }
                    { s with
                      guarded
                      departure := if s.departure = some .returned then none else s.departure }
          | "exec" =>
            if arguments.isEmpty then s.setStatus 0
            else
              let process := runProgram execute arguments { s with builtin := some name }
              let s := (s.become (s.toProcess.adopt process)).setStatus process.status
              { s with
                traps := []
                departure := some (match process.killed with
                  | some signal => .killed signal
                  | none => .exited) }
          | "command" =>
            match commandWords arguments with
            | none =>
              s.runBuiltin name (·.reject ("Illegal option " ++ ((arguments.headD "").take 2).toString))
            | some (some terse, names) => s.runBuiltin name (·.describe terse names)
            | some (none, []) => s.setStatus 0
            | some (none, words) => perform execute fuel (.words true words) s
          | _ =>
            if isBuiltin name then
              quietly (s.runBuiltin name fun s => (builtin? name arguments s).getD s)
            else s.settle (runProgram execute words s)
      | .turns expected test body status =>
        let tested := run test { s with guarded := true }
        let (tested, goesOn) := { tested with guarded := s.guarded }.afterTurn
        if tested.departure.isSome || !goesOn then tested
        else if (tested.status = 0) != expected then
          -- Another turn may have been asked for by the test itself.
          tested.setStatus status
        else
          let (s, goesOn) := (run body tested).afterTurn
          if goesOn then perform execute fuel (.turns expected test body s.status) (heed s) else s
      | .items name items body =>
        match items with
        | [] => s
        | item :: items =>
          let (s, goesOn) := (run body (s.assignOrAbort name item)).afterTurn
          if goesOn then perform execute fuel (.items name items body) (heed s) else s
      | .command command =>
        match command with
        | .skip => s
        | .simple line assignments words redirections =>
          let s := { s with line, substituted := 0 }
          let (fields, s) := expandCommand runApart words [] s
          if s.departure.isSome then s
          else
            let descriptors := s.descriptors
            let name := fields.headD ""
            let isSpecial := isSpecialBuiltin name
            let (s, opened) := redirectAll runApart redirections s
            let s :=
              if s.departure.isSome then s.withDescriptors descriptors
              else if !opened then
                let s := s.withDescriptors descriptors
                if isSpecial then { s with departure := some .exited } else s
              else match fields with
                | [] =>
                  let s := (assignAll runApart false assignments s).withDescriptors descriptors
                  let s := s.trace (assignments.map fun (name, _) => (name, s.valueOf name)) []
                  if s.departure.isSome then s else s.setStatus s.substituted
                | _ =>
                  let outer := s
                  let s := if isSpecial then s
                    else assignments.foldl (fun s (name, _) => s.makeLocal name)
                      { s with frames := [] :: s.frames }
                  let s := assignAll runApart (!isSpecial || fields.length ≠ 1 && name = "exec")
                    assignments s
                  let s := s.trace (assignments.map fun (name, _) => (name, s.valueOf name)) fields
                  let s := if s.departure.isSome then s
                    else perform execute fuel (.words false fields) s
                  let s := if isSpecial then s
                    else { (s.restore (s.frames.headD [])) with frames := outer.frames }
                  if name = "exec" && fields.length = 1 then s else s.withDescriptors descriptors
            (heed s).checked
        | .redirected line body redirections =>
          let descriptors := s.descriptors
          let (s, opened) := redirectAll runApart redirections { s with line }
          let s := if opened then run body s else s.checked
          heed (s.withDescriptors descriptors)
        | .sequence first second => run second (run first s)
        | .background body =>
          let copy := s.fork
          let number := copy.number
          let quiet := match copy.openPath .reading "/dev/null" with
            | .ok (p, place) => copy.become (p.attach 0 place)
            | .error _ => copy
          let after := (runApart body { quiet with guarded := false }).ended
          let job : Job := ⟨number, after.endingStatus, after.system.clock⟩
          let s := s.become (s.toProcess.adopt { after with
            system := { after.system with clock := s.system.clock } })
          { s with jobs := s.jobs ++ [job], background := some number }.setStatus 0
        | .both first second =>
          let after := { run first { s with guarded := true } with guarded := s.guarded }
          if after.status = 0 then run second after else after
        | .either first second =>
          let after := { run first { s with guarded := true } with guarded := s.guarded }
          if after.status ≠ 0 then run second after else after
        | .negated body =>
          let after := { run body { s with guarded := true } with guarded := s.guarded }
          if after.departure.isSome then after
          else after.setStatus (if after.status = 0 then 1 else 0)
        | .pipeline commands =>
          let start := s.system.clock
          let descriptors := s.descriptors
          let last := commands.length - 1
          let (s, _, ending) := commands.zipIdx.foldl (fun (s, input, ending) (body, i) =>
            let (p, reading, writing) := s.toProcess.pipe
            let copy := ((s.become p).fork)
            let copy := match input with
              | some place => copy.become (copy.attach 0 place)
              | none => copy
            let copy := if i = last then copy else copy.become (copy.attach 1 writing)
            let after := (runApart body copy).ended
            let s := if i = last then s.settle after
              else s.become (s.toProcess.adopt after)
            let ending := max ending s.system.clock
            let clock := if i = last then ending else start
            ({ s with system := { s.system with clock } }, some reading, ending))
            (s, (none : Option Nat), start)
          let s := { s with system := { s.system with clock := max ending s.system.clock } }
          (heed (s.withDescriptors descriptors)).checked
        | .subshell _ body =>
          (heed (s.settle (runApart body s.fork).ended)).checked
        | .conditional test yes no =>
          let after := { run test { s with guarded := true } with guarded := s.guarded }
          if after.departure.isSome then after
          else if after.status = 0 then run yes after
          else run no (after.setStatus 0)
        | .loop expected test body =>
          let s := perform execute fuel (.turns expected test body 0)
            { s with loopDepth := s.loopDepth + 1 }
          { s with loopDepth := s.loopDepth - 1 }
        | .forEach line name items body =>
          let (fields, s) := expandAll runApart items { s with line }
          if s.departure.isSome then s
          else
            let s := perform execute fuel (.items name fields body)
              { s.setStatus 0 with loopDepth := s.loopDepth + 1 }
            { s with loopDepth := s.loopDepth - 1 }
        | .choice line subject arms =>
          let (text, s) := expandText runApart {} subject { s with line }
          if s.departure.isSome then s
          else match chosen runApart text.toList arms s with
            | (some body, s) => run body (s.setStatus 0)
            | (none, s) => if s.departure.isSome then s else s.setStatus 0
        | .definition name _ body =>
          { s with functions := (name, body) :: s.functions.filter (·.1 ≠ name) }.setStatus 0

end ColdBuild.Shell
