import ColdBuild.Machine.Format
import ColdBuild.Machine.Shell.State
import ColdBuild.Machine.Utility.Surroundings

/-!
# Utilities that run programs

Each runs the program that its operands name, with an environment, input, arguments or a time
limit of its own. That a program cannot be found or run shows in the status. A file that does not
say what it is, is a script of the shell.
-/

namespace ColdBuild.Process

def loadCommand (p : Process) (words : List String) : Except OsFault Loaded :=
  match Loaded.ofWords p words with
  | .error fault =>
    if fault ≠ .badExecutable then .error fault
    else
      let name := words.headD ""
      let directories := ((p.environmentValue? "PATH").getD Loaded.defaultSearchPath).splitOn ":"
      let path := if name.contains '/' then name
        else ((directories.map fun directory => FilePath.join directory name).find? fun path =>
          (p.node? path).isSome).getD name
      Loaded.load p Loaded.depthLimit "/bin/sh" ("/bin/sh" :: path :: words.drop 1)
  | loaded => loaded

def failureStatus (fault : OsFault) : Nat := if fault = .noSuchFile then 127 else 126

/-- Becomes the program of a command. -/
def become (execute : Executor) (p : Process) (words : List String) : Process :=
  match p.loadCommand words with
  | .ok loaded => execute loaded { p with words := loaded.words, status := 0 }
  | .error fault =>
    (p.faultAbout (shown (words.headD "")) fault).exit (failureStatus fault)

/-- Runs a command as a process of its own, which has ended then. What has been printed before has
to be written before. -/
def runChild (execute : Executor) (p : Process) (words : List String) : Except OsFault Process := do
  let p := { p with unwritten := "" }
  let loaded ← p.loadCommand words
  let (q, number) := p.nextNumber
  return execute loaded { q with number, parent := p.number, words := loaded.words, status := 0 }

/-! ## Surroundings of a command -/

/-- Takes a text apart into words, as quotation marks say. -/
def splitWords : (fuel : Nat) → (word : Option (List Char)) → List Char → List String
  | 0, word, _ | _, word, [] => (word.map fun word => String.ofList word.reverse).toList
  | fuel + 1, word, c :: rest =>
    let held := word.getD []
    if c = ' ' || c = '\t' || c = '\n' then
      (word.map fun word => String.ofList word.reverse).toList ++ splitWords fuel none rest
    else if c = '\'' || c = '"' then
      let inside := rest.takeWhile (· ≠ c)
      splitWords fuel (some (inside.reverse ++ held)) (rest.drop (inside.length + 1))
    else if c = '\\' then splitWords fuel (some (rest.take 1 ++ held)) (rest.drop 1)
    else splitWords fuel (some (c :: held)) rest

/-- The words of a call with a text in it taken apart. -/
def splitCall (words : List String) : List String :=
  let split (text : String) (rest : List String) : List String :=
    splitWords (text.length + 1) none text.toList ++ rest
  match words with
  | name :: option :: rest =>
    if option = "-S" || option = "-vS" || option = "--split-string" then
      name :: split (rest.headD "") (rest.drop 1)
    else if option.startsWith "-S" then name :: split (option.drop 2).toString rest
    else if option.startsWith "-vS" then name :: split (option.drop 3).toString rest
    else if option.startsWith "--split-string=" then name :: split (option.drop 15).toString rest
    else words
  | words => words

/-- Runs a command in another environment, or shows the environment. -/
def withEnvironment (execute : Executor) (p : Process) : Process :=
  let p := { p with words := splitCall p.words }
  p.withCall ["i,ignore-environment", "0,null", "u,unset=",
      "C,chdir=", "S,split-string=", "v,debug", "block-signal?", "default-signal?",
      "ignore-signal?", "list-signal-handling", "a,argv0="] (fun call =>
    let operands := if call.operands.head? = some "-" then call.operands.drop 1 else call.operands
    let bare := call.has "i" || call.operands.head? = some "-"
    let p := { p with environment := if bare then [] else p.environment }
    let p := (call.values "u").foldl (fun (p : Process) name =>
      { p with environment := p.environment.filter (·.1 ≠ name) }) p
    let isAssignment (word : String) : Bool := word.contains '='
    let p := (operands.takeWhile isAssignment).foldl (fun (p : Process) (word : String) =>
      let name := word.toList.takeWhile (· ≠ '=')
      p.setVariable (String.ofList name) (word.drop (name.length + 1)).toString) p
    let command := operands.dropWhile isAssignment
    let placed : Except OsFault Process := match call.value? "C" with
      | none => .ok p
      | some path => (p.files.findDirectory p.current (pathOf path)).map fun current =>
        { p with current }
    match placed with
    | .error fault =>
      let goal := shown ((call.value? "C").getD "")
      p.fault s!"cannot change directory to {goal}: {faultText fault}" 125
    | .ok p =>
      if command.isEmpty then
        let mark := if call.has "0" then String.ofList [Loaded.nul] else "\n"
        p.print (String.join (p.environment.map fun (name, value) => s!"{name}={value}{mark}"))
      else p.become execute command) false 125

/-- Runs a command that nothing has to be changed for. -/
def runAsIs (execute : Executor) (rules : List String) (alone : Option String) (p : Process) :
    Process :=
  p.withCall rules (fun call =>
    match call.operands, alone with
    | [], some text => p.print text
    | [], none => p.misuse "missing operand" 125
    | command, _ => p.become execute command) false 125

/-- Runs a command for no longer than a time. -/
def runWithin (execute : Executor) (p : Process) : Process :=
  p.withCall ["k,kill-after=", "s,signal=", "foreground", "preserve-status", "v,verbose"] (fun call =>
    match call.operands with
    | [] | [_] => (p.complain s!"Try '{p.name} --help' for more information.\n").exit 125
    | time :: command =>
      match duration? time with
      | none => p.misuse s!"invalid time interval {shown time}" 125
      | some limit =>
        match p.runChild execute command with
        | .error fault =>
          (p.faultAbout ("failed to run command " ++ shown (command.headD "")) fault).exit
            (failureStatus fault)
        | .ok child =>
          let p' := p.adopt child
          let stop := p.system.clock + limit
          let late := limit ≠ 0 && stop < p'.system.clock
          let cut := { p' with system := { p'.system with clock := stop } }
          if !late then p'.exit child.endingStatus
          else if (call.value? "s").bind Shell.State.signal? = some 9 then { cut with killed := some 9 }
          else cut.exit 124) false 125

/-! ## Commands from the input -/

/-- Takes the input apart into words, each with whether a line ends behind it. -/
def inputWords : (fuel : Nat) → (word : Option (List Char)) → List Char →
    Except String (List (String × Bool))
  | 0, _, _ => .ok []
  | _, word, [] => .ok ((word.map fun word => (String.ofList word.reverse, true)).toList)
  | fuel + 1, word, c :: rest => do
    let held := word.getD []
    if c = ' ' || c = '\t' || c = '\n' then
      let behind ← inputWords fuel none rest
      return (word.map fun word => (String.ofList word.reverse, decide (c = '\n'))).toList ++ behind
    else if c = '\'' || c = '"' then
      let inside := rest.takeWhile fun d => d ≠ c && d ≠ '\n'
      match rest.drop inside.length with
      | d :: behind =>
        if d = c then inputWords fuel (some (inside.reverse ++ held)) behind
        else throw (if c = '"' then "double" else "single")
      | [] => throw (if c = '"' then "double" else "single")
    else if c = '\\' then inputWords fuel (some (rest.take 1 ++ held)) (rest.drop 1)
    else inputWords fuel (some (c :: held)) rest

/-- Items one group after another, each group as large as it may be. -/
def grouped (most : Nat) : (fuel : Nat) → List String → List (List String)
  | 0, _ | _, [] => []
  | fuel + 1, items => items.take (max most 1) :: grouped most fuel (items.drop (max most 1))

/-- Lines of words, so many together. -/
def groupedLines (most : Nat) (words : List (String × Bool)) : List (List String) :=
  let (groups, group, _) := words.foldl (fun (groups, group, lines) (word, last) =>
    let group := group ++ [word]
    if last && lines + 1 = most then (groups ++ [group], [], 0)
    else (groups, group, if last then lines + 1 else lines))
    (([] : List (List String)), ([] : List String), 0)
  if group.isEmpty then groups else groups ++ [group]

/-- Runs commands one after another, until one says that no more is to be run. -/
def runCommands (execute : Executor) (verbose : Bool) (p : Process) : List (List String) → Process
  | [] => p
  | words :: rest =>
    let p := if verbose then p.complain (" ".intercalate words ++ "\n") else p
    match p.runChild execute words with
    | .error fault =>
      (p.faultAbout (words.headD "") fault).exit (failureStatus fault)
    | .ok child =>
      let descriptors := p.descriptors
      let p := { p.adopt child with descriptors }
      match child.killed with
      | some signal => p.fault (words.headD "" ++ s!": terminated by signal {signal}") 125
      | none =>
        if child.status = 255 then
          p.fault (words.headD "" ++ ": exited with status 255; aborting") 124
        else
          runCommands execute verbose (if child.status = 0 then p else p.exit 123) rest

/-- A text with another one put in wherever a mark stands. -/
def filledIn (mark text : String) (word : String) : String :=
  if mark = "" then word else text.intercalate (word.splitOn mark)

/-- Builds commands from the input and runs them. -/
def runWithInput (execute : Executor) (p : Process) : Process :=
  p.withCall ["0,null", "a,arg-file=", "d,delimiter=", "E=", "e,eof?", "I=", "i,replace?", "L=",
      "l,max-lines?", "n,max-args=", "o,open-tty", "P,max-procs=", "p,interactive",
      "process-slot-var=", "r,no-run-if-empty", "s,max-chars=", "show-limits", "t,verbose",
      "x,exit"] (fun call =>
    if call.value? "n" = some "0" then p.misuse "value 0 for -n option should be >= 1"
    else
    let read := match call.value? "a" with
      | some path => (p.readFile path).map (·, p)
      | none => p.readAll 0
    match read with
    | .error fault => p.faultAbout ((call.value? "a").getD "-") fault
    | .ok (text, p) =>
      let command := if call.operands.isEmpty then ["echo"] else call.operands
      let mark? : Option String := match call.value? "I", call.value? "i" with
        | some mark, _ => some mark
        | none, some "" => some "\x7b\x7d"
        | none, mark => mark
      let delimiter? : Option String := match call.has "0", call.value? "d" with
        | true, _ => some (String.ofList [Loaded.nul])
        | false, some text =>
          some (String.ofList ((Format.unescape { extended := true } text.length text.toList).1.take 1))
        | false, none => none
      let pieces (delimiter : String) : List String :=
        match (text.splitOn delimiter).reverse with
        | "" :: rest => rest.reverse
        | pieces => pieces.reverse
      let blank (c : Char) : Bool := c = ' ' || c = '\t'
      let words : Except String (List (String × Bool)) := match delimiter?, mark? with
        | some delimiter, _ => .ok ((pieces delimiter).map (·, true))
        | none, some _ =>
          .ok (((linesOf text).map fun line => String.ofList (line.toList.dropWhile blank)).filter
            (· ≠ "") |>.map (·, true))
        | none, none => inputWords (text.length + 1) none text.toList
      match words with
      | .error kind =>
        p.fault s!"unmatched {kind} quote; by default quotes are special to xargs unless you use the -0 option"
      | .ok words =>
        let words := match call.value? "E" with
          | some stop => words.takeWhile (·.1 ≠ stop)
          | none => words
        let texts := words.map Prod.fst
        let whole? (key : String) : Option Nat := (call.value? key).bind String.toNat?
        let groups : List (List String) := match mark?, whole? "n", whole? "L" with
          | some mark, _, _ => texts.map fun text => command.map (filledIn mark text)
          | none, some most, _ => (grouped most texts.length texts).map (command ++ ·)
          | none, none, some most => (groupedLines most words).map (command ++ ·)
          | none, none, none => if texts.isEmpty then [] else [command ++ texts]
        let groups := if groups.isEmpty && !call.has "r" && mark?.isNone then [command] else groups
        -- The commands have no input.
        let (silent, place) := match p.openPath .reading "/dev/null" with
          | .ok (silent, place) => (silent, some place)
          | .error _ => (p, none)
        let silent := match place with
          | some place => silent.attach 0 place
          | none => silent
        runCommands execute (call.has "t") silent groups) false 1

end ColdBuild.Process
