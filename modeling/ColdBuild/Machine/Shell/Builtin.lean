import ColdBuild.Machine.Condition
import ColdBuild.Machine.Format
import ColdBuild.Machine.Shell.Expansion

/-!
# Builtin commands

Commands that the shell itself runs, because they change it. What they print is collected, and
written when they have ended. A wrong call of a special one ends the shell; of another one it is
a failure with status two.

The commands that run others stand elsewhere.
-/

namespace ColdBuild.Shell

namespace State

def isSpecialBuiltin (name : String) : Bool := specialBuiltins.contains name

/-- A wrong call of the builtin command being run. -/
def reject (s : State) (message : String) : State :=
  if s.builtin.any isSpecialBuiltin then s.abort message else s.fail 2 message

/-- The letters of the options at the beginning of some words, of which some may be given, and
the words behind them. -/
def optionLetters (known : List Char) : List String → Except Char (List Char × List String)
  | [] => .ok ([], [])
  | word :: rest =>
    match word.toList with
    | '-' :: letter :: letters =>
      if word = "--" then .ok ([], rest)
      else match (letter :: letters).find? fun c => !known.contains c with
        | some unknown => .error unknown
        | none => do
          let (more, rest) ← optionLetters known rest
          return (letter :: letters ++ more, rest)
    | _ => .ok ([], word :: rest)

/-- Goes on with the options of the arguments, if they are known. -/
def withOptions (s : State) (known : String) (arguments : List String)
    (next : List Char → List String → State) : State :=
  match optionLetters known.toList arguments with
  | .ok (letters, rest) => next letters rest
  | .error letter => s.reject s!"Illegal option -{letter}"

/-- A character between single quotes. A single quote ends them, and stands between double ones. -/
def singleQuoted (c : Char) : List Char := if c = '\'' then "'\"'\"'".toList else [c]

/-- A text between single quotes, as it could be read again. -/
def quoted (text : String) : String :=
  String.ofList ('\'' :: (text.toList.flatMap singleQuoted ++ ['\'']))

def natural? (text : String) : Option Nat :=
  let chars := text.toList
  if !chars.isEmpty && chars.all Char.isDigit then some (Nat.ofDigitChars 10 chars 0) else none

/-! ## Printing and testing -/

def echo (s : State) (arguments : List String) : State :=
  let plain := arguments.head? = some "-n"
  let style : Format.EscapeStyle := { leadingZero := true, stopping := true }
  (s.print (Format.line (some style) (!plain) (if plain then arguments.drop 1 else arguments))).setStatus 0

def printf (s : State) (arguments : List String) : State :=
  s.withOptions "" arguments fun _ arguments =>
    match arguments with
    | [] => s.reject "usage: printf format [arg ...]"
    | format :: rest =>
      let formatted := Format.apply false format rest
      let s := formatted.complaints.foldl warn (s.print formatted.text)
      match formatted.fault with
      | some fault => s.reject fault
      | none => s.setStatus (if formatted.complaints.isEmpty then 0 else 1)

def test (s : State) (arguments : List String) : State :=
  match Condition.holds s.toProcess arguments with
  | .ok holds => s.setStatus (if holds then 0 else 1)
  | .error message => s.reject message

/-! ## Directories -/

/-- An absolute path without dots, as its text says. -/
def normalised (path : String) : String :=
  let names := (path.splitOn "/").foldl (fun names name =>
    if name = "" || name = "." then names
    else if name = ".." then names.drop 1
    else name :: names) []
  "/" ++ "/".intercalate names.reverse

/-- Goes to a directory, by its text or as it really is. -/
def enter? (s : State) (physical : Bool) (target : String) : Option State :=
  let path := if target.startsWith "/" then target else s!"{s.place}/{target}"
  let logical := normalised path
  let found := s.files.findDirectory s.current ⟨Octets.bytes (if physical then target else logical)⟩
  match found with
  | .error _ => none
  | .ok current =>
    let place := if physical then s.files.pathOf current else logical
    let old := s.place
    let s := { s with current, place }
    let s := s.assign "OLDPWD" old
    let s := s.assign "PWD" place
    some (s.bind "PWD" { s.binding "PWD" with exported := true })

def changeDirectory (s : State) (arguments : List String) : State :=
  s.withOptions "LP" arguments fun letters arguments =>
    let physical := letters.getLast? = some 'P'
    let (target, shown) := match arguments with
      | [] => (s.valueOf "HOME", false)
      | "-" :: _ => (s.valueOf "OLDPWD", true)
      | target :: _ => (target, false)
    let target := if target = "" then "." else target
    let isPlain := target.startsWith "/" || (target.splitOn "/").head?.any fun name =>
      name = "." || name = ".."
    let search := if isPlain then [] else match s.value? "CDPATH" with
      | some text => if text = "" then [] else text.splitOn ":"
      | none => []
    let tries := search.filterMap fun directory =>
      if directory = "" then (s.enter? physical target).map (·, false)
      else (s.enter? physical s!"{directory}/{target}").map (·, true)
    match tries.head?.or ((s.enter? physical target).map (·, false)) with
    | some (moved, found) =>
      (if shown || found then moved.say moved.place else moved).setStatus 0
    | none => s.reject s!"can't cd to {target}"

def printDirectory (s : State) (arguments : List String) : State :=
  s.withOptions "LP" arguments fun letters _ =>
    let physical := letters.getLast? = some 'P'
    (s.say (if physical then s.files.pathOf s.current else s.place)).setStatus 0

/-! ## Variables -/

def splitAssignment (word : String) : String × Option String :=
  match word.splitOn "=" with
  | name :: first :: more => (name, some ("=".intercalate (first :: more)))
  | _ => (word, none)

/-- All variables that pass a test, sorted, each with its value as it could be read again. -/
def listVariables (s : State) (front : String) (test : Variable → Bool) : State :=
  let shown := (s.bindings.filter fun (_, binding) => test binding).mergeSort fun a b => a.1 ≤ b.1
  shown.foldl (fun s (name, binding) =>
    s.say (front ++ name ++ match binding.value with
      | some value => s!"={quoted value}"
      | none => "")) s

/-- Marks variables, and sets those that are given a value. -/
def markAll (s : State) (command : String) (mark : Variable → Variable)
    (test : Variable → Bool) (arguments : List String) : State :=
  s.withOptions "p" arguments fun letters words =>
    if words.isEmpty || letters.contains 'p' then
      (s.listVariables s!"{command} " test).setStatus 0
    else words.foldl (fun s word =>
      if s.departure.isSome || s.status ≠ 0 then s
      else
        let (name, value) := splitAssignment word
        if !isName name.toList then s.reject s!"{name}: bad variable name"
        else match value with
          | none => s.bind name (mark (s.binding name))
          | some value =>
            if (s.binding name).readOnly then s.reject s!"{name}: is read only"
            else
              let s := s.assign name value
              s.bind name (mark (s.binding name))) (s.setStatus 0)

def makeExported (s : State) (arguments : List String) : State :=
  s.markAll "export" (fun binding => { binding with exported := true }) (·.exported) arguments

def makeReadOnly (s : State) (arguments : List String) : State :=
  s.markAll "readonly" (fun binding => { binding with readOnly := true }) (·.readOnly) arguments

def unset (s : State) (arguments : List String) : State :=
  s.withOptions "vf" arguments fun letters names =>
    let onlyFunctions := letters.getLast? = some 'f'
    names.foldl (fun s name =>
      if s.departure.isSome || s.status ≠ 0 then s
      else if onlyFunctions then { s with functions := s.functions.filter (·.1 ≠ name) }
      else if !isName name.toList then s.reject s!"{name}: bad variable name"
      else if (s.binding name).readOnly then s.reject s!"{name}: is read only"
      else { s with bindings := s.bindings.filter (·.1 ≠ name) }) (s.setStatus 0)

def declareLocal (s : State) (arguments : List String) : State :=
  if s.frames.isEmpty then s.abort "not in a function"
  else arguments.foldl (fun s word =>
    if s.departure.isSome then s
    else
      let (name, value) := splitAssignment word
      if name = "-" then s
      else if !isName name.toList then s.abort s!"{name}: bad variable name"
      else
        let s := s.makeLocal name
        match value with
        | some value => s.assignOrAbort name value
        | none => s) (s.setStatus 0)

def optionNames : List (Char × String) :=
  [('e', "errexit"), ('f', "noglob"), ('I', "ignoreeof"), ('i', "interactive"), ('m', "monitor"),
    ('n', "noexec"), ('s', "stdin"), ('x', "xtrace"), ('v', "verbose"), ('V', "vi"),
    ('E', "emacs"), ('C', "noclobber"), ('a', "allexport"), ('b', "notify"), ('u', "nounset")]

def switch (s : State) (letter : Char) (on : Bool) : State :=
  let others := s.options.filter (· ≠ letter)
  { s with options := if on then
      (optionNames.map Prod.fst).filter fun c => c = letter || others.contains c
    else others }

/-- Switches the options that words say, up to the first other word; whether the words behind
them replace the arguments. -/
def switchAll (s : State) : List String → Except String (State × Option (List String))
  | [] => .ok (s, none)
  | word :: rest =>
    match word.toList with
    | ['-', '-'] => .ok (s, some rest)
    | ['-'] =>
      .ok ((s.switch 'x' false).switch 'v' false, if rest.isEmpty then none else some rest)
    | ['-', 'o'] | ['+', 'o'] =>
      match rest with
      | [] =>
        .ok (optionNames.foldl (fun s (letter, name) =>
          let blanks := String.ofList (List.replicate (16 - name.length) ' ')
          s.say (if word = "-o" then name ++ blanks ++ (if s.isOn letter then "on" else "off")
            else ("set " ++ (if s.isOn letter then "-o " else "+o ") ++ name)))
          (if word = "-o" then s.say "Current option settings" else s), none)
      | name :: rest =>
        match optionNames.find? (·.2 = name) with
        | some (letter, _) => (s.switch letter (word = "-o")).switchAll rest
        | none => .error s!"Illegal option {word} {name}"
    | sign :: letters =>
      if (sign = '-' || sign = '+') && !letters.isEmpty then
        match letters.find? fun c => !optionNames.any (·.1 = c) with
        | some unknown => .error s!"Illegal option {sign}{unknown}"
        | none => (letters.foldl (fun s c => s.switch c (sign = '-')) s).switchAll rest
      else .ok (s, some (word :: rest))
    | [] => .ok (s, some (word :: rest))

def set (s : State) (arguments : List String) : State :=
  if arguments.isEmpty then (s.listVariables "" (·.value.isSome)).setStatus 0
  else match s.switchAll arguments with
    | .error message => s.abort message
    | .ok (s, none) => s.setStatus 0
    | .ok (s, some parameters) => { s with parameters, optionPlace := (1, 0) }.setStatus 0

def shift (s : State) (arguments : List String) : State :=
  match natural? (arguments.headD "1") with
  | none => s.abort ("Illegal number: " ++ arguments.headD "")
  | some n =>
    if n ≤ s.parameters.length then { s with parameters := s.parameters.drop n }.setStatus 0
    else s.abort "can't shift that many"

/-! ## Leaving -/

/-- The status that an argument says, or else the last one. -/
def statusOf? (s : State) (arguments : List String) : Except String Nat :=
  match arguments with
  | [] => .ok s.status
  | text :: _ =>
    match natural? text with
    | some n => .ok (n % 256)
    | none => .error s!"Illegal number: {text}"

def leave (s : State) (arguments : List String) (departure : Departure) : State :=
  match s.statusOf? arguments with
  | .ok status => { s.setStatus status with departure := some departure }
  | .error message => s.abort message

def leaveLoops (s : State) (arguments : List String) (again : Bool) : State :=
  match natural? (arguments.headD "1") with
  | none | some 0 => s.abort ("Illegal number: " ++ arguments.headD "")
  | some n =>
    let count := min n s.loopDepth
    if count = 0 then s.setStatus 0
    else { s.setStatus 0 with departure := some (.leftLoops count again) }

/-! ## Signals and background commands -/

/-- The name of a signal, without the letters that all have in common. -/
def signalName (signal : Nat) : String :=
  if signal = 0 then "EXIT" else (WaitStatus.signalNames[signal - 1]?).getD (toString signal)

def trap (s : State) (arguments : List String) : State :=
  s.withOptions "" arguments fun _ words =>
    match words with
    | [] =>
      (s.traps.mergeSort fun a b => a.1 ≤ b.1).foldl (fun s (signal, action) =>
        s.say s!"trap -- {quoted action} {signalName signal}") (s.setStatus 0)
    | first :: rest =>
      let resets := rest.isEmpty || (natural? first).isSome
      let action := if resets then none else if first = "-" then none else some first
      let names := if resets then words else rest
      names.foldl (fun s name =>
        if s.status ≠ 0 then s
        else match signal? name with
          | none => (s.become (s.complain s!"trap: {name}: bad trap\n")).setStatus 1
          | some signal =>
            let others := s.traps.filter (·.1 ≠ signal)
            let ignored := s.ignored.filter (· ≠ signal)
            { s with
              traps := match action with
                | none => others
                | some action => (signal, action) :: others
              ignored := if action = some "" && !strictSignals.contains signal then
                  signal :: ignored
                else ignored }) (s.setStatus 0)

/-- The shell sees a process with this number: a job that has not ended, itself, or one that it
has come from. -/
def isAlive (s : State) (number : Nat) : Bool :=
  number = s.number || number = s.shellNumber || number = s.parent ||
    s.jobs.any fun job => job.number = number && s.system.clock < job.ending

def sendSignal (s : State) (signal number : Nat) : State :=
  if s.jobs.any (·.number = number) then
    if harmlessSignals.contains signal then s
    else { s with jobs := s.jobs.map fun job =>
      if job.number = number then
        { job with status := 128 + signal, ending := s.system.clock } else job }
  else if signal = 0 then s
  else { s with system := { s.system with signals := s.system.signals ++ [(number, signal)] } }

def killUsage : String :=
  "Usage: kill [-s sigspec | -signum | -sigspec] [pid | job]... or\nkill -l [exitstatus]"

def kill (s : State) (arguments : List String) : State :=
  let send (signal : Nat) (targets : List String) : State :=
    if targets.isEmpty then s.reject killUsage
    else targets.foldl (fun s target =>
      match natural? target with
      | some number =>
        if s.isAlive number then s.sendSignal signal number
        else (s.fail 1 "No such process\n")
      | none =>
        if target.startsWith "%" then s.reject s!"No such job: {target}"
        else s.reject s!"Illegal number: {target}") (s.setStatus 0)
  match arguments with
  | "-l" :: rest =>
    match rest with
    | [] =>
      (WaitStatus.signalNames.foldl say (s.say "0")).setStatus 0
    | text :: _ =>
      match natural? text with
      | some n => (s.say (signalName (if 128 < n then n - 128 else n))).setStatus 0
      | none => s.reject s!"Illegal number: {text}"
  | "-s" :: name :: targets =>
    match signal? name with
    | some signal => send signal targets
    | none => s.reject s!"invalid signal number or name: {name}"
  | "--" :: targets => send 15 targets
  | option :: targets =>
    match option.toList with
    | '-' :: letter :: letters =>
      match signal? (String.ofList (letter :: letters)) with
      | some signal => send signal (if targets.head? = some "--" then targets.drop 1 else targets)
      | none => s.reject s!"Illegal option -{letter}"
    | _ => send 15 arguments
  | [] => s.reject killUsage

def waitForJob (s : State) (job : Job) : State :=
  { s with system := { s.system with clock := max s.system.clock job.ending } }

def wait (s : State) (arguments : List String) : State :=
  s.withOptions "" arguments fun _ words =>
    if words.isEmpty then (s.jobs.foldl waitForJob s).setStatus 0
    else words.foldl (fun s word =>
      match natural? word with
      | none =>
        if word.startsWith "%" then s.reject s!"No such job: {word}"
        else s.reject s!"Illegal number: {word}"
      | some number =>
        match s.jobs.find? (·.number = number) with
        | some job => (s.waitForJob job).setStatus job.status
        | none => s.setStatus 127) s

/-! ## Reading -/

/-- What a line is cut into for the last of the variables: all of it, if it is more than one
field. -/
def lastField (separators : List Char) (glyphs : List Glyph) : List Glyph :=
  let isBlank (glyph : Glyph) : Bool :=
    !glyph.quoted && separators.contains glyph.char && " \t\n".toList.contains glyph.char
  let isSeparator (glyph : Glyph) : Bool := !glyph.quoted && separators.contains glyph.char
  let trimmed := (glyphs.reverse.dropWhile isBlank).reverse
  let field := trimmed.takeWhile (!isSeparator ·)
  let behind := (trimmed.drop field.length).dropWhile isBlank
  match behind with
  | [] => field
  | glyph :: rest => if isSeparator glyph && rest.all isBlank then field else trimmed

/-- Cuts a line into fields for variables. -/
def assignFields (separators : List Char) : List String → List Glyph → State → State
  | [], _, s => s
  | name :: names, glyphs, s =>
    let isSeparator (glyph : Glyph) : Bool := !glyph.quoted && separators.contains glyph.char
    let isBlank (glyph : Glyph) : Bool :=
      isSeparator glyph && " \t\n".toList.contains glyph.char
    let glyphs := glyphs.dropWhile isBlank
    let textOf (glyphs : List Glyph) : String := String.ofList (glyphs.map (·.char))
    let put (s : State) (value : String) : State :=
      if (s.binding name).readOnly then s.reject s!"{name}: is read only" else s.assign name value
    if names.isEmpty then put s (textOf (lastField separators glyphs))
    else
      let field := glyphs.takeWhile (!isSeparator ·)
      let behind := (glyphs.drop field.length).dropWhile isBlank
      let behind := match behind with
        | glyph :: rest => if isSeparator glyph then rest.dropWhile isBlank else behind
        | [] => []
      assignFields separators names behind (put s (textOf field))

/-- The line at the beginning of a text: its characters, how much of the text it takes up, and
whether it is a whole one. A backslash quotes what comes behind it, or joins two lines. -/
def lineOf (raw : Bool) : (fuel : Nat) → (taken : Nat) → List Char → List Glyph × Nat × Bool
  | 0, taken, _ | _, taken, [] => ([], taken, false)
  | _ + 1, taken, '\n' :: _ => ([], taken + 1, true)
  | fuel + 1, taken, c :: rest =>
    if c = '\\' && !raw then
      match rest with
      | [] => ([], taken + 1, false)
      | '\n' :: rest => lineOf raw fuel (taken + 2) rest
      | d :: rest =>
        let (glyphs, taken, whole) := lineOf raw fuel (taken + 2) rest
        (⟨d, true⟩ :: glyphs, taken, whole)
    else
      let (glyphs, taken, whole) := lineOf raw fuel (taken + 1) rest
      (⟨c, false⟩ :: glyphs, taken, whole)

/-- The words behind the options of a command that reads a line, and whether backslashes mean
nothing. -/
def readingWords (raw : Bool) : List String → Except Char (Bool × List String)
  | [] => .ok (raw, [])
  | word :: rest =>
    match word.toList with
    | '-' :: 'r' :: [] => readingWords true rest
    | '-' :: 'p' :: [] => readingWords raw (rest.drop 1)
    | '-' :: '-' :: [] => .ok (raw, rest)
    | '-' :: letter :: _ => .error letter
    | _ => .ok (raw, word :: rest)
termination_by words => words.length
decreasing_by all_goals (simp; try omega)

def readLine (s : State) (arguments : List String) : State :=
  match readingWords false arguments with
  | .error letter => s.reject s!"Illegal option -{letter}"
  | .ok (_, []) => s.reject "arg count"
  | .ok (raw, names) =>
    match names.find? fun name => !isName name.toList with
    | some name => s.reject s!"{name}: bad variable name"
    | none =>
      match s.toProcess.unread 0 with
      | .error _ => s.setStatus 1
      | .ok (place, file, text) =>
        let (glyphs, taken, whole) := lineOf raw text.length 0 text.toList
        let p := s.toProcess.setOpen place { file with offset := file.offset + taken }
        let glyphs := glyphs.filter fun glyph => glyph.char ≠ Char.ofNat 0
        let s := assignFields s.separators names glyphs ((s.become p).setStatus 0)
        if s.status = 0 then s.setStatus (if whole then 0 else 1) else s

/-! ## Options of the arguments -/

/-- Takes the next option of some words. -/
def nextOption (s : State) (known : List Char) (name : String) (words : List String) : State :=
  let silent := known.head? = some ':'
  let known := if silent then known.drop 1 else known
  let (index, letter) := s.optionPlace
  let finish (s : State) (index : Nat) : State :=
    let s := (s.assign name "?").assign "OPTIND" (toString index)
    { s with optionPlace := (index, 0) }.setStatus 1
  let word := (words[index - 1]?).getD ""
  let atStart := letter = 0
  if atStart && (words.length < index || word.length < 2 || !word.startsWith "-") then finish s index
  else if atStart && word = "--" then finish s (index + 1)
  else
    let place := if atStart then 1 else letter
    let c := word.toList.getD place ' '
    let isLast := word.length ≤ place + 1
    let index := if isLast then index + 1 else index
    let next := if isLast then 0 else place + 1
    let found := known.dropWhile (· ≠ c)
    let settle (s : State) (value : String) (index next : Nat) : State :=
      let s := (s.assign name value).assign "OPTIND" (toString index)
      { s with optionPlace := (index, next) }.setStatus 0
    if found.isEmpty || c = ':' then
      let s := if silent then s.assign "OPTARG" (String.ofList [c])
        else { (s.become (s.complain s!"Illegal option -{c}\n")) with
          bindings := s.bindings.filter (·.1 ≠ "OPTARG") }
      settle s "?" index next
    else if (found.drop 1).head? = some ':' then
      if !isLast then
        settle (s.assign "OPTARG" (word.drop (place + 1)).toString) (String.ofList [c]) (index + 1) 0
      else match words[index - 1]? with
        | some value => settle (s.assign "OPTARG" value) (String.ofList [c]) (index + 1) 0
        | none =>
          if silent then settle (s.assign "OPTARG" (String.ofList [c])) ":" index 0
          else
            let s := { (s.become (s.complain s!"No arg for -{c} option\n")) with
              bindings := s.bindings.filter (·.1 ≠ "OPTARG") }
            settle s "?" index 0
    else settle (s.assign "OPTARG" "") (String.ofList [c]) index next

def getOptions (s : State) (arguments : List String) : State :=
  match arguments with
  | known :: name :: words =>
    s.nextOption known.toList name (if words.isEmpty then s.parameters else words)
  | _ => s.reject "Usage: getopts optstring var [arg...]"

/-! ## Permissions of new files -/

def octalText (n : Nat) : String :=
  let digits := Nat.toDigits 8 n
  String.ofList (List.replicate (4 - digits.length) '0' ++ digits)

/-- The permissions of a class of users as letters. -/
def letters (bits : Nat) : String :=
  (if bits &&& 4 ≠ 0 then "r" else "") ++ (if bits &&& 2 ≠ 0 then "w" else "") ++
    (if bits &&& 1 ≠ 0 then "x" else "")

def setMask (s : State) (arguments : List String) : State :=
  s.withOptions "S" arguments fun options words =>
    match words with
    | [] =>
      let allowed := 0o777 ^^^ s.mask
      (s.say (if options.contains 'S' then
          s!"u={letters (allowed >>> 6)},g={letters (allowed >>> 3)},o={letters allowed}"
        else octalText s.mask)).setStatus 0
    | text :: _ =>
      let chars := text.toList
      if chars.head?.any Char.isDigit then
        if chars.all Format.isOctal then
          { s with mask := Nat.ofDigitChars 8 chars 0 &&& 0o777 }.setStatus 0
        else s.reject s!"Illegal number: {text}"
      else s.setStatus 0

/-! ## What a name stands for -/

/-- The builtin commands that are not special. -/
def plainBuiltins : List String :=
  ["[", "alias", "bg", "cd", "chdir", "command", "echo", "false", "fg", "getopts", "hash", "jobs",
    "kill", "printf", "pwd", "read", "test", "true", "type", "ulimit", "umask", "unalias",
    "wait"]

def isBuiltin (name : String) : Bool := isSpecialBuiltin name || plainBuiltins.contains name

/-- A file that can be run is at a path. -/
def isProgram (s : State) (path : String) : Bool :=
  match s.node? path with
  | some (.utility _) => true
  | some (.file _ mode) => mode &&& 0o111 ≠ 0
  | _ => false

/-- Where programs are looked for. -/
def searchPath (s : State) : List String := (s.valueOf "PATH").splitOn ":"

def programPath? (s : State) (name : String) : Option String :=
  (s.searchPath.map fun directory => if directory = "" then name else s!"{directory}/{name}").find?
    s.isProgram

def describe (s : State) (terse : Bool) (names : List String) : State :=
  names.foldl (fun s name =>
    let say (text shown : String) : State := if terse then s.say text else s.say s!"{name} {shown}"
    if reservedWords.contains name then say name "is a shell keyword"
    else if s.functions.any (·.1 = name) then say name "is a shell function"
    else if isSpecialBuiltin name then say name "is a special shell builtin"
    else if isBuiltin name then say name "is a shell builtin"
    else if name.contains '/' then
      if s.isProgram name then say name s!"is {name}"
      else (if terse then s else s.say s!"{name}: not found").setStatus 127
    else match s.programPath? name with
      | some path => say path s!"is {path}"
      | none => (if terse then s else s.say s!"{name}: not found").setStatus 127) (s.setStatus 0)

def hash (s : State) (arguments : List String) : State :=
  s.withOptions "r" arguments fun _ names =>
    names.foldl (fun s name =>
      if isBuiltin name || (s.programPath? name).isSome then s
      else s.fail 1 s!"{name}: not found") (s.setStatus 0)

def printLimit (s : State) (arguments : List String) : State :=
  let values := arguments.filter fun word => !word.startsWith "-"
  if values.isEmpty then (s.say "unlimited").setStatus 0 else s.setStatus 0

end State

/-- Runs a builtin command that runs no other command; nothing if there is none of that name. -/
def builtin? (name : String) (arguments : List String) (s : State) : Option State :=
  match name with
  | ":" | "true" => some (s.setStatus 0)
  | "false" => some (s.setStatus 1)
  | "echo" => some (s.echo arguments)
  | "printf" => some (s.printf arguments)
  | "test" => some (s.test arguments)
  | "[" =>
    some (if arguments.getLast? = some "]" then s.test arguments.dropLast
      else s.reject "missing ]")
  | "cd" | "chdir" => some (s.changeDirectory arguments)
  | "pwd" => some (s.printDirectory arguments)
  | "export" => some (s.makeExported arguments)
  | "readonly" => some (s.makeReadOnly arguments)
  | "unset" => some (s.unset arguments)
  | "local" => some (s.declareLocal arguments)
  | "set" => some (s.set arguments)
  | "shift" => some (s.shift arguments)
  | "exit" => some (s.leave arguments .exited)
  | "return" => some (s.leave arguments .returned)
  | "break" => some (s.leaveLoops arguments false)
  | "continue" => some (s.leaveLoops arguments true)
  | "trap" => some (s.trap arguments)
  | "kill" => some (s.kill arguments)
  | "wait" => some (s.wait arguments)
  | "read" => some (s.readLine arguments)
  | "getopts" => some (s.getOptions arguments)
  | "umask" => some (s.setMask arguments)
  | "type" => some (s.describe false arguments)
  | "hash" => some (s.hash arguments)
  | "ulimit" => some (s.printLimit arguments)
  | "times" => some ((s.print "0m0.000000s 0m0.000000s\n0m0.000000s 0m0.000000s\n").setStatus 0)
  | "alias" | "unalias" | "jobs" => some (s.setStatus 0)
  | "fg" | "bg" => some (s.reject "No current job")
  | _ => none

end ColdBuild.Shell
