import ColdBuild.Machine.Make.Updating

/-!
# Calling a maker

The words of a call are options, variables and the targets to be made. Without targets, the first
one of the makefile is made.
-/

namespace ColdBuild.Make

def rules : List String :=
  ["b", "B,always-make", "C,directory=", "d", "debug?", "e,environment-overrides", "eval=",
    "f,file,makefile=", "h", "i,ignore-errors", "I,include-dir=", "j,jobs?", "k,keep-going",
    "l,load-average,max-load?", "L,check-symlink-times", "m", "n,just-print,dry-run,recon",
    "no-print-directory", "o,old-file,assume-old=", "O,output-sync?", "p,print-data-base",
    "q,question", "r,no-builtin-rules", "R,no-builtin-variables", "s,silent,quiet",
    "S,no-keep-going,stop", "t,touch", "trace", "v", "w,print-directory",
    "W,what-if,new-file,assume-new=", "warn-undefined-variables"]

/-- Words in which a number that belongs to the option before is joined to it. -/
def withNumbers : List String → List String
  | [] => []
  | [word] => [word]
  | word :: next :: rest =>
    if (word = "-j" || word = "-l") && !next.isEmpty && next.toList.all Char.isDigit then
      (word ++ next) :: withNumbers rest
    else word :: withNumbers (next :: rest)

/-- Words of a text in which a backslash keeps blanks together. -/
def keptWords : (fuel : Nat) → (held : List Char) → List Char → List String
  | 0, held, _ | _, held, [] => if held.isEmpty then [] else [String.ofList held.reverse]
  | fuel + 1, held, '\\' :: c :: rest => keptWords fuel (c :: held) rest
  | fuel + 1, held, '$' :: '$' :: rest => keptWords fuel ('$' :: held) rest
  | fuel + 1, held, c :: rest =>
    if isGap c then (if held.isEmpty then [] else [String.ofList held.reverse]) ++ keptWords fuel [] rest
    else keptWords fuel (c :: held) rest

/-- The words that a surrounding maker hands to its commands: options, and variables behind them. -/
def inheritedWords (flags : String) : List String :=
  let all := keptWords (flags.length + 1) [] flags.toList
  let options := all.takeWhile (· ≠ "--")
  let options := match options with
    | [] => []
    | first :: rest =>
      if first.startsWith "-" || first.contains '=' then first :: rest else ("-" ++ first) :: rest
  options ++ all.drop (options.length + 1)

def builtinVariables : List (String × String) :=
  [("AR", "ar"), ("ARFLAGS", "rv"), ("AS", "as"), ("CC", "cc"), ("CXX", "g++"),
    ("CPP", "$(CC) -E"), ("FC", "f77"), ("LD", "ld"), ("LEX", "lex"), ("YACC", "yacc"),
    ("LINT", "lint"), ("M2C", "m2c"), ("PC", "pc"), ("OBJC", "cc"), ("CO", "co"), ("GET", "get"),
    ("MAKEINFO", "makeinfo"), ("TEX", "tex"), ("TEXI2DVI", "texi2dvi"), ("WEAVE", "weave"),
    ("TANGLE", "tangle"), ("RM", "rm -f"), ("MAKE", "$(MAKE_COMMAND)"),
    ("COMPILE.c", "$(CC) $(CFLAGS) $(CPPFLAGS) $(TARGET_ARCH) -c"),
    ("COMPILE.cc", "$(CXX) $(CXXFLAGS) $(CPPFLAGS) $(TARGET_ARCH) -c"),
    ("LINK.c", "$(CC) $(CFLAGS) $(CPPFLAGS) $(LDFLAGS) $(TARGET_ARCH)"),
    ("LINK.cc", "$(CXX) $(CXXFLAGS) $(CPPFLAGS) $(LDFLAGS) $(TARGET_ARCH)"),
    ("LINK.o", "$(CC) $(LDFLAGS) $(TARGET_ARCH)"), ("OUTPUT_OPTION", "-o $@"),
    (".LIBPATTERNS", "lib%.so lib%.a"), ("MAKE_VERSION", "4.3"),
    ("MAKE_HOST", "x86_64-pc-linux-gnu"), (".SHELLFLAGS", "-c"), ("SHELL", "/bin/sh"),
    ("SUFFIXES", " ".intercalate knownSuffixes)]

def atStart (p : Process) (o : Options) : Maker :=
  let fixed (value : String) (origin : Origin) : Definition := { value, simple := true, origin }
  let builtin : Scope := builtinVariables.map fun (name, value) =>
    (name, { value, origin := .builtin })
  let inherited : Scope := (p.environment.filter fun (name, _) =>
      !(["SHELL", "MAKEFLAGS", "MAKELEVEL", "MFLAGS"].contains name)).map fun (name, value) =>
    (name, { value
             origin := if o.has 'e' then .commandLine else .environment
             exported := some true })
  let own : Scope := [("MAKE_COMMAND", fixed p.name .builtin),
    ("CURDIR", fixed (p.files.pathOf p.current) .file),
    ("MAKECMDGOALS", fixed (unwords o.goals) .builtin),
    ("MAKEFILE_LIST", fixed "" .file), ("MAKELEVEL", fixed (toString o.level) .environment),
    ("MAKEFLAGS", fixed (flagsText o false) .file), (".DEFAULT_GOAL", fixed "" .file)]
  let given : Scope := o.overrides.map fun (name, value) => (name, { value, origin := .commandLine })
  let globals := (builtin ++ inherited ++ own ++ given).foldl (fun scope (name, d) =>
    Maker.put scope name d) []
  { process := p, options := o, globals }

/-- Makes rules for suffixes into rules with patterns. -/
def withSuffixRules (m : Maker) : Maker :=
  let known := suffixes m
  let made := m.targets.filterMap fun t =>
    if t.clause.recipe.isNone || !t.clause.prerequisites.isEmpty then none
    else
      let pair := known.findSome? fun first => known.findSome? fun second =>
        if t.name = first ++ second then some (first, second) else none
      match pair with
      | some (source, goal) =>
        some ({ targets := ["%" ++ goal]
                clause := { t.clause with prerequisites := ["%" ++ source] } } : PatternRule)
      | none =>
        if known.contains t.name then
          some { targets := ["%"], clause := { t.clause with prerequisites := ["%" ++ t.name] } }
        else none
  { m with patternRules := m.patternRules ++ made }

/-- The names under which a makefile is looked for. -/
def usualNames : List String := ["GNUmakefile", "makefile", "Makefile"]

/-- Reads the makefiles; the names of those that cannot be read. -/
def readMakefiles (execute : Executor) : Making Unit := do
  let m ← get
  let files := if m.options.files.isEmpty then
      (usualNames.find? fun name => (m.process.readFile name).isOk).toList
    else m.options.files
  for file in files do
    let m ← get
    if m.stopped.isNone then
      match m.process.source file with
      | .ok (text, p) =>
        let list := ((m.globals.lookup "MAKEFILE_LIST").map (·.value)).getD ""
        let list := if list = "" then file else list ++ " " ++ file
        set { m with
          process := p
          makefiles := m.makefiles ++ [file]
          globals := Maker.put m.globals "MAKEFILE_LIST" { value := list, simple := true } }
        readText execute includeDepth file none text
      | .error fault =>
        set { m.complain s!"{m.title}: {file}: {Process.faultText fault}\n" with
          missing := m.missing ++ [(file, true, none)] }
  modify fun m => withSuffixRules { m with place := none }

/-- Fuel for long chains of targets. -/
def updateFuel : Nat := 100000

/-- Makes the makefiles that rules are there for; whether one has been made anew. -/
def remakeMakefiles (tools : Tools) : Making Bool := do
  let m ← get
  let mut remade := false
  for (name, needed, place) in m.missing ++ m.makefiles.map fun name => (name, false, none) do
    let m ← get
    let known := (m.target? name).any fun t => t.isTarget && t.clause.recipe.isSome
    let message := place.map fun place =>
      s!"{place.file}:{place.line}: {name}: No such file or directory\n"
    let m := { m with pending := if needed then message else none }
    if m.stopped.isNone && !m.isPhony name &&
        (known || !m.exists? name && (implicit? m 6 [] name).isSome) then
      let before := m.stamp? name
      set m
      let outcome ← update tools updateFuel none name
      let m ← get
      if outcome.failed && needed && m.stopped.isNone then
        let m := m.tellFailure s!"{m.title}: Failed to remake makefile '{name}'.\n"
        set { m with stopped := some 2 }
      else if m.stamp? name ≠ before then remade := true
    else if needed && m.stopped.isNone && !m.exists? name then
      let m := { m with place := none }
      set { m.tellFailure s!"{m.title}: *** No rule to make target '{name}'.  Stop.\n" with
        stopped := some 2 }
  modify fun m => { m with pending := none }
  return remade

def makeGoals (tools : Tools) : Making Unit := do
  let m ← get
  let chosen := ((m.globals.lookup ".DEFAULT_GOAL").map (·.value)).getD ""
  let goals := if m.options.goals.isEmpty then words chosen else m.options.goals
  if goals.isEmpty then
    set (m.halt (if m.makefiles.isEmpty then "No targets specified and no makefile found"
      else "No targets"))
  else
    for goal in goals do
      let m ← get
      if m.stopped.isNone && (!m.failed || m.options.has 'k') then
        let outcome ← update tools updateFuel none goal
        let after ← get
        if after.stopped.isNone && !outcome.failed && after.started = m.started &&
            !after.isSilent && !after.options.has 'q' then
          let t := (after.target? goal).getD { name := goal }
          let bare := t.clause.recipe.isNone && t.independent.all (fun c => c.recipe.isNone) &&
            (implicit? after 6 [] goal).isNone
          set (after.say (if after.isPhony goal || bare then
              s!"{after.title}: Nothing to be done for '{goal}'.\n"
            else s!"{after.title}: '{goal}' is up to date.\n"))

/-- Removes what has been made on the way to other targets. -/
def removeIntermediates : Making Unit := do
  let m ← get
  let kept (name : String) : Bool :=
    m.concerns ".PRECIOUS" name && (m.special ".PRECIOUS").contains name ||
      m.concerns ".SECONDARY" name || !m.exists? name
  let names := (distinct m.intermediates).filter (!kept ·)
  if !names.isEmpty && !m.options.has 'n' then
    let m := if m.isSilent then m else m.say s!"rm {unwords names}\n"
    set { m with process := names.foldl (fun p name =>
      (p.files.unlink p.current (Process.pathOf name)).toOption.elim p p.withFiles) m.process }

/-- How often makefiles may be read again because some have been made anew. -/
def restartLimit : Nat := 5

/-- Reads the makefiles and makes the targets, from the beginning if makefiles have been made. -/
def work (execute : Executor) : (restarts : Nat) → Maker → Maker
  | 0, start => start
  | restarts + 1, start =>
    let m := ((readMakefiles execute).run start).2
    if m.stopped.isSome then m
    else
      let flags : Definition := { value := flagsText m.options true, origin := .file }
      let m := { m with globals := Maker.put m.globals "MAKEFLAGS" flags }
      let tools : Tools := {
        execute
        evaluate := fun text =>
          readText execute includeDepth "" (some (m.place.getD ⟨"", 0⟩)) text }
      let (remade, after) := (remakeMakefiles tools).run m
      if remade && after.stopped.isNone then
        work execute restarts { start with process := after.process }
      else
        let m := if after.stopped.isSome then after else ((makeGoals tools).run after).2
        (removeIntermediates.run m).2

def optionsOf (p : Process) (call : Call) : Options :=
  let isAssignment (word : String) : Bool :=
    (assignmentParts (word.length + 1) [] word.toList).isSome
  let overrides := (call.operands.filter isAssignment).filterMap fun word =>
    (assignmentParts (word.length + 1) [] word.toList).map fun (name, _, value) => (name, value)
  let letters := "BbdeiknpqrRstw".toList.filter fun letter => call.has (String.ofList [letter])
  {
    letters := if call.last? ["k", "S"] = some "S" then letters.filter (· ≠ 'k') else letters
    overrides
    goals := call.operands.filter fun word => !isAssignment word && word ≠ ""
    files := call.values "f"
    directories := call.values "C"
    includes := call.values "I"
    renewed := call.values "W"
    level := ((p.environmentValue? "MAKELEVEL").bind String.toNat?).getD 0
    untold := call.has "no-print-directory" }

def build (execute : Executor) (p : Process) : Process :=
  let inherited := inheritedWords ((p.environmentValue? "MAKEFLAGS").getD "")
  let all := { p with words := p.name :: withNumbers (inherited ++ p.arguments) }
  all.withCall rules (fun call =>
    if call.has "v" then p.print "GNU Make 4.3\n"
    else if call.has "h" then p.print s!"Usage: {p.name} [options] [target] ...\n"
    else
      let o := optionsOf p call
      let moved : Except (String × OsFault) Process := o.directories.foldl (fun p directory => do
        let p ← p
        match p.files.findDirectory p.current (Process.pathOf directory) with
        | .ok current => return { p with current }
        | .error fault => throw (directory, fault)) (.ok p)
      match moved with
      | .error (directory, fault) =>
        p.mutter s!"*** {directory}: {Process.faultText fault}.  Stop." |>.exit 2
      | .ok p =>
        let isTold := o.has 'w' ||
          !o.untold && !o.has 's' && (!o.directories.isEmpty || 0 < o.level)
        let o := if isTold && !o.has 'w' then { o with letters := 'w' :: o.letters } else o
        let place := p.files.pathOf p.current
        let m := atStart p o
        let tell (m : Maker) (what : String) : Maker :=
          if isTold then m.say s!"{m.title}: {what} directory '{place}'\n" else m
        let m := tell m "Entering"
        let m := tell (work execute restartLimit m) "Leaving"
        m.process.exit (m.stopped.getD (if m.failed then 2 else 0))) true 2

end ColdBuild.Make
