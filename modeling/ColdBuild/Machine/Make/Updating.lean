import ColdBuild.Machine.Make.Reading

/-!
# Bringing targets up to date

A target is made if it is not there, if something it depends on is newer, or if it only names what is
to be done. What it depends on is brought up to date before. A target without commands may be made
by a rule with patterns, whose prerequisites have to be there or have to be such that they can be
made.
-/

namespace ColdBuild.Make

/-! ## Rules with patterns -/

/-- A rule for a target whose name a pattern matches. -/
structure Candidate where
  rule : PatternRule
  /-- The part of the name that the pattern is not matched against. -/
  directory : String
  stem : String
  deriving DecidableEq

namespace Candidate

/-- A name of the rule, for this target. -/
def filled (c : Candidate) (name : String) : String :=
  if isPattern name then c.directory ++ withStem name c.stem else name

end Candidate

/-- The rules that match a name, those with the shortest stem first. -/
def candidates (m : Maker) (name : String) : List Candidate :=
  let found := m.patternRules.flatMap fun rule =>
    rule.targets.filterMap fun pattern =>
      if pattern.contains '/' then (stem? pattern name).map fun stem => ⟨rule, "", stem⟩
      else
        let file := fileOf name
        (stem? pattern file).bind fun stem =>
          if stem = "" then none else some ⟨rule, (name.dropEnd file.length).toString, stem⟩
  (found.filter fun c => c.rule.clause.recipe.isSome).mergeSort fun a b =>
    a.stem.length ≤ b.stem.length

/-- A name that a rule mentions. -/
def isMentioned (m : Maker) (name : String) : Bool :=
  m.targets.any fun t =>
    t.isTarget && (t.name = name || t.clause.prerequisites.contains name ||
      t.independent.any fun clause => clause.prerequisites.contains name)

/-- The rule that makes a target, what it says about it, and those of its prerequisites that have to
be made by such rules themselves. -/
def implicit? (m : Maker) : (depth : Nat) → (used : List PatternRule) → String →
    Option (Clause × List String)
  | 0, _, _ => none
  | depth + 1, used, name =>
    let usable := (candidates m name).filter fun c => !used.contains c.rule
    let clauseOf (c : Candidate) : Clause :=
      { c.rule.clause with
        prerequisites := c.rule.clause.prerequisites.map c.filled
        orderOnly := c.rule.clause.orderOnly.map c.filled
        stem := c.directory ++ c.stem }
    let isThere (name : String) : Bool := m.exists? name || isMentioned m name
    let direct := usable.findSome? fun c =>
      let clause := clauseOf c
      if (clause.prerequisites ++ clause.orderOnly).all isThere then some (clause, []) else none
    direct <|> usable.findSome? fun c =>
      let clause := clauseOf c
      let names := clause.prerequisites ++ clause.orderOnly
      let lacking := names.filter (!isThere ·)
      if c.rule.targets.all (· ≠ "%") && lacking.all fun name =>
          (implicit? m depth (c.rule :: used) name).isSome then
        some (clause, lacking)
      else none

/-! ## Running commands -/

/-- A name that commands can see as a variable. -/
def isVisibleName (name : String) : Bool :=
  match name.toList with
  | [] => false
  | c :: rest => (c.isAlpha || c = '_') && rest.all fun c => c.isAlphanum || c = '_'

/-- Options as they are handed to further makers, with the variables that were set by the call. -/
def flagsText (o : Options) (complete : Bool) : String :=
  let letters := String.ofList ("BdeiknpqrRstw".toList.filter o.has)
  let untold := if o.untold then " --no-print-directory" else ""
  let quoted (text : String) : String :=
    String.ofList (text.toList.flatMap fun c =>
      if c = ' ' || c = '\t' || c = '\\' then ['\\', c] else if c = '$' then ['$', '$'] else [c])
  let settings := o.overrides.reverse.map fun (name, value) => s!"{name}={quoted value}"
  letters ++ untold ++
    if complete && !settings.isEmpty then " -- " ++ " ".intercalate settings else ""

def commandEnvironment (tools : Tools) : Making (List (String × String)) := do
  let m ← get
  let names := distinct ((m.scopes.flatMap fun scope => scope.map Prod.fst) ++
    m.globals.map Prod.fst)
  let mut environment := m.process.environment
  for name in names do
    match m.find? name with
    | none => pure ()
    | some d =>
      let given := d.exported <|> ((m.globals.lookup name).bind (·.exported))
      let byItself := d.origin = .commandLine ||
        (m.exportsAll && d.origin ≠ .builtin && d.origin ≠ .automatic)
      let isSpecial := ["SHELL", "MAKEFLAGS", "MAKELEVEL", "MFLAGS"].contains name
      if given = some false then environment := environment.filter (·.1 ≠ name)
      else if (given = some true || byItself) && isVisibleName name &&
          (!isSpecial || given = some true && name = "SHELL") then
        let value ← expandVariable tools expansionFuel name
        if environment.lookup name ≠ some value then
          environment := environment.filter (·.1 ≠ name) ++ [(name, value)]
  let o := m.options
  let letters := flagsText o false
  let own := [("MAKEFLAGS", flagsText o true),
    ("MFLAGS", if letters = "" then "" else if letters.startsWith " " then withoutFront letters
      else "-" ++ letters), ("MAKELEVEL", toString (o.level + 1))]
  return environment.filter (fun (name, _) => own.all fun entry => entry.1 ≠ name) ++ own

structure Command where
  line : Nat
  text : String
  silent : Bool
  ignoring : Bool
  /-- It is run even if nothing else is. -/
  always : Bool
  deriving DecidableEq, Repr

/-- Lines of a text; one that ends with a backslash goes on. -/
def commandLines (text : String) : List String :=
  (joinedLines 1 none (text.splitOn "\n")).map Prod.snd

/-- Commands made of an expanded line. -/
def commandsOf (line : Nat) (raw expanded : String) : List Command :=
  let marks (text : String) : List Char := text.toList.takeWhile fun c => isGap c || "@+-".toList.contains c
  let own := marks raw
  (commandLines expanded).filterMap fun text =>
    let front := marks text
    let all := own ++ front
    let body := String.ofList (text.toList.drop front.length)
    if stripped body = "" then none
    else some {
      line
      text := body
      silent := all.contains '@'
      ignoring := all.contains '-'
      always := all.contains '+' || 1 < (raw.splitOn "$(MAKE)").length ||
        1 < (raw.splitOn "$\x7bMAKE\x7d").length }

def signalText (signal : Nat) : String :=
  match signal with
  | 1 => "Hangup" | 2 => "Interrupt" | 3 => "Quit" | 4 => "Illegal instruction"
  | 5 => "Trace/breakpoint trap" | 6 => "Aborted" | 7 => "Bus error"
  | 8 => "Floating point exception" | 9 => "Killed" | 10 => "User defined signal 1"
  | 11 => "Segmentation fault" | 12 => "User defined signal 2" | 13 => "Broken pipe"
  | 14 => "Alarm clock" | 15 => "Terminated" | n => s!"Unknown signal {n}"

/-- Runs commands for a target, one after another; whether they have failed. -/
def runCommands (tools : Tools) (file name : String) : List Command → Making Bool
  | [] => return false
  | command :: rest => do
    let m ← get
    let isShownOnly := m.options.has 'n' && !command.always
    if m.options.has 'q' && !command.always then
      set { m with stopped := some 1 }
      return true
    else if m.options.has 't' && !command.always then runCommands tools file name rest
    else
      let isSilent := command.silent || m.isSilent || m.concerns ".SILENT" name
      let isTold := !isSilent || m.options.has 'n'
      let m := if isTold then m.say (command.text ++ "\n") else m
      let m := { m with started := m.started + 1 }
      set m
      if isShownOnly then runCommands tools file name rest
      else
        let environment ← commandEnvironment tools
        let m ← get
        let child := { m.process with environment }
        let (m, failure) : Maker × Option String :=
          match child.runChild tools.execute (commandWords m command.text) with
          | .error fault =>
            let first := (words command.text).headD ""
            (m.complain s!"{m.title}: {first}: {Process.faultText fault}\n", some "Error 127")
          | .ok ended =>
            let m := { m with process := m.process.adopt ended }
            match ended.killed with
            | some signal => (m, some (signalText signal))
            | none => (m, if ended.status = 0 then none else some s!"Error {ended.status}")
        match failure with
        | none =>
          set m
          runCommands tools file name rest
        | some text =>
          let place := s!"[{file}:{command.line}: {name}]"
          if command.ignoring || m.options.has 'i' || m.concerns ".IGNORE" name then
            set (m.complain s!"{m.title}: {place} {text} (ignored)\n")
            runCommands tools file name rest
          else
            set (m.tellFailure s!"{m.title}: *** {place} {text}\n")
            return true

/-- The variables that commands see of the target they make. -/
def automatic (name : String) (clause : Clause) (newer : List String) (suffixes : List String) : Scope :=
  let stem := if clause.stem ≠ "" then clause.stem
    else ((suffixes.find? fun suffix => name.endsWith suffix && suffix ≠ name).map fun suffix =>
      (name.dropEnd suffix.length).toString).getD ""
  let entry (key value : String) : String × Definition :=
    (key, { value, simple := true, origin := .automatic })
  [entry "@" name, entry "<" (clause.prerequisites.headD ""),
    entry "^" (unwords (distinct clause.prerequisites)), entry "+" (unwords clause.prerequisites),
    entry "?" (unwords (distinct newer)), entry "*" stem, entry "|" (unwords clause.orderOnly),
    entry "%" ""]

/-- The suffixes that rules may be written for. -/
def suffixes (m : Maker) : List String :=
  (m.specials.filter (·.1 = ".SUFFIXES")).foldl (fun known (_, names) =>
    if names.isEmpty then [] else known ++ names)
    (if m.options.has 'r' then [] else knownSuffixes)

/-- Runs the commands of a rule for a target; whether they have failed. -/
def runRecipe (tools : Tools) (name : String) (clause : Clause) (recipe : Recipe)
    (newer : List String) : Making Bool := do
  let m ← get
  let before := m.stamp? name
  let scopes := m.scopes
  let place := m.place
  set { m with scopes := automatic name clause newer (suffixes m) :: scopes }
  let texts ← recipe.lines.mapM fun (line, raw) => do
    modify fun m => { m with place := some ⟨recipe.file, line⟩ }
    let text ← expand tools raw
    return (line, raw, text)
  modify fun m => { m with place }
  if (← get).stopped.isSome then
    modify fun m => { m with scopes }
    return true
  else
    let commands := texts.flatMap fun (line, raw, text) => commandsOf line raw text
    let commands := match commands with
      | first :: _ :: _ =>
        if (m.specials.any (·.1 = ".ONESHELL")) then
          [{ first with text := "\n".intercalate (commands.map (·.text)) }]
        else commands
      | commands => commands
    let failed ← runCommands tools recipe.file name commands
    modify fun m => { m with scopes }
    let m ← get
    if m.options.has 't' && !commands.isEmpty && !m.isPhony name && !failed then
      let m := if m.isSilent then m else m.say s!"touch {name}\n"
      match m.process.openPath .appending name with
      | .ok (p, place) =>
        let files := match p.system.opened[place]? with
          | some file => p.files.touch file.node
          | none => p.files
        set { m with process := p.withFiles files, started := m.started + 1 }
      | .error _ => set m
      return false
    else if failed && m.specials.any (·.1 = ".DELETE_ON_ERROR") && m.stamp? name ≠ before &&
        m.exists? name && !m.isPhony name then
      let m := m.complain s!"{m.title}: *** Deleting file '{name}'\n"
      set { m with process := (m.process.files.unlink m.process.current
        (Process.pathOf name)).toOption.elim m.process m.process.withFiles }
      return true
    else return failed

/-! ## Targets -/

/-- The variables that are set for a target only. -/
def ownScope (tools : Tools) (name : String) : Making Scope := do
  let m ← get
  let byPattern := (m.patternAssignments.filter fun (pattern, _) => (stem? pattern name).isSome).map
    Prod.snd
  let own := ((m.target? name).map (·.assignments)).getD []
  let mut scope : Scope := []
  for a in byPattern ++ own do
    let key := stripped (← expand tools a.name)
    let old := scope.lookup key <|> m.find? key
    match ← redefined tools a old with
    | some d => scope := Maker.put scope key d
    | none => pure ()
  return scope

/-- What a rule says once its prerequisites have been expanded for a target, if that has been asked
for. -/
def secondly (tools : Tools) (name : String) (clause : Clause) : Making Clause := do
  let m ← get
  if m.specials.any (·.1 = ".SECONDEXPANSION") && clause.prerequisites.any (·.contains '$') then
    let scopes := m.scopes
    set { m with scopes := automatic name clause [] (suffixes m) :: scopes }
    let prerequisites ← expand tools (unwords clause.prerequisites)
    modify fun m => { m with scopes }
    return { clause with prerequisites := globbed m.process (words prerequisites) }
  else return clause

def reportNoRule (name : String) (parent : Option String) : Making Unit := do
  let m ← get
  let needed := match parent with
    | some parent => s!", needed by '{parent}'"
    | none => ""
  if m.options.has 'k' then
    set (m.tellFailure s!"{m.title}: *** No rule to make target '{name}'{needed}.\n")
  else
    set { (m.tellFailure s!"{m.title}: *** No rule to make target '{name}'{needed}.  Stop.\n") with
      stopped := some 2 }

/-- Keeps what has come of a target, and goes back to the variables outside of it. -/
def settle (name : String) (parent : Option String) (scopes : List Scope) (outcome : Outcome) :
    Making Outcome := do
  modify fun m =>
    { m with
      scopes
      underway := m.underway.filter (· ≠ name)
      outcomes := (name, outcome) :: m.outcomes
      failed := m.failed || outcome.failed }
  let m ← get
  if outcome.lacking && parent.isNone && m.options.has 'k' then
    set (m.complain s!"{m.title}: Target '{name}' not remade because of errors.\n")
  return outcome

mutual

def update (tools : Tools) : (fuel : Nat) → (parent : Option String) → (name : String) →
    Making Outcome
  | 0, _, _ => return {}
  | fuel + 1, parent, name => do
    let m ← get
    match m.outcomes.lookup name with
    | some outcome => return outcome
    | none =>
      let scopes := m.scopes
      set { m with underway := name :: m.underway }
      let scope ← ownScope tools name
      modify fun m => { m with scopes := if scope.isEmpty then scopes else scope :: scopes }
      let target := (m.target? name).getD { name }
      let making : Making Outcome :=
        if !target.independent.isEmpty then
          updateEach tools fuel name target.independent {}
        else
          let found := if target.clause.recipe.isSome || m.isPhony name then none
            else implicit? m 6 [] name
          match found with
          | some (clause, chained) =>
            let clause := { clause with
              prerequisites := clause.prerequisites ++ target.clause.prerequisites
              orderOnly := clause.orderOnly ++ target.clause.orderOnly }
            updateClause tools fuel name clause false chained
          | none =>
            if target.isTarget || m.exists? name then
              updateClause tools fuel name target.clause false []
            else match m.defaultClause with
              | some clause => updateClause tools fuel name clause false []
              | none => do
                reportNoRule name parent
                pure { failed := true }
      settle name parent scopes (← making)

/-- Goes through independent rules for a target. -/
def updateEach (tools : Tools) : (fuel : Nat) → (name : String) → List Clause → Outcome →
    Making Outcome
  | 0, _, _, outcome => return outcome
  | _, _, [], outcome => return outcome
  | fuel + 1, name, clause :: rest, outcome => do
    let next ← updateClause tools fuel name clause true []
    let outcome : Outcome :=
      ⟨outcome.failed || next.failed, outcome.remade || next.remade, outcome.lacking || next.lacking⟩
    if next.failed || (← get).stopped.isSome then return outcome
    else updateEach tools fuel name rest outcome

/-- Brings prerequisites up to date one after another. -/
def updateAll (tools : Tools) : (fuel : Nat) → (name : String) → (stamp : Option Nat) →
    (chained : List String) → List String → Making Bool
  | 0, _, _, _, _ => return false
  | _, _, _, _, [] => return false
  | fuel + 1, name, stamp, chained, prerequisite :: rest => do
    let m ← get
    if m.stopped.isSome then return true
    else if m.underway.contains prerequisite then
      set (m.complain s!"{m.title}: Circular {name} <- {prerequisite} dependency dropped.\n")
      updateAll tools fuel name stamp chained rest
    else
      let isChained := chained.contains prerequisite && !m.exists? prerequisite
      -- What is made on the way only need not be there if all that it depends on is old.
      let sources := if isChained then (implicit? m 6 [] prerequisite).map Prod.fst else none
      let skipped ← match sources, stamp with
        | some clause, some stamp => do
          let _ ← updateAll tools fuel prerequisite none [] clause.prerequisites
          let m ← get
          pure (clause.prerequisites.all fun name => (m.stamp? name).any (· ≤ stamp))
        | _, _ => pure false
      if skipped then updateAll tools fuel name stamp chained rest
      else
        let outcome ← update tools fuel (some name) prerequisite
        if isChained then
          modify fun m => { m with intermediates := m.intermediates ++ [prerequisite] }
        if outcome.failed && !(← get).options.has 'k' then return true
        else
          let failed ← updateAll tools fuel name stamp chained rest
          return outcome.failed || failed

/-- Brings a target up to date as one rule says. -/
def updateClause (tools : Tools) : (fuel : Nat) → (name : String) → Clause → (alone : Bool) →
    (chained : List String) → Making Outcome
  | 0, _, _, _, _ => return {}
  | fuel + 1, name, clause, alone, chained => do
    let clause ← secondly tools name clause
    let stamp := (← get).stamp? name
    let all := clause.prerequisites ++ clause.orderOnly
    let failed ← updateAll tools fuel name stamp chained all
    let m ← get
    if m.stopped.isSome then return { failed := true }
    else if failed then return { failed := true, lacking := true }
    else
      let isNewer (other : String) : Bool :=
        if m.isPhony other || m.options.renewed.contains other then true
        else match stamp, m.stamp? other with
          | none, _ => true
          | some mine, some stamp => mine < stamp
          | some _, none => !chained.contains other
      let newer := clause.prerequisites.filter isNewer
      let must := stamp.isNone || m.isPhony name || !newer.isEmpty || m.options.has 'B' ||
        (alone && clause.prerequisites.isEmpty)
      match clause.recipe with
      | some recipe =>
        let lacking := chained.filter (!m.exists? ·)
        if !must then return {}
        else if ← updateAll tools fuel name none lacking lacking then return { failed := true }
        else
          let failed ← runRecipe tools name clause recipe newer
          return { failed, remade := true }
      | none => return {}

end

end ColdBuild.Make
