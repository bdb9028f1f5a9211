import ColdBuild.Machine.Make.Word
import ColdBuild.Machine.Utility.Running

/-!
# Building things

A maker knows variables and rules. A variable has a text, which is expanded when the variable is
used or has been when it was set, and an origin, which says what may change it. A rule says what a
target depends on, and by which commands it is made.

A failure that nothing can be done about stops the maker; what comes behind it is not done.
-/

namespace ColdBuild.Make

inductive Origin where
  | builtin
  | environment
  | file
  | commandLine
  | override
  | automatic
  deriving DecidableEq, Repr

namespace Origin

def name : Origin → String
  | .builtin => "default"
  | .environment => "environment"
  | .file => "file"
  | .commandLine => "command line"
  | .override => "override"
  | .automatic => "automatic"

/-- A variable of one origin may be changed by another one only if it is as strong. -/
def strength : Origin → Nat
  | .builtin => 0
  | .environment => 1
  | .file => 2
  | .commandLine => 4
  | .override => 5
  | .automatic => 6

end Origin

structure Place where
  file : String
  line : Nat
  deriving DecidableEq, Repr

structure Definition where
  value : String
  /-- The text has been expanded. -/
  simple : Bool := false
  origin : Origin := .file
  /-- Whether commands see it, if that has been said. -/
  exported : Option Bool := none
  /-- Where it has been set. -/
  place : Option Place := none
  deriving DecidableEq, Repr

abbrev Scope := List (String × Definition)

/-- A line of a file that sets a variable. -/
structure Assignment where
  name : String
  operator : String
  value : String
  overriding : Bool := false
  exported : Option Bool := none
  deriving DecidableEq, Repr

/-- Commands, each with its line. -/
structure Recipe where
  file : String
  lines : List (Nat × String)
  deriving DecidableEq, Repr

/-- What a rule says about a target, or what one of several independent ones says. -/
structure Clause where
  prerequisites : List String := []
  /-- What has to be there before, but need not be older. -/
  orderOnly : List String := []
  recipe : Option Recipe := none
  /-- What the percent sign of a rule with patterns stands for. -/
  stem : String := ""
  deriving DecidableEq, Repr

structure Target where
  name : String
  clause : Clause := {}
  /-- Rules that are independent of each other. -/
  independent : List Clause := []
  assignments : List Assignment := []
  /-- A rule has it on its left side. -/
  isTarget : Bool := false
  deriving DecidableEq, Repr

/-- A rule for names that patterns match. -/
structure PatternRule where
  targets : List String
  clause : Clause
  deriving DecidableEq, Repr

structure Outcome where
  failed : Bool := false
  /-- Commands have been run for it. -/
  remade : Bool := false
  /-- It has failed as something that it depends on has. -/
  lacking : Bool := false
  deriving DecidableEq, Repr

structure Options where
  /-- The letters of options that are on. -/
  letters : List Char := []
  overrides : List (String × String) := []
  goals : List String := []
  files : List String := []
  directories : List String := []
  includes : List String := []
  /-- Files that count as just changed. -/
  renewed : List String := []
  level : Nat := 0
  /-- Changing directories is not told. -/
  untold : Bool := false
  deriving DecidableEq, Repr

namespace Options

def has (o : Options) (letter : Char) : Bool := o.letters.contains letter

end Options

/-- The rule whose commands are being read. -/
structure OpenRule where
  targets : List String
  clause : Clause
  /-- Two colons have been written. -/
  independent : Bool
  /-- The pattern that each target has to match by itself. -/
  pattern : Option String := none
  place : Place
  lines : List (Nat × String) := []
  /-- Commands have been written, if only empty ones. -/
  hasRecipe : Bool := false
  deriving DecidableEq, Repr

/-- A condition that lines depend on. -/
structure Branching where
  /-- The lines are read. -/
  active : Bool
  /-- One of the branches has been read. -/
  taken : Bool
  /-- The last branch has begun. -/
  last : Bool := false
  deriving DecidableEq, Repr

structure Maker where
  process : Process
  options : Options
  globals : Scope := []
  /-- Variables that hide others, the nearest first. -/
  scopes : List Scope := []
  targets : List Target := []
  patternRules : List PatternRule := []
  patternAssignments : List (String × Assignment) := []
  defaultClause : Option Clause := none
  /-- Special targets with what depends on them. -/
  specials : List (String × List String) := []
  /-- All variables are seen by commands. -/
  exportsAll : Bool := false
  place : Option Place := none
  /-- Variables whose texts are being expanded. -/
  expanding : List String := []
  /-- Where the last of them has been set. -/
  origin : Option Place := none
  reading : Option OpenRule := none
  branches : List Branching := []
  /-- A variable whose lines are being read. -/
  collecting : Option (Assignment × List String × Nat × Place) := none
  /-- Makefiles that could not be found, each with whether that is a failure. -/
  missing : List (String × Bool × Option Place) := []
  makefiles : List String := []
  /-- What is told before the next failure. -/
  pending : Option String := none
  outcomes : List (String × Outcome) := []
  /-- How many commands have been begun. -/
  started : Nat := 0
  /-- Targets that are being looked at. -/
  underway : List String := []
  /-- Targets that have been made on the way to others only. -/
  intermediates : List String := []
  failed : Bool := false
  /-- The status that the maker ends with before it has done everything. -/
  stopped : Option Nat := none
  deriving DecidableEq

abbrev Making := StateM Maker

namespace Maker

/-- The name that messages begin with. -/
def title (m : Maker) : String :=
  let name := fileOf m.process.name
  if m.options.level = 0 then name else s!"{name}[{m.options.level}]"

def isSilent (m : Maker) : Bool := m.options.has 's'

def say (m : Maker) (text : String) : Maker := { m with process := m.process.send 1 text }

def complain (m : Maker) (text : String) : Maker := { m with process := m.process.complain text }

/-- Tells of a failure, and before of what has led to it. -/
def tellFailure (m : Maker) (text : String) : Maker :=
  ({ m with pending := none }.complain (m.pending.getD "")).complain text

/-- The place that messages name. -/
def front (m : Maker) : String :=
  match m.place with
  | some place => s!"{place.file}:{place.line}: "
  | none => s!"{m.title}: "

/-- Stops, with a message about what is being expanded. -/
def haltAtOrigin (m : Maker) (message : String) : Maker :=
  if m.stopped.isSome then m
  else
    let front := { m with place := m.origin <|> m.place }.front
    { m.complain s!"{front}*** {message}.  Stop.\n" with stopped := some 2 }

/-- Stops, with a message. -/
def halt (m : Maker) (message : String) : Maker :=
  if m.stopped.isSome then m
  else { m.complain s!"{m.front}*** {message}.  Stop.\n" with stopped := some 2 }

def warn (m : Maker) (message : String) : Maker := m.complain s!"{m.front}{message}\n"

/-! ## Variables -/

/-- A variable as it is seen now. -/
def find? (m : Maker) (name : String) : Option Definition :=
  let global := m.globals.lookup name
  let near := m.scopes.findSome? fun scope => scope.lookup name
  match near, global with
  | some near, some global =>
    if near.origin.strength < global.origin.strength then some global else some near
  | some near, none => some near
  | none, global => global

def put (scope : Scope) (name : String) (d : Definition) : Scope :=
  if scope.any (·.1 = name) then scope.map fun entry => if entry.1 = name then (name, d) else entry
  else scope ++ [(name, d)]

/-- Defines a variable, unless it is defined by something stronger. -/
def define (m : Maker) (name : String) (d : Definition) : Maker :=
  match m.globals.lookup name with
  | some old =>
    if d.origin.strength < old.origin.strength && !(d.origin = .file && old.origin = .environment) then m
    else
      let exported := d.exported <|> old.exported
      { m with globals := put m.globals name { d with exported } }
  | none => { m with globals := put m.globals name d }

/-! ## Targets -/

def target? (m : Maker) (name : String) : Option Target := m.targets.find? (·.name = name)

def updateTarget (m : Maker) (name : String) (change : Target → Target) : Maker :=
  if m.targets.any (·.name = name) then
    { m with targets := m.targets.map fun t => if t.name = name then change t else t }
  else { m with targets := m.targets ++ [change { name }] }

/-- What depends on a special target. -/
def special (m : Maker) (name : String) : List String :=
  (m.specials.filter (·.1 = name)).flatMap Prod.snd

def isPhony (m : Maker) (name : String) : Bool := (m.special ".PHONY").contains name

/-- A special target concerns a name, or all. -/
def concerns (m : Maker) (special name : String) : Bool :=
  m.specials.any fun (kind, names) => kind = special && (names.isEmpty || names.contains name)

/-- When a file was changed last; none if there is none. -/
def stamp? (m : Maker) (name : String) : Option Nat :=
  match m.process.find name with
  | .ok number => some (m.process.files.changedAt number)
  | .error _ => none

def exists? (m : Maker) (name : String) : Bool := (m.process.find name).isOk

end Maker

end ColdBuild.Make
