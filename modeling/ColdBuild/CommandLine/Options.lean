import ColdBuild.CommandLine.Integer
import ColdBuild.Config
import ColdBuild.Text.Styled

/-!
# Options

What the command line can set, what has been set so far, and what holds where nothing was set.
Every option may be given once, except verbosity, which counts. The build tool may also be set
by the environment; the command line wins over it.
-/

namespace ColdBuild

/-- The options that take a value. -/
inductive ValueOption where
  | hostCompiler
  | architecture
  | output
  | runs
  | tool
  | directory
  deriving DecidableEq, Repr

namespace ValueOption

def all : List ValueOption := [.hostCompiler, .architecture, .output, .runs, .tool, .directory]

def name : ValueOption → String
  | .hostCompiler => "hostcc"
  | .architecture => "arch"
  | .output => "output-json"
  | .runs => "runs"
  | .tool => "make"
  | .directory => "directory"

def placeholder : ValueOption → String
  | .hostCompiler => "HOSTCC"
  | .architecture => "ARCH"
  | .output => "OUTPUT_JSON"
  | .runs => "RUNS"
  | .tool => "MAKE"
  | .directory => "DIRECTORY"

/-- The option as messages show it. -/
def display (option : ValueOption) : String := s!"--{option.name} <{option.placeholder}>"

def default : ValueOption → String
  | .hostCompiler => "gcc"
  | .architecture => "arm"
  | .output => "out/benchmark.json"
  | .runs => "5"
  | .tool => "make"
  | .directory => "."

def ofName? (name : String) : Option ValueOption := all.find? (·.name = name)

end ValueOption

/-- The options that take no value. -/
inductive Switch where
  | dynlink
  | verbose
  | help
  | version
  deriving DecidableEq, Repr

namespace Switch

def all : List Switch := [.dynlink, .verbose, .help, .version]

def name : Switch → String
  | .dynlink => "dynlink"
  | .verbose => "verbose"
  | .help => "help"
  | .version => "version"

/-- The switch as messages show it; dots mark the one that may be repeated. -/
def display : Switch → String
  | .verbose => "--verbose..."
  | switch => s!"--{switch.name}"

def ofName? (name : String) : Option Switch := all.find? (·.name = name)

/-- The switch with a one-letter form. -/
def ofLetter? : Char → Option Switch
  | 'v' => some .verbose
  | 'h' => some .help
  | 'V' => some .version
  | _ => none

end Switch

/-- A command line that cannot be understood. -/
inductive UsageError where
  | invalidRuns (value : String) (fault : IntegerFault)
  | missingValue (option : ValueOption)
  | unexpectedArgument (argument : String)
  | unexpectedValue (value : String) (switch : Switch)
  | repeatedOption (option : ValueOption)
  | repeatedSwitch (switch : Switch)
  deriving DecidableEq, Repr

namespace UsageError

open ColdBuild.Span (plain emphasised)

/-- What is reported about the command line: what was not expected stands out, and so does the
option that it was given for. -/
def report (error : UsageError) : List Span :=
  emphasised .boldRed "error:" :: match error with
    | .invalidRuns value fault =>
      [plain " invalid value '", emphasised .yellow value, plain "' for '",
        emphasised .bold ValueOption.runs.display, plain s!"': {fault.message}"]
    | .missingValue option =>
      [plain " a value is required for '", emphasised .yellow option.display,
        plain "' but none was supplied"]
    | .unexpectedArgument argument =>
      [plain " unexpected argument '", emphasised .yellow argument, plain "' found"]
    | .unexpectedValue value switch =>
      [plain " unexpected value '", emphasised .yellow value, plain "' for '",
        emphasised .bold switch.display, plain "' found; no more were expected"]
    | .repeatedOption option =>
      [plain " the argument '", emphasised .yellow option.display,
        plain "' cannot be used multiple times"]
    | .repeatedSwitch switch =>
      [plain " the argument '", emphasised .yellow switch.display,
        plain "' cannot be used multiple times"]

def message (error : UsageError) : String := Span.renderAll false error.report

end UsageError

/-- What the command line has set so far. -/
structure GivenOptions where
  hostCompiler : Option String := none
  architecture : Option String := none
  output : Option Path := none
  runs : Option Int64 := none
  tool : Option String := none
  directory : Option Path := none
  dynamic : Bool := false
  verbosity : Nat := 0
  deriving DecidableEq

namespace GivenOptions

def has (given : GivenOptions) : ValueOption → Bool
  | .hostCompiler => given.hostCompiler.isSome
  | .architecture => given.architecture.isSome
  | .output => given.output.isSome
  | .runs => given.runs.isSome
  | .tool => given.tool.isSome
  | .directory => given.directory.isSome

/-- A path given as an option's value; an empty one counts as none. -/
def path (option : ValueOption) (value : String) : Except UsageError Path :=
  if value = "" then .error (.missingValue option) else .ok (.ofString value)

/-- Sets an option to the value that was given for it, if one was. -/
def set (given : GivenOptions) (option : ValueOption) :
    Option String → Except UsageError GivenOptions
  | none => .error (.missingValue option)
  | some value =>
    if given.has option then .error (.repeatedOption option)
    else match option with
      | .hostCompiler => .ok { given with hostCompiler := some value }
      | .architecture => .ok { given with architecture := some value }
      | .tool => .ok { given with tool := some value }
      | .output => do return { given with output := some (← path option value) }
      | .directory => do return { given with directory := some (← path option value) }
      | .runs =>
        match SignedInteger.parse value with
        | .ok runs => .ok { given with runs := some runs }
        | .error fault => .error (.invalidRuns value fault)

end GivenOptions

/-- Everything that a run of the program is asked to do. -/
structure Options where
  request : Request
  tool : String
  directory : Path
  verbosity : Nat
  deriving DecidableEq

/-- Fills in what was not given. -/
def GivenOptions.complete (given : GivenOptions) (environmentTool : Option String) : Options where
  request := {
    hostCompiler := given.hostCompiler.getD ValueOption.hostCompiler.default
    architecture := given.architecture.getD ValueOption.architecture.default
    dynamic := given.dynamic
    runs := given.runs.getD 5
    output := given.output.getD (.ofString ValueOption.output.default) }
  tool := given.tool.getD (environmentTool.getD ValueOption.tool.default)
  directory := given.directory.getD (.ofString ValueOption.directory.default)
  verbosity := given.verbosity

end ColdBuild
