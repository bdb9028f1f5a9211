import ColdBuild.Error

/-!
# What is benchmarked

A request holds the parameters as they are given: free text for the host compiler and the
architecture, and any signed 64-bit run count. Resolving it checks them, in the order run count,
host compiler, architecture, and gives a configuration that holds only values of the domain and
a positive run count. The build tool's arguments and the label of a report are computed from a
configuration, so no text of a request reaches either.
-/

namespace ColdBuild

/-- The compiler on the host that builds the compiler under test. -/
inductive HostCompiler where
  | gcc
  | clang
  deriving DecidableEq, Repr

namespace HostCompiler

/-- Every accepted spelling; `cc` is another one for `gcc`. -/
def tokens : List String := ["cc", "gcc", "clang"]

def name : HostCompiler → String
  | .gcc => "gcc"
  | .clang => "clang"

/-- Reads a spelling, compared as a whole. -/
def parse (text : String) : Except Error HostCompiler :=
  if text = "cc" ∨ text = "gcc" then .ok .gcc
  else if text = "clang" then .ok .clang
  else .error (.unknownChoice "hostcc" text (", ".intercalate tokens))

end HostCompiler

/-- The architecture the compiler under test generates code for. -/
inductive Architecture where
  | arm
  | riscv
  deriving DecidableEq, Repr

namespace Architecture

def tokens : List String := ["arm", "riscv"]

def name : Architecture → String
  | .arm => "arm"
  | .riscv => "riscv"

def parse (text : String) : Except Error Architecture :=
  if text = "arm" then .ok .arm
  else if text = "riscv" then .ok .riscv
  else .error (.unknownChoice "arch" text (", ".intercalate tokens))

end Architecture

/-- How the compiler under test is linked; statically unless asked otherwise. -/
inductive LinkMode where
  | static
  | dynamic
  deriving DecidableEq, Repr, Inhabited

namespace LinkMode

def ofDynamic (dynamic : Bool) : LinkMode := if dynamic then .dynamic else .static

def name : LinkMode → String
  | .static => "static"
  | .dynamic => "dynamic"

/-- The value of the build tool's `DYNLINK` variable. -/
def flag : LinkMode → Nat
  | .static => 0
  | .dynamic => 1

end LinkMode

/-- The parameters of a benchmark as they are given. -/
structure Request where
  hostCompiler : String
  architecture : String
  dynamic : Bool
  runs : Int64
  output : Path
  deriving DecidableEq

/-- The parameters of a benchmark, checked. -/
structure Config where
  hostCompiler : HostCompiler
  architecture : Architecture
  linkMode : LinkMode
  runs : Nat
  output : Path
  runs_pos : 0 < runs
  runs_le : runs ≤ 0xffffffffffffffff
  deriving DecidableEq, Repr

/-- Checks the parameters and brings them into canonical form. The run count comes first, so it
is reported even when other parameters are wrong as well. -/
def Request.resolve (request : Request) : Except Error Config :=
  if positive : 1 ≤ request.runs.toInt then do
    let hostCompiler ← HostCompiler.parse request.hostCompiler
    let architecture ← Architecture.parse request.architecture
    return {
      hostCompiler, architecture
      linkMode := .ofDynamic request.dynamic
      runs := request.runs.toInt.toNat
      output := request.output
      runs_pos := by omega
      runs_le := by have := request.runs.toInt_lt; omega }
  else .error (.runCount request.runs.toInt)

namespace Config

def fields : String := "(HOSTCC, ARCH, DYNLINK)"

def label (config : Config) : String :=
  s!"{fields}=({config.hostCompiler.name}, {config.architecture.name}, {config.linkMode.name})"

def buildArguments (config : Config) : List String :=
  [s!"CC={config.hostCompiler.name}", s!"ARCH={config.architecture.name}",
    s!"DYNLINK={config.linkMode.flag}", "--silent"]

/-- The build tool's arguments for removing everything that a build made. -/
def cleanArguments : List String := ["distclean", "--silent"]

/-- Two configurations ask for the same benchmark; their paths are compared by components. -/
def same (a b : Config) : Bool :=
  a.hostCompiler = b.hostCompiler && a.architecture = b.architecture &&
    a.linkMode = b.linkMode && a.runs = b.runs && a.output.same b.output

end Config

end ColdBuild
