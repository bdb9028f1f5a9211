import ColdBuild.CommandLine.Options

/-!
# Help

What is shown on request: the program's options with their defaults, and its version. The names
of options stand out, and more so the headings.
-/

namespace ColdBuild

/-- The program's name on the command line. -/
def programName : String := "shecc-bench"

def versionText : String := s!"{programName} 0.1.0\n"

/-- An option in the help text. -/
structure HelpRow where
  letter : Option Char := none
  name : String
  /-- What follows the name. -/
  value : String := ""
  description : String

/-- The column in which descriptions begin. -/
def HelpRow.column : Nat := 35

/-- The row's text; further lines of a description begin in the same column. -/
def HelpRow.spans (row : HelpRow) : List Span :=
  let (before, width) : List Span × Nat := match row.letter with
    | some letter => ([.plain "  ", .emphasised .bold s!"-{letter}", .plain ", "], 6)
    | none => ([.plain "      "], 6)
  let padding := column - (width + 2 + row.name.length + row.value.length)
  let blanks (n : Nat) : String := String.ofList (List.replicate n ' ')
  let description := ("\n" ++ blanks column).intercalate (row.description.splitOn "\n")
  before ++ [.emphasised .bold s!"--{row.name}",
    .plain s!"{row.value}{blanks padding}{description}\n"]

def helpRows (environmentTool : String) : List HelpRow :=
  let option (option : ValueOption) (description : String) : HelpRow :=
    { name := option.name, value := s!" <{option.placeholder}>", description }
  [option .hostCompiler "Host C compiler (cc, gcc, clang) [default: gcc]",
    option .architecture "Target architecture (arm, riscv) [default: arm]",
    { name := "dynlink", description := "Enable dynamic linking (default: static linking)" },
    option .output "Output JSON file name [default: out/benchmark.json]",
    option .runs "Number of runs [default: 5]",
    option .tool s!"Build tool program [env: MAKE={environmentTool}] [default: make]",
    { option .directory "Directory to run the build tool in [default: .]" with letter := 'C' },
    { letter := 'v', name := "verbose", value := "...",
      description := "Increase log verbosity (-v info, -vv debug)" },
    { letter := 'h', name := "help", description := "Print help" },
    { letter := 'V', name := "version", description := "Print version" }]

/-- Shown for `--help`; it names the build tool that the environment sets. -/
def helpSpans (environmentTool : Option String) : List Span :=
  [.plain "Run benchmarks for shecc\n\n", .emphasised .boldUnderlined "Usage:", .plain " ",
    .emphasised .bold programName, .plain " [OPTIONS]\n\n",
    .emphasised .boldUnderlined "Options:", .plain "\n"] ++
    (helpRows (environmentTool.getD "")).flatMap HelpRow.spans

end ColdBuild
