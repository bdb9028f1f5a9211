import ColdBuild.Report
import ColdBuild.Text.Styled

/-!
# What is shown on the terminal

The header before the first trial, a line at the start of each build, and the summary after the
report has been stored. Colour goes around the arrows, the rules, the title and the metric
values, and around nothing else, so the columns are the same with and without it.
-/

namespace ColdBuild

open ColdBuild.Span (plain emphasised)

namespace Config

/-- In front of each line of a header. -/
def arrow : Span := emphasised .cyan "==>"

/-- Shown before the first trial. -/
def header (config : Config) : List Span :=
  [arrow, plain s!" config: {config.label}\n",
    arrow, plain s!" runs: {config.runs}\n",
    arrow, plain s!" output_json: {config.output.display}\n"]

end Config

/-- Shown when a build begins. -/
def progressLine (index runs : Nat) : String := s!"Running ({index}/{runs})..."

namespace Report

/-- The line above, between and below the parts of a summary. -/
def rule : Span := emphasised .dim (String.ofList (List.replicate 70 '='))

/-- Text with spaces behind it up to the given width. -/
def padded (width : Nat) (text : String) : String :=
  text ++ String.ofList (List.replicate (width - text.length) ' ')

def metricLine (entry : MetricEntry) : List Span :=
  [plain s!"    {padded 30 entry.name}: ", emphasised .green entry.value.display,
    plain s!" {entry.unit} ({entry.runs} runs)\n"]

/-- Shown after the report has been stored at `output`. -/
def summary (report : Report) (output : Path) : List Span :=
  [plain "\n", rule, plain "\n",
    emphasised .bold "Benchmark results", plain "\n",
    plain s!"Config     : {report.label}\n",
    plain s!"Output file: {output.display}\n",
    rule, plain "\n"] ++
  metricLine report.timeEntry ++ metricLine report.memoryEntry ++
  [rule, plain "\n"]

end Report

end ColdBuild
