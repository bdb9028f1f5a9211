import ColdBuild.Report
import ColdBuild.Text.Quoted

/-!
# The stored document

A report is stored as a JSON array of its two metrics, one field a line, indented by four spaces
a level, with a line end after the closing bracket. The lines do not depend on the data: whatever
the label holds, there are sixteen of them.
-/

namespace ColdBuild

namespace MetricEntry

/-- The keys of a stored metric and their written values, in order. -/
def fields (entry : MetricEntry) : List (String × String) :=
  [("name", Quoted.quote entry.name),
    ("unit", Quoted.quote entry.unit),
    ("value", entry.value.json),
    ("runs", toString entry.runs),
    ("config", Quoted.quote entry.config)]

def fieldLine (field : String × String) (last : Bool) : String :=
  "        " ++ Quoted.quote field.1 ++ ": " ++ field.2 ++ if last then "" else ","

/-- The lines of the fields; all but the last end with a comma. -/
def fieldLines : List (String × String) → List String
  | [] => []
  | [field] => [fieldLine field true]
  | field :: rest => fieldLine field false :: fieldLines rest

def lines (entry : MetricEntry) (last : Bool) : List String :=
  "    \x7b" :: fieldLines entry.fields ++ ["    \x7d" ++ if last then "" else ","]

end MetricEntry

namespace Report

def documentLines (report : Report) : List String :=
  "[" :: report.timeEntry.lines false ++ report.memoryEntry.lines true ++ ["]"]

def document (report : Report) : String :=
  String.join (report.documentLines.map (· ++ "\n"))

/-- There are sixteen lines, whatever the report holds. -/
theorem length_documentLines (report : Report) : report.documentLines.length = 16 := rfl

end Report

end ColdBuild
