import ColdBuild.Config
import ColdBuild.Decimal.Numeral

/-!
# Reports

What a finished benchmark says: the mean build time, the peak memory, how many trials there were
and which configuration they measured. The report is shown and stored as two metrics.
-/

namespace ColdBuild

/-- The result of a benchmark. -/
structure Report where
  averageSeconds : Binary64
  maxKb : Nat
  runs : Nat
  label : String
  deriving DecidableEq, Repr

/-- Reports are compared by their values: an average that is no number equals nothing. -/
def Report.same (a b : Report) : Bool :=
  a.averageSeconds.equal b.averageSeconds && a.maxKb = b.maxKb && a.runs = b.runs &&
    a.label = b.label

inductive MetricValue where
  | float (value : Binary64)
  | integer (value : Nat)
  deriving DecidableEq, Repr

namespace MetricValue

/-- The value as it is shown to people. -/
def display : MetricValue → String
  | .float value => NumeralStyle.display.write value
  | .integer value => toString value

def json : MetricValue → String
  | .float value => NumeralStyle.json.write value
  | .integer value => toString value

/-- Values are the same when they are of one kind and numerically equal. -/
def same : MetricValue → MetricValue → Bool
  | .float a, .float b => a.equal b
  | .integer a, .integer b => a = b
  | _, _ => false

end MetricValue

structure MetricEntry where
  name : String
  unit : String
  value : MetricValue
  runs : Nat
  config : String
  deriving DecidableEq, Repr

namespace Report

def timeMetric : String := "Average Execution Time"
def memoryMetric : String := "Maximum Resident Set Size"

def timeEntry (report : Report) : MetricEntry where
  name := timeMetric
  unit := "second"
  value := .float report.averageSeconds
  runs := report.runs
  config := report.label

def memoryEntry (report : Report) : MetricEntry where
  name := memoryMetric
  unit := "KBytes"
  value := .integer report.maxKb
  runs := report.runs
  config := report.label

/-- The metrics in the order in which they are stored and shown. -/
def entries (report : Report) : List MetricEntry := [report.timeEntry, report.memoryEntry]

end Report

end ColdBuild
