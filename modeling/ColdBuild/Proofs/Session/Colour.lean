import ColdBuild.Proofs.Config.Acceptance
import ColdBuild.Proofs.Report.Layout
import ColdBuild.Proofs.Report.Unambiguous
import ColdBuild.Proofs.Rig.Measurement
import ColdBuild.Proofs.Session.Ending
import ColdBuild.Proofs.Text.Styled

/-!
# Colour

The header and the summary are styled, and nothing else that a session shows or stores. In colour
they are the same texts with escape sequences between the characters: in pairs around the arrows,
the rules, the title and the values of the metrics (`Span.AddsSequences`), so nothing is moved to
another column.
-/
namespace ColdBuild

open ColdBuild.Span (plain emphasised renderAll withoutEscapes)

/-- Colour adds nothing to the text of the spans but escape sequences, which stand in pairs on one
line each, and `layout` tells where. -/
structure Span.AddsSequences (spans : List Span) (layout : List Mark) : Prop where
  removed : withoutEscapes false (renderAll true spans).toList = (renderAll false spans).toList
  paired : Paired (Mark.read none (renderAll true spans).toList)
  even : Even ((Mark.read none (renderAll true spans).toList).countP Mark.isSequence)
  placed : Mark.read none (renderAll true spans).toList = layout

theorem Span.addsSequences {spans : List Span} (clean : ∀ span ∈ spans, span.IsClean) :
    AddsSequences spans (spans.map Span.marks).flatten := by
  have paired := paired_marks clean
  have removed := withoutEscapes_renderAll clean []
  rw [List.append_nil] at removed
  rw [← marks_renderAll clean] at paired
  exact ⟨removed.trans (List.append_nil _), paired, paired.even,
    (marks_renderAll clean).trans List.flatMap_def⟩

section

variable {text : String} {emphasis : Emphasis}

theorem Span.isClean_plain (noEscape : '\x1b' ∉ text.toList) : (plain text).IsClean where
  noEscape := noEscape
  single _ mem := nomatch mem
  oneLine isSome := nomatch isSome

theorem Span.isClean_emphasised (single : IsSequence emphasis.opening.toList)
    (printable : printable text.toList = true) : (emphasised emphasis text).IsClean where
  noEscape mem := printable_iff.mp printable _ mem (by decide)
  single := by
    rintro _ ⟨⟩
    exact single
  oneLine _ := lineFeed_notMem printable

end

theorem Emphasis.isSequence_opening :
    IsSequence cyan.opening.toList ∧ IsSequence green.opening.toList ∧
      IsSequence bold.opening.toList ∧ IsSequence dim.opening.toList :=
  ⟨⟨['[', '3', '6'], rfl, by simp⟩, ⟨['[', '3', '2'], rfl, by simp⟩, ⟨['[', '1'], rfl, by simp⟩,
    ⟨['[', '2'], rfl, by simp⟩⟩

/-- A shown value is printable. -/
theorem MetricValue.printable_display (value : MetricValue) :
    printable value.display.toList = true :=
  printable_iff.mpr fun _ mem => Nat.not_lt.mpr (blank_lt_of_mem_display mem).le

theorem escape_notMem_append {a b : String} (left : '\x1b' ∉ a.toList) (right : '\x1b' ∉ b.toList) :
    '\x1b' ∉ (a ++ b).toList := by
  rw [String.toList_append, List.mem_append, not_or]
  exact ⟨left, right⟩

/-- Text between two pieces of a span. -/
theorem escape_notMem_between {a text b : String} (inside : '\x1b' ∉ text.toList)
    (left : '\x1b' ∉ a.toList) (right : '\x1b' ∉ b.toList) : '\x1b' ∉ (a ++ text ++ b).toList :=
  escape_notMem_append (escape_notMem_append left inside) right

theorem escape_notMem_toString (n : Nat) : '\x1b' ∉ (toString n).toList := fun mem =>
  printable_iff.mp (MetricValue.integer n).printable_display _ mem (by decide)

namespace Config

theorem escape_notMem_label (config : Config) : '\x1b' ∉ config.label.toList :=
  fun mem => absurd (Report.blank_le_of_mem_label mem) (by decide)

theorem isClean_header {config : Config} (path : '\x1b' ∉ config.output.display.toList) :
    ∀ span ∈ config.header, span.IsClean := by
  have arrow : arrow.IsClean := Span.isClean_emphasised Emphasis.isSequence_opening.1 (by decide)
  have label := config.escape_notMem_label
  have runs := escape_notMem_toString config.runs
  simp only [header, List.forall_mem_cons]
  refine ⟨arrow, Span.isClean_plain ?_, arrow, Span.isClean_plain ?_, arrow, Span.isClean_plain ?_,
    List.forall_mem_nil _⟩
  · exact escape_notMem_between label (by decide) (by decide)
  · exact escape_notMem_between runs (by decide) (by decide)
  · exact escape_notMem_between path (by decide) (by decide)

end Config

namespace Report

theorem isClean_summary {report : Report} {output : Path} (label : '\x1b' ∉ report.label.toList)
    (path : '\x1b' ∉ output.display.toList) :
    ∀ span ∈ report.summary output, span.IsClean := by
  obtain ⟨-, green, bold, dim⟩ := Emphasis.isSequence_opening
  have rule : rule.IsClean := Span.isClean_emphasised dim (by decide)
  have feed : (plain "\n").IsClean := Span.isClean_plain (by decide)
  have title : (emphasised .bold "Benchmark results").IsClean :=
    Span.isClean_emphasised bold (by decide)
  have value (value : MetricValue) : (emphasised .green value.display).IsClean :=
    Span.isClean_emphasised green value.printable_display
  have time : '\x1b' ∉ (s!"    {padded 30 timeMetric}: ").toList := by decide
  have memory : '\x1b' ∉ (s!"    {padded 30 memoryMetric}: ").toList := by decide
  have runs := escape_notMem_toString report.runs
  simp only [summary, metricLine, List.cons_append, List.nil_append, List.forall_mem_cons]
  refine ⟨feed, rule, feed, title, feed, Span.isClean_plain ?_, Span.isClean_plain ?_, rule, feed,
    Span.isClean_plain time, value _, Span.isClean_plain ?_, Span.isClean_plain memory, value _,
    Span.isClean_plain ?_, rule, feed, List.forall_mem_nil _⟩
  · exact escape_notMem_between label (by decide) (by decide)
  · exact escape_notMem_between path (by decide) (by decide)
  · exact escape_notMem_between (a := " second (") runs (by decide) (by decide)
  · exact escape_notMem_between (a := " KBytes (") runs (by decide) (by decide)

end Report

/-- The header in colour: sequences stand around the arrows. -/
def Config.headerMarks (config : Config) : List Mark :=
  [Mark.around .cyan "==>", Mark.plain s!" config: {config.label}\n",
    Mark.around .cyan "==>", Mark.plain s!" runs: {config.runs}\n",
    Mark.around .cyan "==>", Mark.plain s!" output_json: {config.output.display}\n"].flatten

theorem Config.addsSequences_header {config : Config}
    (path : '\x1b' ∉ config.output.display.toList) :
    Span.AddsSequences config.header config.headerMarks :=
  Span.addsSequences (isClean_header path)

namespace Report

def ruleMarks : List Mark := Mark.around .dim (String.ofList (List.replicate 70 '='))

/-- The summary in colour: sequences stand around the rules, the title and the two values. -/
def summaryMarks (report : Report) (output : Path) : List Mark :=
  [Mark.plain "\n", ruleMarks, Mark.plain "\n",
    Mark.around .bold "Benchmark results", Mark.plain "\n",
    Mark.plain s!"Config     : {report.label}\n",
    Mark.plain s!"Output file: {output.display}\n",
    ruleMarks, Mark.plain "\n",
    Mark.plain "    Average Execution Time        : ",
    Mark.around .green (MetricValue.float report.averageSeconds).display,
    Mark.plain s!" second ({report.runs} runs)\n",
    Mark.plain "    Maximum Resident Set Size     : ",
    Mark.around .green (MetricValue.integer report.maxKb).display,
    Mark.plain s!" KBytes ({report.runs} runs)\n",
    ruleMarks, Mark.plain "\n"].flatten

theorem addsSequences_summary {report : Report} {output : Path}
    (label : '\x1b' ∉ report.label.toList) (path : '\x1b' ∉ output.display.toList) :
    Span.AddsSequences (report.summary output) (report.summaryMarks output) := by
  have time : "    Average Execution Time        : " = s!"    {padded 30 timeMetric}: " := by decide
  have memory : "    Maximum Resident Set Size     : " = s!"    {padded 30 memoryMetric}: " := by
    decide
  rw [summaryMarks, time, memory]
  exact Span.addsSequences (isClean_summary label path)

/-- The value of a metric begins in the same column with and without colour, behind a colon. -/
theorem metricLine_columns {report : Report} {entry : MetricEntry}
    (isEntry : entry ∈ report.entries) :
    ∃ start rest, (∀ colour, renderAll colour (metricLine entry) =
        start ++ (emphasised .green entry.value.display).render colour ++ rest) ∧
      '\x1b' ∉ start.toList ∧ start.toList.length = 36 ∧ start.toList.idxOf ':' = 34 := by
  have columns {name : String} (is : name = timeMetric ∨ name = memoryMetric) :
      '\x1b' ∉ (s!"    {padded 30 name}: ").toList ∧
        (s!"    {padded 30 name}: ").toList.length = 36 ∧
        (s!"    {padded 30 name}: ").toList.idxOf ':' = 34 := by
    rcases is with rfl | rfl <;> decide
  refine ⟨s!"    {padded 30 entry.name}: ", s!" {entry.unit} ({entry.runs} runs)\n",
    fun colour => ?_, columns ?_⟩
  · have plainly (text : String) : (plain text).render colour = text := by
      cases colour <;> rfl
    simp only [metricLine, renderAll, List.map_cons, List.map_nil, plainly, String.join,
      List.foldl_cons, List.foldl_nil, String.empty_append]
  · simp only [entries, List.mem_cons, List.not_mem_nil, or_false] at isEntry
    exact isEntry.imp (congrArg MetricEntry.name) (congrArg MetricEntry.name)

end Report

namespace Session

variable {σ : Type} {host : Host σ} {options : Options} {world : σ} {config : Config}

theorem escape_notMem_progress (events : List Event) : '\x1b' ∉ (progress events).toList := by
  rw [progress, String.toList_join, List.mem_flatMap]
  rintro ⟨line, mem, escape⟩
  obtain ⟨event, -, rfl⟩ := List.mem_map.mp mem
  split at escape
  · next index runs =>
    have first := escape_notMem_between (a := "Running (") (b := "/")
      (escape_notMem_toString index) (by decide) (by decide)
    have second := escape_notMem_between (b := ")...")
      (escape_notMem_toString runs) first (by decide)
    exact escape_notMem_append second (by decide) escape
  · cases escape

/-- How a session goes on from a configuration depends on its environment only in the colour of the
header and of what is shown at the end: a summary under the label of the configuration, or
nothing. -/
theorem perform_parts (resolved : options.request.resolve = .ok config) :
    ∃ exit after tail,
      (tail = [] ∨ ∃ report : Report, report.label = config.label ∧
        tail = report.summary config.output) ∧
      ∀ environment, (perform host environment options world).exit = exit ∧
        (perform host environment options world).world = after ∧
        (perform host environment options world).output =
          renderAll environment.colour config.header ++
            progress (((tool options).rig host).benchmark config world).events ++
            renderAll environment.colour tail := by
  cases run : ((tool options).rig host).benchmark config world with
  | mk result events middle =>
    cases result with
    | error error =>
      refine ⟨1, middle, [], .inl rfl, fun environment => ?_⟩
      rw [perform_aborted resolved run]
      exact ⟨rfl, rfl, (String.append_empty).symm⟩
    | ok report =>
      cases write : host.writeFile config.output report.document middle with
      | mk outcome after =>
        cases outcome with
        | error fault =>
          refine ⟨1, after, [], .inl rfl, fun environment => ?_⟩
          rw [perform_unwritten resolved run write]
          exact ⟨rfl, rfl, (String.append_empty).symm⟩
        | ok _ =>
          have label : report.label = config.label := by
            have result : (((tool options).rig host).benchmark config world).result = .ok report :=
              by rw [run]
            obtain ⟨laps, -, -, -, -, success⟩ := Rig.benchmark_laps _ config result
            exact label_of_aggregate success
          refine ⟨0, after, _, .inr ⟨report, label, rfl⟩, fun environment => ?_⟩
          rw [perform_stored resolved run write]
          exact ⟨rfl, rfl, rfl⟩

/-- A session in colour shows the text of one without, and escape sequences. -/
theorem withoutEscapes_output {environment environment' : Environment}
    (coloured : environment.colour = true) (uncoloured : environment'.colour = false)
    (path : '\x1b' ∉ options.request.output.display.toList) :
    withoutEscapes false (perform host environment options world).output.toList =
      (perform host environment' options world).output.toList := by
  cases resolved : options.request.resolve with
  | error error =>
    rw [perform_refused resolved, perform_refused resolved]
    rfl
  | ok config =>
    obtain ⟨-, -, -, -, output⟩ := Request.resolve_ok_iff.mp resolved
    rw [← output] at path
    obtain ⟨_, _, tail, isTail, parts⟩ := @perform_parts σ host options world config resolved
    have clean : ∀ span ∈ tail, span.IsClean := by
      rcases isTail with rfl | ⟨report, label, rfl⟩
      · nofun
      · exact Report.isClean_summary (label ▸ config.escape_notMem_label) path
    have ending := Span.withoutEscapes_renderAll clean []
    rw [List.append_nil] at ending
    rw [(parts environment).2.2, (parts environment').2.2, coloured, uncoloured,
      String.toList_append, String.toList_append, String.toList_append, String.toList_append,
      List.append_assoc, Span.withoutEscapes_renderAll (Config.isClean_header path),
      Span.withoutEscapes_plain (escape_notMem_progress _), ending, List.append_assoc]
    exact congrArg _ (congrArg _ (List.append_nil _))

/-- Colour changes nothing but escape sequences. In the coloured header and in the coloured summary
of any report they stand in pairs, each on one line, around the arrows, the rules, the title and the
values of the metrics, and what is left without them is the text without colour; so the colon of a
metric is in the same column. A session ends in the same way and leaves the same world, with the
same document, whatever its environment: of what it shows the progress lines stay the same, and
header and summary differ in escape sequences only. -/
theorem colour_adds_sequences :
    (∀ config : Config, '\x1b' ∉ config.output.display.toList →
      Span.AddsSequences config.header config.headerMarks) ∧
    (∀ (report : Report) (output : Path), '\x1b' ∉ report.label.toList →
      '\x1b' ∉ output.display.toList →
      Span.AddsSequences (report.summary output) (report.summaryMarks output)) ∧
    (∀ (report : Report), ∀ entry ∈ report.entries, ∃ start rest,
      (∀ colour, renderAll colour (Report.metricLine entry) =
        start ++ (emphasised .green entry.value.display).render colour ++ rest) ∧
      '\x1b' ∉ start.toList ∧ start.toList.length = 36 ∧ start.toList.idxOf ':' = 34) ∧
    (∀ (σ : Type) (host : Host σ) (options : Options) (world : σ) (config : Config),
      options.request.resolve = .ok config → ∃ exit after tail,
        (tail = [] ∨ ∃ report : Report, report.label = config.label ∧
          tail = report.summary config.output) ∧
        ∀ environment, (perform host environment options world).exit = exit ∧
          (perform host environment options world).world = after ∧
          (perform host environment options world).output =
            renderAll environment.colour config.header ++
              progress (((tool options).rig host).benchmark config world).events ++
              renderAll environment.colour tail) ∧
    ∀ (σ : Type) (host : Host σ) (options : Options) (world : σ)
      (environment environment' : Environment),
      environment.colour = true → environment'.colour = false →
      '\x1b' ∉ options.request.output.display.toList →
      withoutEscapes false (perform host environment options world).output.toList =
        (perform host environment' options world).output.toList :=
  ⟨fun _ => Config.addsSequences_header, fun _ _ => Report.addsSequences_summary,
    fun _ _ => Report.metricLine_columns, fun _ _ _ _ _ => perform_parts,
    fun _ _ _ _ _ _ => withoutEscapes_output⟩

theorem colour_adds_sequences_threeBuilds :
    '\x1b' ∉ Config.threeRuns.output.display.toList ∧
      '\x1b' ∉ Report.threeBuilds.label.toList ∧
      Span.AddsSequences Config.threeRuns.header Config.threeRuns.headerMarks ∧
      (Mark.read none
        (renderAll true (Report.threeBuilds.summary Config.threeRuns.output)).toList).countP
          Mark.isSequence = 12 := by
  have path : '\x1b' ∉ Config.threeRuns.output.display.toList := by decide +kernel
  have label : '\x1b' ∉ Report.threeBuilds.label.toList := by decide
  obtain ⟨header, summary, -⟩ := colour_adds_sequences
  refine ⟨path, label, header _ path, ?_⟩
  rw [(summary _ _ label path).placed]
  decide +kernel

end Session

end ColdBuild
