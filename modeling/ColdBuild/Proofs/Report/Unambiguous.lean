import ColdBuild.Proofs.Report.Document
import ColdBuild.Proofs.Report.Summary
import ColdBuild.Proofs.Text.Utf8

/-!
# What a summary tells

A summary consists of nine lines (`Report.toList_summary`). Label and path stand in it as they are,
so a path may bring further lines with it. The label is found from the front, where the lines above
it are known; the metrics are found from the back, where no line holds a line feed; and the path is
what remains between them (`Report.summary_inj`). On the line of a metric the value ends at the
first blank.
-/
namespace ColdBuild

/-- What stands in front of the first separator is determined, and so is what follows it. -/
theorem append_cons_inj {α : Type} {x : α} {l l' r r' : List α} (free : x ∉ l) (free' : x ∉ l') :
    l ++ x :: r = l' ++ x :: r' ↔ l = l' ∧ r = r' := by
  induction l generalizing l' with
  | nil =>
    cases l' with
    | nil => simp
    | cons y rest =>
      have different : x ≠ y := fun same => free' (same ▸ List.mem_cons_self)
      simp [different]
  | cons y rest ih =>
    cases l' with
    | nil =>
      have different : y ≠ x := fun same => free (same ▸ List.mem_cons_self)
      simp [different]
    | cons y' rest' =>
      have others := @ih rest' (fun mem => free (List.mem_cons_of_mem _ mem))
        (fun mem => free' (List.mem_cons_of_mem _ mem))
      simp [others, and_assoc]

/-- What stands behind the last separator is determined, and so is what precedes it. -/
theorem cons_append_inj {α : Type} {x : α} {l l' r r' : List α} (free : x ∉ r) (free' : x ∉ r') :
    l ++ x :: r = l' ++ x :: r' ↔ l = l' ∧ r = r' := by
  rw [← List.reverse_inj]
  simp [append_cons_inj, free, free', and_comm]

section

variable {lines lines' front front' back back' : List String}

/-- The first lines are found, if they are as many lines as they seem. -/
theorem textOf_append_inj (whole : ∀ line ∈ front, '\n' ∉ line.toList)
    (whole' : ∀ line ∈ front', '\n' ∉ line.toList) (length : front.length = front'.length) :
    textOf (front ++ lines) = textOf (front' ++ lines') ↔
      front = front' ∧ textOf lines = textOf lines' := by
  induction front generalizing front' with
  | nil =>
    obtain rfl := List.eq_nil_of_length_eq_zero length.symm
    simp
  | cons line rest ih =>
    obtain ⟨line', rest', rfl⟩ := List.exists_cons_of_length_eq_add_one length.symm
    rw [List.forall_mem_cons] at whole whole'
    have others := ih whole.2 whole'.2 (Nat.succ.inj length)
    simp only [textOf, List.cons_append, List.flatMap_cons, List.append_assoc,
      List.nil_append] at others ⊢
    rw [append_cons_inj whole.1 whole'.1, String.toList_inj, others, List.cons.injEq, and_assoc]

/-- The last line is found, if it is one and there are others in front of it. -/
theorem textOf_concat_inj {line line' : String} (whole : '\n' ∉ line.toList)
    (whole' : '\n' ∉ line'.toList) (nonempty : lines ≠ []) (nonempty' : lines' ≠ []) :
    textOf (lines ++ [line]) = textOf (lines' ++ [line']) ↔
      textOf lines = textOf lines' ∧ line = line' := by
  have text {line : String} {lines : List String} (nonempty : lines ≠ []) :
      ∃ before, textOf lines = before ++ ['\n'] ∧
        textOf (lines ++ [line]) = (before ++ '\n' :: line.toList) ++ ['\n'] := by
    obtain ⟨others, last, rfl⟩ := (List.eq_nil_or_concat lines).resolve_left nonempty
    exact ⟨textOf others ++ last.toList, by simp [textOf], by simp [textOf]⟩
  obtain ⟨before, is, all⟩ := @text line lines nonempty
  obtain ⟨before', is', all'⟩ := @text line' lines' nonempty'
  rw [all, all', is, is', List.append_left_inj, List.append_left_inj, cons_append_inj whole whole',
    String.toList_inj]

/-- So are the last lines. -/
theorem textOf_append_inj' (whole : ∀ line ∈ back, '\n' ∉ line.toList)
    (whole' : ∀ line ∈ back', '\n' ∉ line.toList) (length : back.length = back'.length)
    (nonempty : lines ≠ []) (nonempty' : lines' ≠ []) :
    textOf (lines ++ back) = textOf (lines' ++ back') ↔
      textOf lines = textOf lines' ∧ back = back' := by
  induction back using List.reverseRecOn generalizing back' with
  | nil =>
    obtain rfl := List.eq_nil_of_length_eq_zero length.symm
    simp
  | append_singleton rest line ih =>
    have nonempty'' : back' ≠ [] := by
      rintro rfl
      simp at length
    obtain ⟨rest', line', rfl⟩ := (List.eq_nil_or_concat back').resolve_left nonempty''
    rw [List.concat_eq_append] at *
    simp only [List.length_append, List.length_singleton, Nat.add_right_cancel_iff] at length
    rw [List.forall_mem_append, List.forall_mem_singleton] at whole whole'
    rw [← List.append_assoc, ← List.append_assoc,
      textOf_concat_inj whole.2 whole'.2 (List.append_ne_nil_of_left_ne_nil nonempty _)
        (List.append_ne_nil_of_left_ne_nil nonempty' _),
      ih whole.1 whole'.1 length, List.append_singleton_inj, and_assoc]

end

namespace MetricValue

/-- A shown value is one word. -/
theorem blank_lt_of_mem_display {value : MetricValue} {c : Char}
    (mem : c ∈ value.display.toList) : 0x20 < c.toNat := by
  have chars {n : Numeral} (wellFormed : n.WellFormed) (mem : c ∈ n.chars "") :
      0x20 < c.toNat := by
    rcases Numeral.mem_chars_cases wellFormed mem with digit | rfl | rfl | rfl | plus
    · exact (by decide : 0x20 < '0'.toNat).trans_le (Char.isDigit_iff_toNat.mp digit).1
    · decide
    · decide
    · decide
    · cases plus
  cases value with
  | integer n =>
    rw [display, ← Numeral.chars_ofNat ""] at mem
    exact chars (Numeral.wellFormed_ofNat n) mem
  | float x =>
    cases finite : x.isFinite with
    | true =>
      rw [display, NumeralStyle.toList_write _ finite] at mem
      exact chars (NumeralStyle.wellFormed_numeral finite) mem
    | false =>
      have word {text : String} (all : text.toList.all (0x20 < ·.toNat) = true)
          (mem : c ∈ text.toList) : 0x20 < c.toNat := by
        simpa using List.all_eq_true.mp all c mem
      rw [display_of_not_finite finite] at mem
      split at mem
      · exact word (by decide) mem
      · split at mem <;> exact word (by decide) mem

/-- In front of a blank a shown value is found. -/
theorem display_append_inj {value value' : MetricValue} {rest rest' : List Char} :
    value.display.toList ++ ' ' :: rest = value'.display.toList ++ ' ' :: rest' ↔
      value.display = value'.display ∧ rest = rest' := by
  have noBlank (value : MetricValue) : ' ' ∉ value.display.toList :=
    fun mem => absurd (blank_lt_of_mem_display mem) (by decide)
  rw [append_cons_inj (noBlank value) (noBlank value'), String.toList_inj]

end MetricValue

namespace Report

def linesAbove (label : String) : List String :=
  ["",
    "======================================================================",
    "Benchmark results",
    s!"Config     : {label}"]

def linesBelow (time peak runs : String) : List String :=
  ["======================================================================",
    s!"    Average Execution Time        : {time} second ({runs} runs)",
    s!"    Maximum Resident Set Size     : {peak} KBytes ({runs} runs)",
    "======================================================================"]

/-- The lines of a summary, for the texts of what it shows. -/
def shownLines (label path time peak runs : String) : List String :=
  linesAbove label ++ ([s!"Output file: {path}"] ++ linesBelow time peak runs)

theorem toList_summary (report : Report) (output : Path) :
    (Span.renderAll false (report.summary output)).toList =
      textOf (shownLines report.label output.display
        (MetricValue.float report.averageSeconds).display (MetricValue.integer report.maxKb).display
        (MetricValue.integer report.runs).display) := by
  have time : padded 30 timeMetric = "Average Execution Time        " := by decide
  have memory : padded 30 memoryMetric = "Maximum Resident Set Size     " := by decide
  have line : String.ofList (List.replicate 70 '=') =
    "======================================================================" := by decide
  have feed : "\n".toList = ['\n'] := rfl
  simp only [Span.renderAll, summary, metricLine, timeEntry, memoryEntry, rule, time, memory, line,
    shownLines, linesAbove, linesBelow, textOf, String.toList_join, List.flatMap_cons,
    List.flatMap_nil, List.map_cons, List.map_nil, List.cons_append, List.nil_append,
    List.append_assoc, Span.render_false, Span.plain, Span.emphasised, String.toList_append, feed,
    MetricValue.display]
  rfl

section

variable {time time' peak peak' runs runs' : MetricValue}

/-- Value and number are found on the line of a metric, if a blank stands behind either. -/
theorem line_inj (start unit : String) {rest : List Char} (blank : unit.toList = ' ' :: rest)
    (same : start ++ time.display ++ unit ++ runs.display ++ " runs)" =
      start ++ time'.display ++ unit ++ runs'.display ++ " runs)") :
    time.display = time'.display ∧ runs.display = runs'.display := by
  simpa only [← String.toList_inj, String.toList_append, blank, List.append_assoc,
    List.cons_append, List.append_cancel_left_eq, MetricValue.display_append_inj,
    List.append_cancel_right_eq] using same

/-- The line of a metric is one line. -/
theorem newline_notMem_line {start unit : String} (inStart : '\n' ∉ start.toList)
    (inUnit : '\n' ∉ unit.toList) :
    '\n' ∉ (start ++ time.display ++ unit ++ runs.display ++ " runs)").toList := by
  have inValue (value : MetricValue) : '\n' ∉ value.display.toList :=
    fun mem => absurd (MetricValue.blank_lt_of_mem_display mem) (by decide)
  simp [inStart, inUnit, inValue]

theorem newline_notMem_linesBelow :
    ∀ line ∈ linesBelow time.display peak.display runs.display, '\n' ∉ line.toList := by
  simp only [linesBelow, List.forall_mem_cons]
  exact ⟨by decide, newline_notMem_line (by decide) (by decide),
    newline_notMem_line (by decide) (by decide), by decide, by simp⟩

theorem newline_notMem_linesAbove {label : String} (oneLine : '\n' ∉ label.toList) :
    ∀ line ∈ linesAbove label, '\n' ∉ line.toList := by
  have config : '\n' ∉ ("Config     : " ++ label).toList := by
    rw [String.toList_append, List.mem_append, not_or]
    exact ⟨by decide, oneLine⟩
  simp only [linesAbove, List.forall_mem_cons]
  exact ⟨by decide, by decide, by decide, config, by simp⟩

/-- The texts that a summary shows are found, if the label is on one line. -/
theorem shownLines_inj {label label' path path' : String}
    (oneLine : '\n' ∉ label.toList) (oneLine' : '\n' ∉ label'.toList)
    (same : textOf (shownLines label path time.display peak.display runs.display) =
      textOf (shownLines label' path' time'.display peak'.display runs'.display)) :
    label = label' ∧ path = path' ∧ time.display = time'.display ∧ peak.display = peak'.display ∧
      runs.display = runs'.display := by
  obtain ⟨above, same⟩ := (textOf_append_inj (newline_notMem_linesAbove oneLine)
    (newline_notMem_linesAbove oneLine') rfl).mp same
  obtain ⟨between, below⟩ := (textOf_append_inj' newline_notMem_linesBelow
    newline_notMem_linesBelow (by rfl) (List.cons_ne_nil _ _) (List.cons_ne_nil _ _)).mp same
  have sameLabel : label = label' := by
    simpa only [linesAbove, List.cons.injEq, true_and, and_true, toString,
      String.append_right_inj] using above
  have samePath : path = path' := by
    simpa only [textOf, List.flatMap_cons, List.flatMap_nil, List.append_nil,
      List.append_left_inj, String.toList_inj, toString, String.append_right_inj] using between
  simp only [linesBelow, List.cons.injEq, true_and, and_true] at below
  obtain ⟨sameTime, sameRuns⟩ :=
    line_inj "    Average Execution Time        : " " second (" rfl below.1
  obtain ⟨samePeak, -⟩ := line_inj "    Maximum Resident Set Size     : " " KBytes (" rfl below.2
  exact ⟨sameLabel, samePath, sameTime, samePeak, sameRuns⟩

end

/-- There is no control character in the label of a configuration. -/
theorem blank_le_of_mem_label {config : Config} {c : Char} (mem : c ∈ config.label.toList) :
    0x20 ≤ c.toNat := by
  have host (compiler : HostCompiler) : compiler.name.toList.all (0x20 ≤ ·.toNat) = true := by
    cases compiler <;> decide
  have target (architecture : Architecture) :
      architecture.name.toList.all (0x20 ≤ ·.toNat) = true := by
    cases architecture <;> decide
  have link (mode : LinkMode) : mode.name.toList.all (0x20 ≤ ·.toNat) = true := by
    cases mode <;> decide
  have label : config.label.toList.all (0x20 ≤ ·.toNat) = true := by
    simp only [Config.label, toString, String.toList_append, List.all_append, host, target, link]
    decide
  simpa using List.all_eq_true.mp label c mem

theorem newline_notMem_label (config : Config) : '\n' ∉ config.label.toList :=
  fun mem => absurd (blank_le_of_mem_label mem) (by decide)

/-- Of the report a summary determines all but the payload of a NaN, and of the path what is
displayed. -/
theorem summary_inj {report report' : Report} {output output' : Path}
    (oneLine : '\n' ∉ report.label.toList) (oneLine' : '\n' ∉ report'.label.toList)
    (same : Span.renderAll false (report.summary output) =
      Span.renderAll false (report'.summary output')) :
    report.label = report'.label ∧ output.display = output'.display ∧
      report.maxKb = report'.maxKb ∧ report.runs = report'.runs ∧
      (report.averageSeconds = report'.averageSeconds ∨
        report.averageSeconds.isNaN ∧ report'.averageSeconds.isNaN) := by
  have lines := congrArg String.toList same
  rw [toList_summary, toList_summary] at lines
  obtain ⟨sameLabel, samePath, time, peak, runs⟩ := shownLines_inj oneLine oneLine' lines
  have natural {n m : Nat}
      (equal : (MetricValue.integer n).display = (MetricValue.integer m).display) : n = m := by
    rcases MetricValue.display_inj equal with same | ⟨_, _, is, -⟩
    · exact MetricValue.integer.inj same
    · cases is
  refine ⟨sameLabel, samePath, natural peak, natural runs, ?_⟩
  rcases MetricValue.display_inj time with same | ⟨x, y, is, is', nan, nan'⟩
  · exact .inl (MetricValue.float.inj same)
  · cases is
    cases is'
    exact .inr ⟨nan, nan'⟩

end Report

/-- A path that is written in UTF-8 is displayed as its text. -/
theorem Path.display_ofString (text : String) : (Path.ofString text).display = text :=
  Utf8.decode_encode text

namespace Report

/-- Of the report a summary determines all but the payload of a NaN, and of the path what is
displayed; that is the whole path if it is written in UTF-8. Only the label has to be on one line,
as those of configurations are. The number of trials stands on the lines of both metrics, and all
that is shown of the report is found in its document too. -/
theorem summary_tells :
    (∀ (report report' : Report) (output output' : Path),
      '\n' ∉ report.label.toList → '\n' ∉ report'.label.toList →
      Span.renderAll false (report.summary output) =
        Span.renderAll false (report'.summary output') →
      report.label = report'.label ∧ output.display = output'.display ∧
        report.maxKb = report'.maxKb ∧ report.runs = report'.runs ∧
        (report.averageSeconds = report'.averageSeconds ∨
          report.averageSeconds.isNaN ∧ report'.averageSeconds.isNaN) ∧
        ∀ text text', output = .ofString text → output' = .ofString text' → output = output') ∧
    (∀ config : Config, '\n' ∉ config.label.toList) ∧
    ∀ (report : Report) (output : Path), ∃ (time peak runs : String) (average : Json)
        (m n : Numeral),
      (Span.renderAll false (report.summary output)).toList =
        textOf (shownLines report.label output.display time peak runs) ∧
      Json.read? report.document = some (.array [
        .object [("name", .text timeMetric), ("unit", .text "second"), ("value", average),
          ("runs", .number n), ("config", .text report.label)],
        .object [("name", .text memoryMetric), ("unit", .text "KBytes"), ("value", .number m),
          ("runs", .number n), ("config", .text report.label)]]) ∧
      Numeral.read? peak.toList = some (m, []) ∧ m.natural? = some report.maxKb ∧
      Numeral.read? runs.toList = some (n, []) ∧ n.natural? = some report.runs ∧
      (report.averageSeconds.isFinite →
        Binary64.read? time = some report.averageSeconds ∧
        ∃ numeral, average = .number numeral ∧ numeral.value = report.averageSeconds) := by
  refine ⟨fun report report' output output' oneLine oneLine' same => ?_, newline_notMem_label,
    fun report output => ?_⟩
  · obtain ⟨label, path, peak, runs, time⟩ := summary_inj oneLine oneLine' same
    refine ⟨label, path, peak, runs, time, ?_⟩
    rintro text text' rfl rfl
    rw [Path.display_ofString, Path.display_ofString] at path
    exact congrArg Path.ofString path
  · refine ⟨_, _, _, _, _, _, toList_summary report output, read?_document report,
      MetricValue.read?_display (.integer report.maxKb), Numeral.natural?_ofNat _,
      MetricValue.read?_display (.integer report.runs), Numeral.natural?_ofNat _,
      fun finite => ⟨?_, _, if_pos finite, NumeralStyle.value_numeral finite⟩⟩
    rw [Binary64.read?, MetricValue.display, NumeralStyle.read?_write (.inl rfl) finite]
    exact congrArg some (NumeralStyle.value_numeral finite)

/-- Reports whose means are different NaNs have the same summary, although the path looks like
another label with another path. -/
theorem summary_tells_nan :
    let report : Report := ⟨.nan, 7, 3, "gcc"⟩
    let report' : Report := ⟨⟨true, Binary64.infinityCode + 1, by decide⟩, 7, 3, "gcc"⟩
    let output := Path.ofString "a\nConfig     : clang\nOutput file: b"
    report ≠ report' ∧ '\n' ∉ report.label.toList ∧
      Span.renderAll false (report.summary output) =
        Span.renderAll false (report'.summary output) ∧
      report.averageSeconds ≠ report'.averageSeconds ∧
      report.averageSeconds.isNaN ∧ report'.averageSeconds.isNaN := by
  intro report report' output
  have oneLine : '\n' ∉ report.label.toList := by decide
  have shown : (MetricValue.float report.averageSeconds).display =
      (MetricValue.float report'.averageSeconds).display := by decide
  have same : Span.renderAll false (report.summary output) =
      Span.renderAll false (report'.summary output) := by
    rw [← String.toList_inj, toList_summary, toList_summary, shown]
  obtain ⟨-, -, -, -, average, -⟩ :=
    summary_tells.1 report report' output output oneLine oneLine same
  have different : report.averageSeconds ≠ report'.averageSeconds := by decide
  exact ⟨fun equal => different (congrArg averageSeconds equal), oneLine, same, different,
    average.resolve_left different⟩

end Report

end ColdBuild
