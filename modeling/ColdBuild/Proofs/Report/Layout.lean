import ColdBuild.Proofs.Report.Document
import Mathlib.Data.List.Forall2

/-!
# The layout of the stored document

No line of the document holds a control character, whatever stands in the label and whatever the
mean is (`Report.printable_line`). So the line feeds of the document are those that end its lines,
and taking the document apart at them gives these lines again (`splitOn_textOf`). The label is
written character by character (`Quoted.forall₂_isForm`), on two lines, and no other line depends on
it (`Report.getElem?_parts_ne_iff`).
-/
namespace ColdBuild

/-- There is no control character below U+0020 in the text. -/
def printable (chars : List Char) : Bool := chars.all fun c => 0x20 ≤ c.toNat

theorem printable_iff {chars : List Char} :
    printable chars = true ↔ ∀ c ∈ chars, ¬ c.toNat < 0x20 := by
  simp only [printable, List.all_eq_true, decide_eq_true_eq, Nat.not_lt]

theorem lineFeed_notMem {chars : List Char} (h : printable chars = true) : '\n' ∉ chars :=
  fun mem => printable_iff.mp h '\n' mem (by decide)

theorem printable_append (a b : List Char) :
    printable (a ++ b) = (printable a && printable b) := List.all_append

theorem printable_cons (c : Char) (chars : List Char) :
    printable (c :: chars) = (decide (0x20 ≤ c.toNat) && printable chars) := List.all_cons

theorem printable_chars {n : Numeral} {plus : String} (wellFormed : n.WellFormed)
    (isPlus : Numeral.IsPlus plus) : printable (n.chars plus) = true := by
  refine printable_iff.mpr fun c mem => Nat.not_lt.mpr ?_
  rcases Numeral.mem_chars_cases wellFormed mem with digit | rfl | rfl | rfl | sign
  · exact (by decide : 0x20 ≤ '0'.toNat).trans (Char.isDigit_iff_toNat.mp digit).1
  · decide
  · decide
  · decide
  · rcases isPlus with rfl | rfl
    · cases sign
    · obtain rfl : c = '+' := by simpa using sign
      decide

/-- The texts between line feeds: those that one ends, and what stands behind the last. -/
def atLineFeeds (text : String) : List (List Char) := text.toList.splitOn '\n'

/-- Lines without line feeds are found again, and nothing stands behind the last. -/
theorem splitOn_textOf {lines : List String}
    (whole : ∀ line ∈ lines, printable line.toList = true) :
    (textOf lines).splitOn '\n' = lines.map String.toList ++ [[]] := by
  induction lines with
  | nil => rfl
  | cons line rest ih =>
    have noFeed : ∀ c ∈ line.toList, (c == '\n') = false := by
      intro c mem
      rw [beq_eq_false_iff_ne]
      rintro rfl
      exact lineFeed_notMem (whole line List.mem_cons_self) mem
    have others := ih fun line mem => whole line (List.mem_cons_of_mem _ mem)
    rw [List.splitOn_eq_splitOnP] at others ⊢
    rw [textOf, List.flatMap_cons, ← textOf, List.append_assoc, List.singleton_append,
      List.splitOnP_append_cons_of_forall_mem noFeed '\n' rfl, others, List.map_cons,
      List.cons_append]

/-- There are as many line feeds as lines. -/
theorem count_textOf {lines : List String}
    (whole : ∀ line ∈ lines, printable line.toList = true) :
    (textOf lines).count '\n' = lines.length := by
  induction lines with
  | nil => rfl
  | cons line rest ih =>
    have none := List.count_eq_zero.mpr (lineFeed_notMem (whole line List.mem_cons_self))
    have others := ih fun line mem => whole line (List.mem_cons_of_mem _ mem)
    rw [textOf, List.flatMap_cons, ← textOf, List.count_append, List.count_append, none, others,
      List.count_singleton_self, List.length_cons]
    omega

/-- All other characters of lines are printable. -/
theorem eq_lineFeed_of_mem_textOf {lines : List String}
    (whole : ∀ line ∈ lines, printable line.toList = true) {c : Char} (mem : c ∈ textOf lines)
    (control : c.toNat < 0x20) : c = '\n' := by
  obtain ⟨line, isLine, mem⟩ := List.mem_flatMap.mp mem
  rcases List.mem_append.mp mem with inside | feed
  · exact absurd control (printable_iff.mp (whole line isLine) c inside)
  · exact List.mem_singleton.mp feed

namespace Quoted

/-- The character has to be escaped between two quotes. -/
def IsSpecial (c : Char) : Prop := c = '"' ∨ c = '\\' ∨ c.toNat < 0x20

/-- The form stands for the character: an escape if it is special, and otherwise itself. -/
structure IsForm (c : Char) (form : List Char) : Prop where
  escaped : IsSpecial c → ∃ code, form = '\\' :: code
  unchanged : ¬ IsSpecial c → form = [c]

theorem isForm_escape (c : Char) : IsForm c (escape c) := by
  by_cases special : IsSpecial c
  · refine ⟨fun _ => ?_, fun plain => absurd special plain⟩
    unfold escape
    iterate 7
      split
      · exact ⟨_, rfl⟩
    split
    · exact ⟨_, rfl⟩
    · next noQuote noEscape _ _ _ _ _ large =>
      rcases special with quote | backslash | control
      · exact absurd quote noQuote
      · exact absurd backslash noEscape
      · exact absurd control large
  · refine ⟨fun special' => absurd special' special, fun _ => ?_⟩
    simp only [IsSpecial, not_or] at special
    obtain ⟨noQuote, noEscape, large⟩ := special
    have other {d : Char} (control : d.toNat < 0x20) : c ≠ d := by
      rintro rfl
      exact large control
    rw [escape, if_neg noQuote, if_neg noEscape, if_neg (other (by decide)),
      if_neg (other (by decide)), if_neg (other (by decide)), if_neg (other (by decide)),
      if_neg (other (by decide)), if_neg large]

/-- A text is written character by character. -/
theorem forall₂_isForm (text : List Char) :
    ∃ forms, encode text = forms.flatten ∧ List.Forall₂ IsForm text forms :=
  ⟨text.map escape, List.flatMap_def, by
    rw [List.forall₂_map_right_iff, List.forall₂_same]
    exact fun c _ => isForm_escape c⟩

theorem printable_escape (c : Char) : printable (escape c) = true := by
  have codes : ∀ code < 0x20, printable (escapeCode code) = true := by decide
  unfold escape
  iterate 7
    split
    · rfl
  split
  · next control => exact codes _ control
  · next large => simpa [printable] using large

theorem printable_quote (text : String) : printable (quote text).toList = true := by
  have encoded : printable (encode text.toList) = true := by
    rw [encode, printable, List.all_flatMap, List.all_eq_true]
    exact fun c _ => printable_escape c
  rw [quote, String.toList_ofList, List.cons_append, printable_cons, printable_append, encoded]
  rfl

theorem encode_inj {a b : List Char} : encode a = encode b ↔ a = b := by
  refine ⟨fun same => ?_, congrArg encode⟩
  have read := read?_encode a []
  rw [same, read?_encode b []] at read
  cases read
  rfl

end Quoted

/-- The text of a stored value is one line. -/
theorem MetricValue.printable_json (value : MetricValue) : printable value.json.toList = true := by
  cases value with
  | integer n =>
    rw [json, ← Numeral.chars_ofNat ""]
    exact printable_chars (Numeral.wellFormed_ofNat n) (.inl rfl)
  | float x =>
    rw [json]
    cases finite : x.isFinite with
    | true =>
      rw [NumeralStyle.toList_write _ finite]
      exact printable_chars (NumeralStyle.wellFormed_numeral finite) (.inr rfl)
    | false =>
      rw [NumeralStyle.json_write_of_not_finite finite]
      rfl

namespace MetricEntry

theorem printable_fieldLine {field : String × String} (last : Bool)
    (value : printable field.2.toList = true) :
    printable (fieldLine field last).toList = true := by
  have indent : printable "        ".toList = true := rfl
  have colon : printable ": ".toList = true := rfl
  cases last <;>
    simp only [fieldLine, String.toList_append, printable_append, indent, colon, value,
      Quoted.printable_quote] <;>
    rfl

/-- Every line of an object's fields is the line of one of them. -/
theorem exists_of_mem_fieldLines {fields : List (String × String)} {line : String}
    (mem : line ∈ fieldLines fields) : ∃ field ∈ fields, ∃ last, line = fieldLine field last := by
  induction fields using fieldLines.induct with
  | case1 => cases mem
  | case2 field => exact ⟨field, List.mem_cons_self, true, List.mem_singleton.mp mem⟩
  | case3 field rest nonempty ih =>
    rw [fieldLines] at mem
    swap
    · exact nonempty
    rcases List.mem_cons.mp mem with rfl | mem
    · exact ⟨field, List.mem_cons_self, false, rfl⟩
    · obtain ⟨other, isField, last, is⟩ := ih mem
      exact ⟨other, List.mem_cons_of_mem _ isField, last, is⟩

theorem printable_fields (entry : MetricEntry) :
    ∀ field ∈ entry.fields, printable field.2.toList = true := by
  simp only [fields, List.forall_mem_cons]
  exact ⟨Quoted.printable_quote _, Quoted.printable_quote _, entry.value.printable_json,
    (MetricValue.integer entry.runs).printable_json, Quoted.printable_quote _, nofun⟩

theorem printable_lines {entry : MetricEntry} {last : Bool} {line : String}
    (mem : line ∈ entry.lines last) : printable line.toList = true := by
  rw [lines, List.cons_append, List.mem_cons, List.mem_append, List.mem_singleton] at mem
  rcases mem with rfl | mem | rfl
  · rfl
  · obtain ⟨field, isField, last, rfl⟩ := exists_of_mem_fieldLines mem
    exact printable_fieldLine last (entry.printable_fields field isField)
  · cases last <;> rfl

end MetricEntry

namespace Report

theorem printable_line {report : Report} {line : String} (mem : line ∈ report.documentLines) :
    printable line.toList = true := by
  simp only [documentLines, List.cons_append, List.append_assoc, List.mem_cons, List.mem_append,
    List.not_mem_nil, or_false] at mem
  rcases mem with rfl | time | memory | rfl
  · rfl
  · exact MetricEntry.printable_lines time
  · exact MetricEntry.printable_lines memory
  · rfl

/-- The line of a label, as it is written between its quotes. -/
def configLine (written : String) : String := s!"        \"config\": \"{written}\""

/-- The sixteen lines of a document, for a label as it is written between its quotes. -/
def layout (report : Report) (written : String) : List String :=
  ["[",
    "    \x7b",
    "        \"name\": \"Average Execution Time\",",
    "        \"unit\": \"second\",",
    s!"        \"value\": {report.timeEntry.value.json},",
    s!"        \"runs\": {report.runs},",
    configLine written,
    "    \x7d,",
    "    \x7b",
    "        \"name\": \"Maximum Resident Set Size\",",
    "        \"unit\": \"KBytes\",",
    s!"        \"value\": {report.maxKb},",
    s!"        \"runs\": {report.runs},",
    configLine written,
    "    \x7d",
    "]"]

theorem fieldLine_config (label : String) :
    MetricEntry.fieldLine ("config", Quoted.quote label) true =
      configLine (String.ofList (Quoted.encode label.toList)) := by
  have key : "        " ++ Quoted.quote "config" ++ ": " ++ "\"" = "        \"config\": \"" := by
    decide
  have quoted : Quoted.quote label =
      "\"" ++ String.ofList (Quoted.encode label.toList) ++ "\"" := by
    simp [← String.toList_inj, Quoted.quote]
  rw [MetricEntry.fieldLine, quoted, if_pos rfl, String.append_empty, ← String.append_assoc,
    ← String.append_assoc, key]
  rfl

theorem documentLines_eq (report : Report) :
    report.documentLines = report.layout (String.ofList (Quoted.encode report.label.toList)) := by
  have name : MetricEntry.fieldLine ("name", Quoted.quote timeMetric) false =
      "        \"name\": \"Average Execution Time\"," := by decide
  have name' : MetricEntry.fieldLine ("name", Quoted.quote memoryMetric) false =
      "        \"name\": \"Maximum Resident Set Size\"," := by decide
  have unit : MetricEntry.fieldLine ("unit", Quoted.quote "second") false =
      "        \"unit\": \"second\"," := by decide
  have unit' : MetricEntry.fieldLine ("unit", Quoted.quote "KBytes") false =
      "        \"unit\": \"KBytes\"," := by decide
  have start : "        " ++ Quoted.quote "value" ++ ": " = "        \"value\": " := by decide
  have value (text : String) : MetricEntry.fieldLine ("value", text) false =
      "        \"value\": " ++ text ++ "," := by
    rw [MetricEntry.fieldLine, start]
    rfl
  have start' : "        " ++ Quoted.quote "runs" ++ ": " = "        \"runs\": " := by decide
  have runs (text : String) : MetricEntry.fieldLine ("runs", text) false =
      "        \"runs\": " ++ text ++ "," := by
    rw [MetricEntry.fieldLine, start']
    rfl
  have brace : "    \x7d" ++ "," = "    \x7d," := by decide
  have brace' : "    \x7d" ++ "" = "    \x7d" := by decide
  simp only [documentLines, MetricEntry.lines, MetricEntry.fields, timeEntry, memoryEntry,
    MetricEntry.fieldLines, fieldLine_config, name, name', unit, unit', value, runs, brace, brace',
    if_true, Bool.false_eq_true, if_false]
  rfl

theorem configLine_inj {a b : String} : configLine a = configLine b ↔ a = b := by
  have text (label : String) : configLine label = "        \"config\": \"" ++ label ++ "\"" := rfl
  rw [text, text, String.append_left_inj, String.append_right_inj]

/-- The lines as they are found between line feeds, with nothing behind the last. -/
def parts (report : Report) (written : String) : List (List Char) :=
  (report.layout written).map String.toList ++ [[]]

/-- Only the two lines of the label depend on it. -/
theorem getElem?_parts_ne_iff (report : Report) {a b : String} {i : Nat} :
    (report.parts a)[i]? ≠ (report.parts b)[i]? ↔ a ≠ b ∧ (i = 6 ∨ i = 13) := by
  have other : report.parts a =
      ((report.parts b).set 6 (configLine a).toList).set 13 (configLine a).toList := rfl
  rcases eq_or_ne i 13 with rfl | notSecond
  · have second (a : String) : (report.parts a)[13]? = some (configLine a).toList := rfl
    rw [second, second, ne_eq, Option.some_inj, String.toList_inj, configLine_inj,
      and_iff_left (.inr rfl)]
  rcases eq_or_ne i 6 with rfl | notFirst
  · have first (a : String) : (report.parts a)[6]? = some (configLine a).toList := rfl
    rw [first, first, ne_eq, Option.some_inj, String.toList_inj, configLine_inj,
      and_iff_left (.inl rfl)]
  · rw [other, List.getElem?_set_ne notSecond.symm, List.getElem?_set_ne notFirst.symm]
    exact ⟨fun different => absurd rfl different,
      fun label => (label.2.elim notFirst notSecond).elim⟩

theorem atLineFeeds_document (report : Report) :
    atLineFeeds report.document =
      report.parts (String.ofList (Quoted.encode report.label.toList)) := by
  rw [atLineFeeds, toList_document, splitOn_textOf fun _ => printable_line, documentLines_eq, parts]

/-- The document of every report is sixteen lines, each ended by a line feed, with the same keys in
the same places. Nothing in the report can add a line or any other control character, and what the
document says stays well formed. In the label, which stands on two lines, only quotes, backslashes
and control characters are escaped, and every other line is the same for every label. -/
theorem document_layout :
    (∀ report : Report, ∃ written : String,
      atLineFeeds report.document = (report.layout written).map String.toList ++ [[]] ∧
      (report.layout written).length = 16 ∧ report.document.toList.count '\n' = 16 ∧
      (∀ c ∈ report.document.toList, c.toNat < 0x20 → c = '\n') ∧
      (∃ forms, written.toList = forms.flatten ∧
        List.Forall₂ Quoted.IsForm report.label.toList forms) ∧
      (Json.read? report.document).isSome) ∧
    ∀ (report : Report) (label : String) (i : Nat),
      (atLineFeeds ({ report with label } : Report).document)[i]? ≠
          (atLineFeeds report.document)[i]? ↔
        label ≠ report.label ∧ (i = 6 ∨ i = 13) := by
  constructor
  · intro report
    refine ⟨String.ofList (Quoted.encode report.label.toList), ?_, rfl, ?_, ?_, ?_, ?_⟩
    · exact atLineFeeds_document report
    · rw [toList_document, count_textOf fun _ => printable_line, length_documentLines]
    · rw [toList_document]
      exact fun c => eq_lineFeed_of_mem_textOf fun _ => printable_line
    · obtain ⟨forms, is, related⟩ := Quoted.forall₂_isForm report.label.toList
      exact ⟨forms, String.toList_ofList.trans is, related⟩
    · rw [read?_document]
      rfl
  · intro report label i
    have written : String.ofList (Quoted.encode label.toList) =
        String.ofList (Quoted.encode report.label.toList) ↔ label = report.label := by
      rw [String.ofList_inj, Quoted.encode_inj, String.toList_inj]
    rw [atLineFeeds_document, atLineFeeds_document, ne_eq label, ← written]
    exact report.getElem?_parts_ne_iff

end Report

end ColdBuild
