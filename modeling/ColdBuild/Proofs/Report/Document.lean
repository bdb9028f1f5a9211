import ColdBuild.Report.Document
import ColdBuild.Proofs.Decimal.Numeral
import ColdBuild.Proofs.Json
import Mathlib.Data.Set.Operations

/-!
# The stored document is read back

Every line of a field is read as a member of its object (`MetricEntry.members?_fieldLines`), both
objects as the items of the array, and so the document of any report is read as the metrics that it
stores (`read?_document`), whatever stands in the label. Nothing is lost if the mean is finite
(`document_inj`); otherwise only the mean is. `document_reads_back` says this without mentioning how
a value is written: all that counts is what a reader of the document finds.
-/
namespace ColdBuild

open Json (Reads skipSpace members? value? items?)

def textOf (lines : List String) : List Char := lines.flatMap fun line => line.toList ++ ['\n']

theorem length_le_textOf (lines : List String) : lines.length ≤ (textOf lines).length := by
  induction lines with
  | nil => exact Nat.le_refl 0
  | cons line lines ih =>
    rw [textOf, List.flatMap_cons, ← textOf]
    simp only [List.length_append, List.length_cons, List.length_nil]
    omega

namespace MetricValue

/-- What a value is read back as. -/
def stored : MetricValue → Json
  | .float x => if x.isFinite then .number (NumeralStyle.json.numeral x) else .null
  | .integer n => .number (.ofNat n)

theorem reads_stored (value : MetricValue) : Reads value.json.toList value.stored := by
  cases value with
  | integer n => exact Json.reads_natural n
  | float x =>
    rw [json, stored]
    cases finite : x.isFinite with
    | true =>
      rw [NumeralStyle.toList_write _ finite, if_pos rfl]
      exact Json.reads_numeral (NumeralStyle.wellFormed_numeral finite) (.inr rfl)
    | false =>
      rw [NumeralStyle.json_write_of_not_finite finite]
      exact Json.reads_null

end MetricValue

namespace MetricEntry

/-- The field is read as the member. -/
def IsField (field : String × String) (member : String × Json) : Prop :=
  field.1 = member.1 ∧ Reads field.2.toList member.2

/-- Fields on their lines are the members of an object, up to its closing brace. -/
theorem members?_fieldLines (fuel : Nat) {fields : List (String × String)}
    {members : List (String × Json)} (related : List.Forall₂ IsField fields members)
    (nonempty : fields ≠ []) {close rest : List Char} (closing : skipSpace close = '\x7d' :: rest) :
    members? (fuel + fields.length + 1)
      (skipSpace (textOf (fieldLines fields) ++ close)) = some (members, rest) := by
  induction related with
  | nil => exact absurd rfl nonempty
  | @cons field member fields members is others ih =>
    obtain ⟨key, text⟩ := field
    obtain ⟨_, value⟩ := member
    obtain ⟨rfl, reads⟩ := is
    have indent (more : List Char) :
        skipSpace ("        ".toList ++ ((Quoted.quote key).toList ++ more)) =
          (Quoted.quote key).toList ++ more := by
      rw [Json.skipSpace_append (by decide), (Json.reads_quote key).skipSpace]
    cases others with
    | nil =>
      have line : textOf (fieldLines [(key, text)]) ++ close =
          "        ".toList ++ ((Quoted.quote key).toList ++ ':' :: ' ' ::
            (text.toList ++ '\n' :: close)) := by
        simp [textOf, fieldLines, fieldLine]
      rw [line, indent]
      exact Json.members?_last reads (Json.ends_newline close) closing
    | @cons next member' fields members is' others =>
      have line : textOf (fieldLines ((key, text) :: next :: fields)) ++ close =
          "        ".toList ++ ((Quoted.quote key).toList ++ ':' :: ' ' ::
            (text.toList ++ ',' :: '\n' ::
              (textOf (fieldLines (next :: fields)) ++ close))) := by
        simp [textOf, fieldLines, fieldLine]
      rw [line, indent]
      exact Json.members?_comma reads (Json.ends_comma _) rfl (ih (List.cons_ne_nil _ _))

/-- The members that an entry is read back as. -/
def members (entry : MetricEntry) : List (String × Json) :=
  [("name", .text entry.name),
    ("unit", .text entry.unit),
    ("value", entry.value.stored),
    ("runs", .number (.ofNat entry.runs)),
    ("config", .text entry.config)]

/-- An entry is read back, up to the comma behind it. -/
theorem value?_lines (fuel : Nat) (entry : MetricEntry) (last : Bool) (rest : List Char) :
    value? (fuel + 7) (skipSpace (textOf (entry.lines last) ++ rest)) =
      some (.object entry.members, (if last then [] else [',']) ++ '\n' :: rest) := by
  have related : List.Forall₂ IsField entry.fields entry.members :=
    .cons ⟨rfl, Json.reads_quote _⟩ <| .cons ⟨rfl, Json.reads_quote _⟩ <|
      .cons ⟨rfl, entry.value.reads_stored⟩ <| .cons ⟨rfl, Json.reads_natural _⟩ <|
        .cons ⟨rfl, Json.reads_quote _⟩ .nil
  obtain ⟨behind, behind_eq⟩ :
      ∃ behind, behind = (if last then [] else [',']) ++ '\n' :: rest := ⟨_, rfl⟩
  have closing : skipSpace ("    \x7d".toList ++ behind) = '\x7d' :: behind := rfl
  have read := members?_fieldLines fuel related (List.cons_ne_nil _ _) closing
  have text : textOf (entry.lines last) ++ rest = "    ".toList ++ '\x7b' :: '\n' ::
      (textOf (fieldLines entry.fields) ++ ("    \x7d".toList ++ behind)) := by
    cases last <;> simp [textOf, lines, behind_eq]
  have brace (more : List Char) : skipSpace ('\x7b' :: more) = '\x7b' :: more := rfl
  rw [text, Json.skipSpace_append (by decide), brace, ← behind_eq]
  refine Json.value?_object ?_
  rw [Json.skipSpace_newline]
  exact read

end MetricEntry

namespace Report

/-- What the document of a report is read back as. -/
def stored (report : Report) : Json :=
  .array (report.entries.map fun entry => .object entry.members)

theorem toList_document (report : Report) :
    report.document.toList = textOf report.documentLines := by
  simp [document, textOf, String.toList_join, List.flatMap_map]

/-- The document of any report is read back. -/
theorem read?_document (report : Report) : Json.read? report.document = some report.stored := by
  obtain ⟨fuel, size⟩ : ∃ fuel, report.document.length + 1 = fuel + 10 := by
    have lines := length_le_textOf report.documentLines
    rw [length_documentLines, ← toList_document, String.length_toList] at lines
    exact ⟨report.document.length - 9, by omega⟩
  have text : report.document.toList = '[' :: '\n' :: (textOf (report.timeEntry.lines false) ++
      (textOf (report.memoryEntry.lines true) ++ "]\n".toList)) := by
    rw [toList_document, documentLines]
    simp [textOf]
  have time := report.timeEntry.value?_lines (fuel + 1) false
    (textOf (report.memoryEntry.lines true) ++ "]\n".toList)
  have memory := report.memoryEntry.value?_lines fuel true "]\n".toList
  have items : items? (fuel + 9) (skipSpace ('\n' :: (textOf (report.timeEntry.lines false) ++
      (textOf (report.memoryEntry.lines true) ++ "]\n".toList)))) =
      some ([.object report.timeEntry.members, .object report.memoryEntry.members], ['\n']) :=
    Json.items?_comma time rfl (Json.items?_last memory rfl)
  have bracket (more : List Char) : skipSpace ('[' :: more) = '[' :: more := rfl
  rw [Json.read?, size, text, bracket, Json.value?_array items]
  rfl

/-- Different reports have different documents, if their means are finite. -/
theorem document_inj {report report' : Report} (finite : report.averageSeconds.isFinite)
    (finite' : report'.averageSeconds.isFinite) (same : report.document = report'.document) :
    report = report' := by
  have read : some report.stored = some report'.stored := by
    rw [← read?_document, ← read?_document, same]
  simp only [stored, entries, timeEntry, memoryEntry, MetricEntry.members, MetricValue.stored,
    finite, finite', if_true, List.map_cons, List.map_nil, Option.some.injEq, Json.array.injEq,
    Json.object.injEq, Json.number.injEq, Json.text.injEq, List.cons.injEq, Prod.mk.injEq, true_and,
    and_true] at read
  obtain ⟨⟨average, runs, label⟩, peak, -, -⟩ := read
  cases report
  cases report'
  congr
  · exact NumeralStyle.numeral_inj finite finite' average
  · exact Numeral.ofNat_inj peak
  · exact Numeral.ofNat_inj runs

/-- Without a finite mean only the line of its value is another. -/
theorem documentLines_of_not_finite {report : Report} (other : Binary64)
    (infinite : report.averageSeconds.isFinite = false) :
    report.documentLines = ({ report with averageSeconds := other } : Report).documentLines.set 4
      "        \"value\": null," := by
  have line : MetricEntry.fieldLine ("value", NumeralStyle.json.write report.averageSeconds) false =
      "        \"value\": null," := by
    rw [NumeralStyle.json_write_of_not_finite infinite]
    decide
  rw [← line]
  rfl

/-- A reader finds two metrics with five members each, the number of trials and the label in both.
The mean is found bit for bit, by any reader that rounds to the nearest number, and is never taken
for an integer; the peak is found as digits alone. So different reports have different documents.
A mean that is no number or infinite is `null`, and nothing else changes. -/
theorem document_reads_back :
    (∀ report : Report, ∃ (average : Json) (peak runs : Numeral),
      Json.read? report.document = some (.array [
        .object [("name", .text timeMetric), ("unit", .text "second"), ("value", average),
          ("runs", .number runs), ("config", .text report.label)],
        .object [("name", .text memoryMetric), ("unit", .text "KBytes"), ("value", .number peak),
          ("runs", .number runs), ("config", .text report.label)]]) ∧
      peak.natural? = some report.maxKb ∧ runs.natural? = some report.runs ∧
      if report.averageSeconds.isFinite then
        ∃ numeral, average = .number numeral ∧ numeral.value = report.averageSeconds ∧
          Binary64.IsNearest (numeral.magnitude.toRat * Binary64.one) report.averageSeconds.code ∧
          (numeral.fraction.isSome ∨ numeral.exponent.isSome)
      else average = .null) ∧
    Set.InjOn document {report | report.averageSeconds.isFinite} ∧
    ∀ (report : Report) (other : Binary64), report.averageSeconds.isFinite = false →
      report.documentLines =
        ({ report with averageSeconds := other } : Report).documentLines.set 4
          "        \"value\": null," := by
  refine ⟨fun report => ⟨_, _, _, read?_document report, Numeral.natural?_ofNat _,
      Numeral.natural?_ofNat _, ?_⟩,
    fun _ finite _ finite' same => document_inj finite finite' same,
    fun _ other infinite => documentLines_of_not_finite other infinite⟩
  split
  · next finite =>
    exact ⟨NumeralStyle.json.numeral report.averageSeconds, if_pos finite,
      NumeralStyle.value_numeral finite, NumeralStyle.isNearest_numeral finite,
      NumeralStyle.isSome_numeral _ _⟩
  · next infinite => exact if_neg infinite

end Report

end ColdBuild
