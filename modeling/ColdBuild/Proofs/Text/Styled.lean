import ColdBuild.Text.Styled
import Mathlib.Algebra.Group.Nat.Even
import Mathlib.Data.List.Basic

/-!
# Escape sequences in styled text

A terminal text is a row of marks: characters that are shown, and sequences from an escape character
up to the next `m`. Leaving the sequences out is what `Span.withoutEscapes` does. Spans whose texts
hold no escape character can be told apart from the sequences around them: the marks of coloured
spans are those of the single spans (`Span.marks_renderAll`), so the characters that are shown are
those of the text without colour, and the sequences stand in pairs on one line each.
-/
namespace ColdBuild

/-- What stands in a terminal text: a character, or a sequence from an escape character up to the
next `m`. -/
inductive Mark where
  | shown (c : Char)
  | sequence (chars : List Char)
  deriving DecidableEq, Repr

namespace Mark

def shown? : Mark → Option Char
  | .shown c => some c
  | .sequence _ => none

def isSequence : Mark → Bool
  | .shown _ => false
  | .sequence _ => true

def plain (text : String) : List Mark := text.toList.map shown

def around (emphasis : Emphasis) (text : String) : List Mark :=
  .sequence emphasis.opening.toList :: (plain text ++ [.sequence emphasis.closing.toList])

/-- The marks of a text in order. What was read of a sequence that is open is `begun`. -/
def read : (begun : Option (List Char)) → List Char → List Mark
  | none, [] => []
  | some begun, [] => [.sequence begun]
  | none, c :: rest => if c = '\x1b' then read (some [c]) rest else .shown c :: read none rest
  | some begun, c :: rest =>
    if c = 'm' then .sequence (begun ++ [c]) :: read none rest else read (some (begun ++ [c])) rest

theorem filterMap_plain (text : String) : (plain text).filterMap shown? = text.toList := by
  rw [plain, List.filterMap_map]
  exact List.filterMap_some

theorem countP_plain (text : String) : (plain text).countP isSequence = 0 := by
  rw [plain, List.countP_map, List.countP_eq_zero]
  intro c _ sequence
  cases sequence

/-- The characters that are shown are what is left without the sequences. -/
theorem filterMap_read (chars : List Char) :
    (read none chars).filterMap shown? = Span.withoutEscapes false chars ∧
      ∀ begun, (read (some begun) chars).filterMap shown? = Span.withoutEscapes true chars := by
  induction chars with
  | nil => exact ⟨rfl, fun _ => rfl⟩
  | cons c rest ih =>
    constructor
    · rw [read, Span.withoutEscapes, if_neg Bool.false_ne_true]
      split
      · exact ih.2 [c]
      · rw [List.filterMap_cons, ← ih.1]
        rfl
    · intro begun
      rw [read, Span.withoutEscapes, if_pos rfl]
      split
      · next last =>
        rw [decide_eq_false (not_not.mpr last), List.filterMap_cons, ← ih.1]
        rfl
      · next more =>
        rw [decide_eq_true more]
        exact ih.2 _

/-- Text without an escape character is read as it stands. -/
theorem read_plain {text : String} (noEscape : '\x1b' ∉ text.toList) (rest : List Char) :
    read none (text.toList ++ rest) = plain text ++ read none rest := by
  unfold plain
  generalize text.toList = chars at noEscape
  induction chars with
  | nil => rfl
  | cons c chars ih =>
    obtain ⟨other, noEscape⟩ := not_or.mp (List.mem_cons.not.mp noEscape)
    rw [List.cons_append, read, if_neg (Ne.symm other), ih noEscape]
    rfl

end Mark

/-- One sequence: an escape character, and all that follows it up to the first `m`. -/
def IsSequence (chars : List Char) : Prop :=
  ∃ body, chars = '\x1b' :: (body ++ ['m']) ∧ 'm' ∉ body

/-- An open sequence is read to its end. -/
theorem Mark.read_body {body : List Char} (more : 'm' ∉ body) (begun rest : List Char) :
    read (some begun) (body ++ 'm' :: rest) =
      .sequence (begun ++ body ++ ['m']) :: read none rest := by
  induction body generalizing begun with
  | nil => rw [List.nil_append, List.append_nil, read, if_pos rfl]
  | cons c body ih =>
    obtain ⟨other, more⟩ := not_or.mp (List.mem_cons.not.mp more)
    rw [List.cons_append, read, if_neg (Ne.symm other), ih more, List.append_assoc begun [c],
      List.singleton_append]

theorem IsSequence.read {chars : List Char} (isSequence : IsSequence chars) (rest : List Char) :
    Mark.read none (chars ++ rest) = .sequence chars :: Mark.read none rest := by
  obtain ⟨body, rfl, more⟩ := isSequence
  rw [List.cons_append, Mark.read, if_pos rfl, List.append_assoc, List.singleton_append,
    Mark.read_body more]
  rfl

namespace Emphasis

/-- Every emphasis ends with one sequence. -/
theorem isSequence_closing (emphasis : Emphasis) : IsSequence emphasis.closing.toList := by
  cases emphasis
  case cyan | green => exact ⟨['[', '3', '9'], rfl, by simp⟩
  all_goals exact ⟨['[', '0'], rfl, by simp⟩

end Emphasis

/-- Emphasised texts stand on one line each, with one sequence before and one after it. -/
inductive Paired : List Mark → Prop where
  | nil : Paired []
  | shown (c : Char) {rest : List Mark} (tail : Paired rest) : Paired (.shown c :: rest)
  | around (emphasis : Emphasis) {text : String} (oneLine : '\n' ∉ text.toList) {rest : List Mark}
      (tail : Paired rest) : Paired (Mark.around emphasis text ++ rest)

namespace Paired

theorem plain (text : String) {rest : List Mark} (tail : Paired rest) :
    Paired (Mark.plain text ++ rest) := by
  unfold Mark.plain
  induction text.toList with
  | nil => exact tail
  | cons c chars ih => exact .shown c ih

/-- Pairs make an even number of sequences. -/
theorem even {marks : List Mark} (paired : Paired marks) : Even (marks.countP Mark.isSequence) := by
  induction paired with
  | nil => exact .zero
  | shown c tail ih => exact ih
  | around emphasis oneLine tail ih =>
    rw [List.countP_append, Mark.around, List.countP_cons, List.countP_append, Mark.countP_plain]
    exact Even.add ⟨1, rfl⟩ ih

end Paired

namespace Span

/-- The span is not mistaken for a sequence. If it is emphasised, then by one sequence, and on one
line. -/
structure IsClean (span : Span) : Prop where
  noEscape : '\x1b' ∉ span.text.toList
  single : ∀ emphasis ∈ span.emphasis, IsSequence emphasis.opening.toList
  oneLine : span.emphasis.isSome → '\n' ∉ span.text.toList

def marks (span : Span) : List Mark :=
  match span.emphasis with
  | none => Mark.plain span.text
  | some emphasis => Mark.around emphasis span.text

theorem filterMap_marks (span : Span) : span.marks.filterMap Mark.shown? = span.text.toList := by
  unfold marks
  cases span.emphasis with
  | none => exact Mark.filterMap_plain span.text
  | some emphasis =>
    simp only [Mark.around, List.filterMap_cons, List.filterMap_append, Mark.filterMap_plain]
    exact List.append_nil _

theorem read_render {span : Span} (clean : span.IsClean) (rest : List Char) :
    Mark.read none ((span.render true).toList ++ rest) = span.marks ++ Mark.read none rest := by
  obtain ⟨emphasis, text⟩ := span
  cases emphasis with
  | none => exact Mark.read_plain clean.noEscape rest
  | some emphasis =>
    have opening := clean.single emphasis rfl
    simp only [render, marks, Mark.around, String.toList_append, List.append_assoc,
      List.cons_append, List.nil_append]
    rw [opening.read, Mark.read_plain clean.noEscape, emphasis.isSequence_closing.read]

/-- Coloured spans are read one by one. -/
theorem read_renderAll {spans : List Span} (clean : ∀ span ∈ spans, span.IsClean)
    (rest : List Char) : Mark.read none ((renderAll true spans).toList ++ rest) =
      spans.flatMap marks ++ Mark.read none rest := by
  rw [renderAll, String.toList_join]
  induction spans with
  | nil => rfl
  | cons span spans ih =>
    obtain ⟨first, others⟩ := List.forall_mem_cons.mp clean
    rw [List.map_cons, List.flatMap_cons, List.flatMap_cons, List.append_assoc, List.append_assoc,
      read_render first, ih others]

theorem marks_renderAll {spans : List Span} (clean : ∀ span ∈ spans, span.IsClean) :
    Mark.read none (renderAll true spans).toList = spans.flatMap marks := by
  simpa [Mark.read] using read_renderAll clean []

/-- Without the sequences a coloured text is the text without colour, also in front of more. -/
theorem withoutEscapes_renderAll {spans : List Span} (clean : ∀ span ∈ spans, span.IsClean)
    (rest : List Char) : withoutEscapes false ((renderAll true spans).toList ++ rest) =
      (renderAll false spans).toList ++ withoutEscapes false rest := by
  rw [← (Mark.filterMap_read _).1, read_renderAll clean, List.filterMap_append,
    (Mark.filterMap_read rest).1, renderAll, String.toList_join, List.filterMap_flatMap,
    List.flatMap_map]
  simp only [filterMap_marks, render_false]

theorem withoutEscapes_plain {text : String} (noEscape : '\x1b' ∉ text.toList) (rest : List Char) :
    withoutEscapes false (text.toList ++ rest) = text.toList ++ withoutEscapes false rest := by
  rw [← (Mark.filterMap_read _).1, Mark.read_plain noEscape, List.filterMap_append,
    (Mark.filterMap_read rest).1, Mark.filterMap_plain]

theorem paired_marks {spans : List Span} (clean : ∀ span ∈ spans, span.IsClean) :
    Paired (spans.flatMap marks) := by
  induction spans with
  | nil => exact .nil
  | cons span spans ih =>
    obtain ⟨first, others⟩ := List.forall_mem_cons.mp clean
    obtain ⟨emphasis, text⟩ := span
    cases emphasis with
    | none => exact (ih others).plain text
    | some emphasis => exact .around emphasis (first.oneLine rfl) (ih others)

end Span

end ColdBuild
