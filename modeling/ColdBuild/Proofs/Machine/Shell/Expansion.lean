import ColdBuild.Machine.Shell.Expansion
import ColdBuild.Proofs.Machine.Shell.Pattern
import Mathlib.Data.List.Basic

/-!
# What words are expanded into

Cutting marks into fields takes away the separators and nothing else (`Mark.flatten_fields`), and if
all separators are blanks, no field is empty unless something in quotes began it
(`Mark.ne_nil_of_mem_fields`). A word that has been quoted as a whole is one field, which is its own
text (`State.expandFields_quoted`): nothing in it is substituted, separated or taken as a pattern.
-/
namespace ColdBuild.Shell

namespace Mark

variable {separators : List Char} {place : Place} {field : List Glyph} {marks : List Mark}

/-- The glyph that a mark leaves in a field, unless it is a separator. -/
def kept? (separators : List Char) : Mark → Option Glyph
  | .char c quoted splits => if splits && separators.contains c then none else some ⟨c, quoted⟩
  | .started | .ended => none

theorem flatten_finished (h : place = .inside ∨ field = []) :
    (place.finished field).flatten = field.reverse := by
  obtain rfl | rfl := h
  · simp [Place.finished]
  · cases place <;> rfl

theorem flatten_separated (h : place = .inside ∨ field = []) :
    (place.separated field).flatten = field.reverse := by
  obtain rfl | rfl := h
  · simp [Place.separated]
  · cases place <;> rfl

theorem flatten_fieldsFrom (h : place = .inside ∨ field = []) :
    (fieldsFrom separators place field marks).flatten =
      field.reverse ++ marks.filterMap (kept? separators) := by
  induction marks generalizing place field with
  | nil => simp [fieldsFrom, flatten_finished h]
  | cons mark marks ih =>
    rw [List.filterMap_cons]
    cases mark with
    | char c quoted splits =>
      rw [fieldsFrom]
      by_cases hsplits : (splits && separators.contains c) = true
      · have hnone : kept? separators (.char c quoted splits) = none := if_pos hsplits
        rw [hnone, hsplits, if_neg (by decide)]
        split
        · rw [List.flatten_append, flatten_finished h, ih (.inr rfl)]
          rfl
        · rw [List.flatten_append, flatten_separated h, ih (.inr rfl)]
          rfl
      · have hsome : kept? separators (.char c quoted splits) = some ⟨c, quoted⟩ := if_neg hsplits
        rw [hsome, Bool.eq_false_iff.mpr hsplits, if_pos (by decide), ih (.inl rfl)]
        simp
    | started => exact ih (.inl rfl)
    | ended =>
      rw [fieldsFrom, List.flatten_append, flatten_finished h, ih (.inr rfl)]
      rfl

/-- Only separators are taken away. -/
theorem flatten_fields : (fields separators marks).flatten = marks.filterMap (kept? separators) :=
  flatten_fieldsFrom (.inr rfl)

theorem ne_nil_of_mem_finished (hplace : place = .inside → field ≠ []) {found : List Glyph}
    (h : found ∈ place.finished field) : found ≠ [] := by
  cases place with
  | inside =>
    rw [List.mem_singleton.mp h]
    simpa using hplace rfl
  | outside => cases h
  | behindBlanks => cases h

theorem ne_nil_of_mem_fieldsFrom (hblank : ∀ c ∈ separators, c = ' ' ∨ c = '\t' ∨ c = '\n')
    (hmarks : .started ∉ marks) (hplace : place = .inside → field ≠ []) {found : List Glyph}
    (h : found ∈ fieldsFrom separators place field marks) : found ≠ [] := by
  induction marks generalizing place field with
  | nil => exact ne_nil_of_mem_finished hplace h
  | cons mark marks ih =>
    rw [List.mem_cons, not_or] at hmarks
    cases mark with
    | char c quoted splits =>
      rw [fieldsFrom] at h
      split at h
      · exact ih hmarks.2 (by simp) h
      · next hsplits =>
        have hmem : c ∈ separators := by
          simp at hsplits
          exact hsplits.2
        rw [if_pos (by simpa [or_assoc] using hblank c hmem), List.mem_append] at h
        obtain h | h := h
        · exact ne_nil_of_mem_finished hplace h
        · exact ih hmarks.2 (by cases place <;> simp [Place.behindBlank]) h
    | started => exact absurd rfl hmarks.1
    | ended =>
      rw [fieldsFrom, List.mem_append] at h
      obtain h | h := h
      · exact ne_nil_of_mem_finished hplace h
      · exact ih hmarks.2 (by simp) h

/-- Blanks leave no empty field. -/
theorem ne_nil_of_mem_fields (hblank : ∀ c ∈ separators, c = ' ' ∨ c = '\t' ∨ c = '\n')
    (hmarks : .started ∉ marks) {found : List Glyph} (h : found ∈ fields separators marks) :
    found ≠ [] := by
  rw [fields] at h
  exact ne_nil_of_mem_fieldsFrom hblank hmarks (by simp) h

end Mark

/-! ## Expanding what has been quoted -/

section

variable (run : Runner) (s : State) (chars : List Char)

theorem Mark.fieldsFrom_quoted (separators : List Char) (field : List Glyph) :
    fieldsFrom separators .inside field (chars.map (.char · true false)) =
      [field.reverse ++ chars.map (⟨·, true⟩)] := by
  induction chars generalizing field with
  | nil => simp [fieldsFrom, Place.finished]
  | cons c chars ih =>
    rw [List.map_cons, fieldsFrom]
    simp [ih]

namespace State

variable {s} (going : s.departure = none)

include going

theorem expandPieces_quoted (mode : ExpansionMode) (front : Bool) :
    expandPieces run mode front [.text chars true] s =
      (.started :: chars.map (.char · true false), s) := by
  simp [expandPieces, expandPiece, going, Mark.ofText]

theorem expandText_quoted (mode : ExpansionMode) :
    expandText run mode [.text chars true] s = (String.ofList chars, s) := by
  rw [expandText, expandPieces_quoted run chars going]
  simp [Mark.text, Mark.glyphs, Function.comp_def]

/-- A quoted text is one argument, even if it is empty, and nothing in it has a meaning. -/
theorem expandFields_quoted :
    expandFields run [.text chars true] s = ([String.ofList chars], s) := by
  have hfields (separators : List Char) :
      Mark.fields separators (.started :: chars.map (.char · true false)) =
        [chars.map (⟨·, true⟩)] := by
    rw [Mark.fields, Mark.fieldsFrom]
    exact Mark.fieldsFrom_quoted chars separators []
  have hplain : Pattern.isActive (chars.map (⟨·, true⟩)) = false := by
    apply Pattern.not_isActive_of_quoted
    simp
  rw [expandFields, expandPieces_quoted run chars going]
  simp [hfields, fieldTexts, hplain, Function.comp_def]

end State

end

end ColdBuild.Shell
