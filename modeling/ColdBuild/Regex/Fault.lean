/-!
# What can be wrong with a regular expression

A fault has a kind and the extent of the pattern that it concerns; two kinds of repetition also
name an earlier extent. A report shows the pattern with the extents marked under it. A pattern of
several lines is shown with its lines numbered between two rules.
-/

namespace ColdBuild.Regex

/-- A place in a pattern: how many characters are before it, its line and its column. -/
structure Position where
  index : Nat := 0
  line : Nat := 1
  column : Nat := 1
  deriving DecidableEq, Repr

def Position.after (position : Position) (c : Char) : Position :=
  if c = '\n' then ⟨position.index + 1, position.line + 1, 1⟩
  else ⟨position.index + 1, position.line, position.column + 1⟩

structure Extent where
  start : Position
  stop : Position
  deriving DecidableEq, Repr

def Position.extent (position : Position) : Extent := ⟨position, position⟩

inductive FaultKind where
  | classEscapeInvalid
  | classRangeInvalid
  | classRangeLiteral
  | classUnclosed
  | decimalEmpty
  | decimalInvalid
  | escapeHexEmpty
  | escapeHexInvalid
  | escapeHexInvalidDigit
  | escapeUnexpectedEnd
  | escapeUnrecognized
  | flagDanglingNegation
  | flagDuplicate
  | flagRepeatedNegation
  | flagUnexpectedEnd
  | flagUnrecognized
  | groupNameDuplicate
  | groupNameEmpty
  | groupNameInvalid
  | groupNameUnexpectedEnd
  | groupUnclosed
  | groupUnopened
  | nestLimitExceeded (limit : Nat)
  | repetitionCountInvalid
  | repetitionCountEmpty
  | repetitionCountUnclosed
  | repetitionMissing
  | specialBoundaryUnclosed
  | specialBoundaryUnrecognized
  | specialBoundaryUnexpectedEnd
  | propertyInvalid
  | backreference
  | lookAround
  | unicodeNotAllowed
  | invalidUtf8
  | propertyNotFound
  | propertyValueNotFound
  | perlClassNotFound
  | caseFoldingUnavailable
  deriving DecidableEq, Repr

def FaultKind.message : FaultKind → String
  | .classEscapeInvalid => "invalid escape sequence found in character class"
  | .classRangeInvalid => "invalid character class range, the start must be <= the end"
  | .classRangeLiteral => "invalid range boundary, must be a literal"
  | .classUnclosed => "unclosed character class"
  | .decimalEmpty => "decimal literal empty"
  | .decimalInvalid => "decimal literal invalid"
  | .escapeHexEmpty => "hexadecimal literal empty"
  | .escapeHexInvalid => "hexadecimal literal is not a Unicode scalar value"
  | .escapeHexInvalidDigit => "invalid hexadecimal digit"
  | .escapeUnexpectedEnd =>
    "incomplete escape sequence, reached end of pattern prematurely"
  | .escapeUnrecognized => "unrecognized escape sequence"
  | .flagDanglingNegation => "dangling flag negation operator"
  | .flagDuplicate => "duplicate flag"
  | .flagRepeatedNegation => "flag negation operator repeated"
  | .flagUnexpectedEnd => "expected flag but got end of regex"
  | .flagUnrecognized => "unrecognized flag"
  | .groupNameDuplicate => "duplicate capture group name"
  | .groupNameEmpty => "empty capture group name"
  | .groupNameInvalid => "invalid capture group character"
  | .groupNameUnexpectedEnd => "unclosed capture group name"
  | .groupUnclosed => "unclosed group"
  | .groupUnopened => "unopened group"
  | .nestLimitExceeded limit =>
    s!"exceed the maximum number of nested parentheses/brackets ({limit})"
  | .repetitionCountInvalid =>
    "invalid repetition count range, the start must be <= the end"
  | .repetitionCountEmpty => "repetition quantifier expects a valid decimal"
  | .repetitionCountUnclosed => "unclosed counted repetition"
  | .repetitionMissing => "repetition operator missing expression"
  | .specialBoundaryUnclosed =>
    "special word boundary assertion is either unclosed or contains an invalid character"
  | .specialBoundaryUnrecognized =>
    "unrecognized special word boundary assertion, valid choices are: start, end, " ++
      "start-half or end-half"
  | .specialBoundaryUnexpectedEnd =>
    "found either the beginning of a special word boundary or a bounded repetition on a \\b " ++
      "with an opening brace, but no closing brace"
  | .propertyInvalid => "invalid Unicode character class"
  | .backreference => "backreferences are not supported"
  | .lookAround => "look-around, including look-ahead and look-behind, is not supported"
  | .unicodeNotAllowed => "Unicode not allowed here"
  | .invalidUtf8 => "pattern can match invalid UTF-8"
  | .propertyNotFound => "Unicode property not found"
  | .propertyValueNotFound => "Unicode property value not found"
  | .perlClassNotFound =>
    "Unicode-aware Perl class not found (make sure the unicode-perl feature is enabled)"
  | .caseFoldingUnavailable =>
    "Unicode-aware case insensitivity matching is not available (make sure the unicode-case " ++
      "feature is enabled)"

structure Fault where
  kind : FaultKind
  extent : Extent
  /-- What the extent repeats, where repeating it is the fault. -/
  earlier : Option Extent := none
  deriving DecidableEq, Repr

namespace Fault

/-- The lines of a pattern; one that is empty and last is none. -/
def lines (pattern : List Char) : List (List Char) :=
  let parts := pattern.splitOn '\n'
  let parts := if parts.getLast? = some [] then parts.dropLast else parts
  parts.map fun line => if line.getLast? = some '\r' then line.dropLast else line

/-- Extents of one line from left to right. -/
def ordered (extents : List Extent) : List Extent :=
  extents.mergeSort fun a b => a.start.index < b.start.index ||
    (a.start.index = b.start.index && a.stop.index ≤ b.stop.index)

/-- The marks under a line, each at least one character wide. -/
def marks (extents : List Extent) : List Char :=
  (ordered extents).foldl (fun line extent =>
    line ++ List.replicate (extent.start.column - 1 - line.length) ' ' ++
      List.replicate (max 1 (extent.stop.column - extent.start.column)) '^') []

/-- The pattern with the fault marked in it, and what the fault is. -/
def report (pattern : String) (fault : Fault) : String :=
  let pattern := pattern.toList
  let shown := lines pattern
  let count := shown.length + (if pattern.getLast? = some '\n' then 1 else 0)
  let width := if count ≤ 1 then 0 else (toString count).length
  let extents := fault.extent :: fault.earlier.toList
  let short := extents.filter fun extent => extent.start.line = extent.stop.line
  let long := ordered (extents.filter fun extent => extent.start.line ≠ extent.stop.line)
  let blanks (n : Nat) : String := String.ofList (List.replicate n ' ')
  let numbered := shown.zipIdx.map fun (line, i) =>
    let number := toString (i + 1)
    let head := if width = 0 then blanks 4 else blanks (width - number.length) ++ number ++ ": "
    let here := short.filter (·.start.line = i + 1)
    let under := if here.isEmpty then ""
      else blanks (if width = 0 then 4 else 2 + width) ++ String.ofList (marks here) ++ "\n"
    head ++ String.ofList line ++ "\n" ++ under
  let rule := if pattern.contains '\n' then String.ofList (List.replicate 79 '~') ++ "\n" else ""
  let notes := long.map fun extent =>
    s!"on line {extent.start.line} (column {extent.start.column}) through line " ++
      s!"{extent.stop.line} (column {extent.stop.column - 1})"
  let notes := if notes.isEmpty then "" else "\n".intercalate notes ++ "\n"
  "regex parse error:\n" ++ rule ++ String.join numbered ++ rule ++ notes ++
    s!"error: {fault.kind.message}"

end Fault

end ColdBuild.Regex
