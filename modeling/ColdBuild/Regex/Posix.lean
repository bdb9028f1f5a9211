import ColdBuild.Regex.Captures
import ColdBuild.Regex.Syntax

/-!
# The two older syntaxes of regular expressions

In the basic syntax brackets, braces, bars and the signs of repetition have a meaning only behind
a backslash, and an anchor only at an end of a branch. In the extended syntax it is the other way
round. Lists in brackets are the same in both: there a backslash stands for itself, unless the
program that uses the expression says otherwise.
-/

namespace ColdBuild.Regex.Posix

structure Style where
  extended : Bool := false
  /-- The case of ASCII letters does not matter. -/
  folded : Bool := false
  /-- A backslash before some letters is a control character, in lists as well. -/
  controls : Bool := false
  /-- Anchors hold at the ends of lines too. -/
  lines : Bool := false
  deriving DecidableEq, Repr

inductive Problem where
  | unmatchedList
  | unmatchedOpening
  | unmatchedClosing
  | unmatchedBrace
  | invalidRepetition
  | invalidCount
  | invalidRange
  | invalidClass
  | invalidReference
  | trailingBackslash
  deriving DecidableEq, Repr

def Problem.message : Problem → String
  | .unmatchedList => "Unmatched [, [^, [:, [., or [="
  | .unmatchedOpening => "Unmatched ( or \\("
  | .unmatchedClosing => "Unmatched ) or \\)"
  | .unmatchedBrace => "Unmatched \\\x7b"
  | .invalidRepetition => "Invalid preceding regular expression"
  | .invalidCount => "Invalid content of \\\x7b\\\x7d"
  | .invalidRange => "Invalid range end"
  | .invalidClass => "Invalid character class name"
  | .invalidReference => "Invalid back reference"
  | .trailingBackslash => "Trailing backslash"

def lastCode : Nat := 255

/-- The control character that a letter behind a backslash stands for. -/
def control? (c : Char) : Option Char :=
  match c with
  | 'n' => some '\n'
  | 't' => some '\t'
  | 'f' => some '\x0c'
  | 'v' => some '\x0b'
  | 'r' => some '\r'
  | 'a' => some '\x07'
  | _ => none

def wordRanges : Ranges := [(0x30, 0x39), (0x41, 0x5A), (0x5F, 0x5F), (0x61, 0x7A)]

def spaceRanges : Ranges := [(9, 13), (32, 32)]

/-- Reads one element of a list: its code, or the codes of a class. -/
def element (style : Style) (chars : List Char) : Except Problem (Ranges × Bool × List Char) :=
  match chars with
  | '[' :: ':' :: rest =>
    let name := rest.takeWhile (· ≠ ':')
    match rest.drop name.length with
    | ':' :: ']' :: behind =>
      match AsciiClass.ofName? (String.ofList name) with
      | some kind => .ok (kind.ranges, true, behind)
      | none => .error .invalidClass
    | _ => .error .unmatchedList
  | '[' :: mark :: c :: close :: ']' :: rest =>
    if (mark = '.' || mark = '=') && close = mark then .ok ([(c.toNat, c.toNat)], mark = '=', rest)
    else .ok ([(0x5B, 0x5B)], false, chars.drop 1)
  | '\\' :: c :: rest =>
    match if style.controls then control? c else none with
    | some d => .ok ([(d.toNat, d.toNat)], false, rest)
    | none => .ok ([(0x5C, 0x5C)], false, c :: rest)
  | c :: rest => .ok ([(c.toNat, c.toNat)], false, rest)
  | [] => .error .unmatchedList

/-- Reads a list in brackets, behind the opening one. -/
def list (style : Style) : (fuel : Nat) → (first : Bool) → Ranges → List Char →
    Except Problem (Ranges × List Char)
  | 0, _, _, _ => .error .unmatchedList
  | fuel + 1, first, found, chars => do
    match chars with
    | [] => throw .unmatchedList
    | ']' :: rest =>
      if !first then return (found, rest)
      else match rest with
        | '-' :: last :: behind =>
          if last = ']' then list style fuel false ((0x5D, 0x5D) :: found) rest
          else if last.toNat < 0x5D then throw .invalidRange
          else list style fuel false ((0x5D, last.toNat) :: found) behind
        | _ => list style fuel false ((0x5D, 0x5D) :: found) rest
    | chars =>
      let (ranges, isClass, rest) ← element style chars
      match isClass, ranges, rest with
      | false, [(first, _)], '-' :: next :: behind =>
        if next = ']' then list style fuel false (ranges ++ found) rest
        else
          let (ends, endIsClass, rest) ← element style (next :: behind)
          match endIsClass, ends with
          | false, [(last, _)] =>
            if last < first then throw .invalidRange
            else list style fuel false ((first, last) :: found) rest
          | _, _ => throw .invalidRange
      | _, _, _ => list style fuel false (ranges ++ found) rest

def within (style : Style) (negated : Bool) (ranges : Ranges) : Expression Symbol :=
  let ranges := if style.folded then ranges.foldAscii else ranges.ordered
  .atom (.plain (.within (if negated then ranges.complement lastCode else ranges)))

def charOnly (style : Style) (c : Char) : Expression Symbol := within style false [(c.toNat, c.toNat)]

def place (kind : PlaceKind) : Expression Symbol := .atom (.plain (.place kind))

/-- Reads counts in braces, behind the opening one. -/
def counts? (style : Style) (chars : List Char) : Option ((Nat × Option Nat) × List Char) :=
  let first := chars.takeWhile Char.isDigit
  let behind := chars.drop first.length
  let least := Nat.ofDigitChars 10 first 0
  let closing (chars : List Char) : Option (List Char) :=
    match style.extended, chars with
    | true, '\x7d' :: rest => some rest
    | false, '\\' :: '\x7d' :: rest => some rest
    | _, _ => none
  match behind with
  | ',' :: rest =>
    let second := rest.takeWhile Char.isDigit
    let most := if second.isEmpty then none else some (Nat.ofDigitChars 10 second 0)
    (closing (rest.drop second.length)).bind fun behind =>
      if most.any (· < least) then none else some ((least, most), behind)
  | _ =>
    if first.isEmpty then none
    else (closing behind).map fun rest => ((least, some least), rest)

/-- What is being read of an expression: the branches of the group it is in, and the parts of the
branch, the last ones first. -/
structure Level where
  branches : List (Expression Symbol) := []
  parts : List (Expression Symbol) := []
  /-- The number of the group. -/
  group : Nat := 0

namespace Level

def branch (level : Level) : Expression Symbol :=
  match level.parts with
  | [] => .empty
  | last :: rest => rest.foldl (fun behind part => .concat part behind) last

def whole (level : Level) : Expression Symbol :=
  level.branches.foldl (fun later earlier => .either earlier later) level.branch

end Level

/-- A part of the pattern and what it is. -/
inductive Lexeme where
  | opening
  | closing
  | bar
  | star
  | plus
  | optional
  | brace
  | startAnchor
  | endAnchor
  | escaped (c : Char)
  | plain (c : Char)
  deriving DecidableEq, Repr

def lexeme? (style : Style) (chars : List Char) : Except Problem (Option (Lexeme × List Char)) :=
  match style.extended, chars with
  | _, [] => .ok none
  | _, ['\\'] => .error .trailingBackslash
  | false, '\\' :: c :: rest => .ok (some (match c with
    | '(' => .opening
    | ')' => .closing
    | '|' => .bar
    | '+' => .plus
    | '?' => .optional
    | '\x7b' => .brace
    | c => .escaped c, rest))
  | true, '\\' :: c :: rest => .ok (some (.escaped c, rest))
  | extended, c :: rest => .ok (some (match extended, c with
    | _, '*' => .star
    | _, '^' => .startAnchor
    | _, '$' => .endAnchor
    | true, '(' => .opening
    | true, ')' => .closing
    | true, '|' => .bar
    | true, '+' => .plus
    | true, '?' => .optional
    | true, '\x7b' => .brace
    | _, c => .plain c, rest))

/-- What a character behind a backslash stands for. -/
def escapeMeaning (style : Style) (closed : List Nat) (c : Char) :
    Except Problem (Expression Symbol) :=
  match c with
  | 'w' => .ok (within style false wordRanges)
  | 'W' => .ok (within style true wordRanges)
  | 's' => .ok (within style false spaceRanges)
  | 'S' => .ok (within style true spaceRanges)
  | 'b' => .ok (place .wordBoundary)
  | 'B' => .ok (place .notWordBoundary)
  | '<' => .ok (place .wordStart)
  | '>' => .ok (place .wordEnd)
  | '\'' => .ok (place .stop)
  | c =>
    if c = Char.ofNat 96 then .ok (place .start)
    else if '1' ≤ c && c ≤ '9' then
      let n := c.toNat - '0'.toNat
      if closed.contains n then .ok (.atom (.back n)) else .error .invalidReference
    else match if style.controls then control? c else none with
      | some d => .ok (charOnly style d)
      | none => .ok (charOnly style c)

/-- Whether an end anchor of the basic syntax stands at the end of a branch. -/
def endsBranch (chars : List Char) : Bool :=
  match chars with
  | [] | '\\' :: ')' :: _ | '\\' :: '|' :: _ => true
  | _ => false

structure Progress where
  level : Level := {}
  outer : List Level := []
  groups : Nat := 0
  closed : List Nat := []

namespace Progress

def add (progress : Progress) (part : Expression Symbol) : Progress :=
  { progress with level := { progress.level with parts := part :: progress.level.parts } }

def repeatLast (progress : Progress) (least : Nat) (most : Option Nat) : Progress :=
  match progress.level.parts with
  | last :: rest =>
    { progress with level := { progress.level with parts := .times least most last :: rest } }
  | [] => progress

/-- A sign of repetition has nothing before it that could be repeated. -/
def isAtStart (progress : Progress) : Bool :=
  match progress.level.parts with
  | [] => true
  | [.atom (.plain (.place .start))] | [.atom (.plain (.place .lineStart))] => true
  | _ => false

end Progress

def read (style : Style) : (fuel : Nat) → Progress → List Char →
    Except Problem (Expression Symbol)
  | 0, _, _ => .error .trailingBackslash
  | fuel + 1, progress, chars => do
    let start := place (if style.lines then .lineStart else .start)
    let stop := place (if style.lines then .lineEnd else .stop)
    match ← lexeme? style chars with
    | none =>
      if progress.outer.isEmpty then return progress.level.whole else throw .unmatchedOpening
    | some (lexeme, rest) =>
      let literal (c : Char) : Except Problem (Expression Symbol) :=
        read style fuel (progress.add (charOnly style c)) rest
      let repetition (c : Char) (least : Nat) (most : Option Nat) :
          Except Problem (Expression Symbol) :=
        if progress.isAtStart then
          if style.extended then
            if progress.level.parts.isEmpty then read style fuel progress rest else literal c
          else literal c
        else read style fuel (progress.repeatLast least most) rest
      match lexeme with
      | .opening =>
        let n := progress.groups + 1
        read style fuel { progress with
          level := { group := n }, outer := progress.level :: progress.outer, groups := n } rest
      | .closing =>
        match progress.outer with
        | [] => throw .unmatchedClosing
        | level :: outer =>
          let n := progress.level.group
          let body : Expression Symbol := .captured n progress.level.whole
          read style fuel { progress with
            level := { level with parts := body :: level.parts }, outer
            closed := n :: progress.closed } rest
      | .bar =>
        let level := progress.level
        read style fuel { progress with
          level := { level with branches := level.branch :: level.branches, parts := [] } } rest
      | .star => repetition '*' 0 none
      | .plus => repetition '+' 1 none
      | .optional => repetition '?' 0 (some 1)
      | .brace =>
        match counts? style rest with
        | some ((least, most), behind) =>
          if progress.isAtStart then
            if style.extended then literal '\x7b' else throw .invalidRepetition
          else read style fuel (progress.repeatLast least most) behind
        | none =>
          if style.extended then literal '\x7b'
          else throw (if rest.contains '\x7d' then .invalidCount else .unmatchedBrace)
      | .startAnchor =>
        if style.extended || progress.level.parts.isEmpty then
          read style fuel (progress.add start) rest
        else literal '^'
      | .endAnchor =>
        if style.extended || endsBranch rest then read style fuel (progress.add stop) rest
        else literal '$'
      | .escaped c =>
        read style fuel (progress.add (← escapeMeaning style progress.closed c)) rest
      | .plain '.' =>
        read style fuel (progress.add (.atom (.plain (.within [(0, lastCode)])))) rest
      | .plain '[' =>
        let negated := rest.head? = some '^'
        let inside := if negated then rest.drop 1 else rest
        let (ranges, behind) ← list style (inside.length + 1) true [] inside
        read style fuel (progress.add (within style negated ranges)) behind
      | .plain c => literal c

def compile (style : Style) (pattern : String) : Except Problem (Expression Symbol) :=
  read style (pattern.length + 1) {} pattern.toList

/-- A text that stands for itself. -/
def literal (style : Style) (text : String) : Expression Symbol :=
  text.toList.foldr (fun c behind => .concat (charOnly style c) behind) .empty

end ColdBuild.Regex.Posix
