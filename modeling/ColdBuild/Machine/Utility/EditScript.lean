import ColdBuild.Machine.Format
import ColdBuild.Regex.Posix

/-!
# Scripts of the stream editor

A script is a list of commands, each for the lines that its addresses select. Commands in braces
stand between an opening and a closing one. Commands end at a line end, most of them also at a
semicolon; the text that some insert ends at a line end without a backslash before it.
-/

namespace ColdBuild.Edit

open ColdBuild.Regex (Expression Symbol)

/-- Which lines an address selects. -/
inductive Address where
  | line (number : Nat)
  | last
  /-- Without an expression, the one that was used last. -/
  | expression (expression : Option (Expression Symbol))
  | step (first step : Nat)
  | zero

/-- Where a range of lines ends. -/
inductive RangeEnd where
  | address (address : Address)
  | further (count : Nat)
  | multiple (count : Nat)

/-- How the letters of what follows are changed. -/
inductive CaseChange where
  | upper
  | lower
  | upperNext
  | lowerNext
  | none
  deriving DecidableEq, Repr

/-- A part of a replacement. -/
inductive ReplacementPart where
  | text (text : String)
  | group (number : Nat)
  | change (change : CaseChange)
  deriving DecidableEq, Repr

structure Substitution where
  expression : Option (Expression Symbol)
  replacement : List ReplacementPart
  everywhere : Bool := false
  /-- The first match that is replaced. -/
  first : Nat := 1
  printed : Bool := false
  file : Option String := none

inductive Action where
  | opening
  | closing
  | append (text : String)
  | insert (text : String)
  | change (text : String)
  | branch (label : String)
  /-- Only if something has been replaced, or only if not. -/
  | branchIf (replaced : Bool) (label : String)
  | label (label : String)
  | delete
  | deleteFirst
  | print
  | printFirst
  | list (width : Option Nat)
  | next
  | appendNext
  | number
  | quit (status : Nat) (silent : Bool)
  | hold (append : Bool)
  | get (append : Bool)
  | exchange
  | empty
  | fileName
  | substitute (substitution : Substitution)
  | translate (table : List (Char × Char))
  | read (file : String)
  | readLine (file : String)
  | write (file : String) (firstLine : Bool)
  | nothing

structure Instruction where
  first : Option Address := none
  last : Option RangeEnd := none
  negated : Bool := false
  action : Action

/-- How expressions of a script are read. -/
abbrev Style := Regex.Posix.Style

/-- Why a script cannot be used. -/
abbrev Problem := String

def named (name : String) : String := String.ofList [Char.ofNat 96] ++ name ++ "'"

def isBlank (c : Char) : Bool := c = ' ' || c = '\t'

/-- Reads a list of an expression behind its opening bracket, up to the one that closes it. -/
def bracketed : (fuel : Nat) → List Char → Option (List Char × List Char)
  | 0, _ | _, [] => none
  | fuel + 1, '[' :: mark :: rest => do
    let isNamed := mark = ':' || mark = '.' || mark = '='
    let name := rest.takeWhile (· ≠ mark)
    let behind := rest.drop name.length
    if isNamed && behind.take 2 = [mark, ']'] then
      let (text, behind) ← bracketed fuel (behind.drop 2)
      return ('[' :: mark :: name ++ mark :: ']' :: text, behind)
    else
      let (text, behind) ← bracketed fuel (mark :: rest)
      return ('[' :: text, behind)
  | _, ']' :: rest => some ([']'], rest)
  | fuel + 1, c :: rest => do
    let (text, behind) ← bracketed fuel rest
    return (c :: text, behind)

/-- Reads up to a delimiter, which does not count in a list of an expression. A backslash keeps
what comes behind it from being one, and is kept unless it stood before a delimiter. -/
def delimited (delimiter : Char) (regex : Bool) : (fuel : Nat) → List Char →
    Option (List Char × List Char)
  | 0, _ | _, [] => none
  | fuel + 1, '\\' :: c :: rest => do
    let (text, behind) ← delimited delimiter regex fuel rest
    if c = delimiter then return (c :: text, behind)
    else return ('\\' :: c :: text, behind)
  | fuel + 1, c :: rest =>
    if c = delimiter then some ([], rest)
    else if regex && c = '[' then do
      let negation := rest.takeWhile (· = '^') |>.take 1
      let rest := rest.drop negation.length
      let closing := rest.takeWhile (· = ']') |>.take 1
      let (list, behind) ← bracketed fuel (rest.drop closing.length)
      let (text, behind) ← delimited delimiter regex fuel behind
      return (c :: negation ++ closing ++ list ++ text, behind)
    else do
      let (text, behind) ← delimited delimiter regex fuel rest
      return (c :: text, behind)

/-- Reads the expression of a text; an empty one is the one that was used last. -/
def expression? (style : Style) (text : List Char) : Except Problem (Option (Expression Symbol)) :=
  if text.isEmpty then .ok none
  else match Regex.Posix.compile style (String.ofList text) with
    | .ok expression => .ok (some expression)
    | .error problem => .error problem.message

def number (chars : List Char) : Nat × List Char :=
  let digits := chars.takeWhile Char.isDigit
  (Nat.ofDigitChars 10 digits 0, chars.drop digits.length)

def address (style : Style) (chars : List Char) : Except Problem (Option Address × List Char) :=
  let expression (delimiter : Char) (rest : List Char) :
      Except Problem (Option Address × List Char) :=
    match delimited delimiter true (rest.length + 1) rest with
    | none => .error "unterminated address regex"
    | some (text, rest) => do
      let flags := rest.takeWhile fun c => c = 'I' || c = 'M'
      let style := { style with folded := flags.contains 'I', lines := flags.contains 'M' }
      return (some (.expression (← expression? style text)), rest.drop flags.length)
  match chars with
  | '$' :: rest => .ok (some .last, rest)
  | '/' :: rest => expression '/' rest
  | '\\' :: delimiter :: rest => expression delimiter rest
  | c :: _ =>
    if c.isDigit then
      let (n, rest) := number chars
      match rest with
      | '~' :: rest =>
        let (step, rest) := number rest
        .ok (some (.step n step), rest)
      | rest => .ok (some (if n = 0 then .zero else .line n), rest)
    else .ok (none, chars)
  | [] => .ok (none, chars)

def rangeEnd (style : Style) (chars : List Char) : Except Problem (RangeEnd × List Char) :=
  match chars with
  | '+' :: rest =>
    let (n, rest) := number rest
    .ok (.further n, rest)
  | '~' :: rest =>
    let (n, rest) := number rest
    .ok (.multiple n, rest)
  | _ => do
    match ← address style chars with
    | (some address, rest) => return (.address address, rest)
    | (none, _) => throw ("unexpected " ++ named ",")

/-- What stands behind a backslash in a text: the characters it means, and the rest. -/
def escaped : List Char → List Char × List Char
  | 'a' :: rest => (['\x07'], rest)
  | 'f' :: rest => (['\x0c'], rest)
  | 'n' :: rest => (['\n'], rest)
  | 'r' :: rest => (['\r'], rest)
  | 't' :: rest => (['\t'], rest)
  | 'v' :: rest => (['\x0b'], rest)
  | 'x' :: rest =>
    match Format.hexadecimal? rest with
    | some (c, rest) => ([c], rest)
    | none => (['x'], rest)
  | c :: rest => ([c], rest)
  | [] => ([], [])

def replacement : (fuel : Nat) → List Char → List ReplacementPart
  | 0, _ | _, [] => []
  | fuel + 1, '\\' :: c :: rest =>
    let (part, rest) : ReplacementPart × List Char := match c with
      | 'U' => (.change .upper, rest)
      | 'L' => (.change .lower, rest)
      | 'u' => (.change .upperNext, rest)
      | 'l' => (.change .lowerNext, rest)
      | 'E' => (.change .none, rest)
      | c =>
        if c.isDigit then (.group (c.toNat - '0'.toNat), rest)
        else
          let (text, rest) := escaped (c :: rest)
          (.text (String.ofList text), rest)
    part :: replacement fuel rest
  | fuel + 1, '&' :: rest => .group 0 :: replacement fuel rest
  | fuel + 1, c :: rest => .text (String.ofList [c]) :: replacement fuel rest

/-- The greatest number of a group that a replacement asks for. -/
def greatestGroup (parts : List ReplacementPart) : Nat :=
  parts.foldl (fun n part => max n (match part with
    | .group k => k
    | _ => 0)) 0

/-- The end of a command: what stands behind it, blanks and a separator left out. -/
def ending (chars : List Char) : Except Problem (List Char) :=
  let rest := chars.dropWhile isBlank
  match rest with
  | [] => .ok []
  | ';' :: rest | '\n' :: rest => .ok rest
  | '\x7d' :: _ | '#' :: _ => .ok rest
  | _ => .error "extra characters after command"

def flags (style : Style) : (fuel : Nat) → Substitution → Style → List Char →
    Except Problem (Substitution × Style × List Char)
  | 0, substitution, own, rest => .ok (substitution, own, rest)
  | fuel + 1, substitution, own, chars =>
    match chars with
    | 'g' :: rest => flags style fuel { substitution with everywhere := true } own rest
    | 'p' :: rest => flags style fuel { substitution with printed := true } own rest
    | 'i' :: rest | 'I' :: rest => flags style fuel substitution { own with folded := true } rest
    | 'm' :: rest | 'M' :: rest => flags style fuel substitution { own with lines := true } rest
    | 'w' :: rest =>
      let name := (rest.dropWhile isBlank).takeWhile (· ≠ '\n')
      if name.isEmpty then .error "missing filename in r/R/w/W commands"
      else .ok ({ substitution with file := some (String.ofList name) }, own,
        (rest.dropWhile (· ≠ '\n')))
    | c :: _ =>
      if c.isDigit then
        let (n, rest) := number chars
        if n = 0 then .error ("number option to " ++ named "s" ++ " command may not be zero")
        else flags style fuel { substitution with first := n } own rest
      else .ok (substitution, own, chars)
    | [] => .ok (substitution, own, [])

def substitution (style : Style) (chars : List Char) : Except Problem (Action × List Char) :=
  match chars with
  | [] | '\n' :: _ | '\\' :: _ => .error ("unterminated " ++ named "s" ++ " command")
  | delimiter :: rest =>
    match delimited delimiter true (rest.length + 1) rest with
    | none => .error ("unterminated " ++ named "s" ++ " command")
    | some (pattern, rest) =>
      match delimited delimiter false (rest.length + 1) rest with
      | none => .error ("unterminated " ++ named "s" ++ " command")
      | some (text, rest) => do
        let parts := replacement (text.length + 1) text
        let plain : Substitution := { expression := none, replacement := parts }
        let (found, own, rest) ← flags style (rest.length + 1) plain style rest
        let expression ← expression? own pattern
        let groups := match expression with
          | some expression => expression.groupCount
          | none => 9
        let greatest := greatestGroup parts
        if groups < greatest then
          throw (s!"invalid reference \\{greatest} on " ++ named "s" ++ " command's RHS")
        else match ending rest with
          | .ok rest => return (.substitute { found with expression }, rest)
          | .error _ => throw ("unknown option to " ++ named "s")

/-- A text of characters with escapes, for a translation. -/
def translated : (fuel : Nat) → List Char → List Char
  | 0, _ | _, [] => []
  | fuel + 1, '\\' :: c :: rest =>
    match c with
    | 'n' => '\n' :: translated fuel rest
    | 't' => '\t' :: translated fuel rest
    | '\\' => '\\' :: translated fuel rest
    | c => '\\' :: c :: translated fuel rest
  | fuel + 1, c :: rest => c :: translated fuel rest

def translation (chars : List Char) : Except Problem (Action × List Char) :=
  match chars with
  | [] => .error ("unterminated " ++ named "y" ++ " command")
  | delimiter :: rest =>
    match delimited delimiter false (rest.length + 1) rest with
    | none => .error ("unterminated " ++ named "y" ++ " command")
    | some (first, rest) =>
      match delimited delimiter false (rest.length + 1) rest with
      | none => .error ("unterminated " ++ named "y" ++ " command")
      | some (second, rest) => do
        let first := translated (first.length + 1) first
        let second := translated (second.length + 1) second
        if first.length ≠ second.length then
          throw ("strings for " ++ named "y" ++ " command are different lengths")
        else return (.translate (first.zip second), ← ending rest)

/-- Reads the lines of a text, up to a line end without a backslash before it. -/
def textLines : (fuel : Nat) → List Char → List Char × List Char
  | 0, _ | _, [] => ([], [])
  | _, '\n' :: rest => ([], rest)
  | fuel + 1, '\\' :: rest =>
    let (meaning, rest) := escaped rest
    let (text, behind) := textLines fuel rest
    (meaning ++ text, behind)
  | fuel + 1, c :: rest =>
    let (text, behind) := textLines fuel rest
    (c :: text, behind)

/-- Reads the text that a command inserts. A backslash before it keeps the blanks that it begins
with. -/
def insertedText (chars : List Char) : Except Problem (String × List Char) :=
  let lines (body : List Char) : Except Problem (String × List Char) :=
    let (text, rest) := textLines (body.length + 1) body
    .ok (String.ofList (text ++ ['\n']), rest)
  match chars.dropWhile isBlank with
  | [] | '\n' :: _ =>
    .error ("expected \\ after " ++ named "a" ++ ", " ++ named "c" ++ " or " ++ named "i")
  | ['\\'] => .ok ("", [])
  | '\\' :: '\n' :: rest | '\\' :: rest | rest => lines rest

def branchLabel (chars : List Char) : String × List Char :=
  let chars := chars.dropWhile isBlank
  let label := chars.takeWhile fun c => c ≠ '\n' && c ≠ ';' && c ≠ '\x7d' && !isBlank c
  (String.ofList label, chars.drop label.length)

def fileName (chars : List Char) : Except Problem (String × List Char) :=
  let chars := chars.dropWhile isBlank
  let name := chars.takeWhile (· ≠ '\n')
  if name.isEmpty then .error "missing filename in r/R/w/W commands"
  else .ok (String.ofList name, chars.drop (name.length + 1))

/-- Reads a command behind its addresses. -/
def action (style : Style) (chars : List Char) : Except Problem (Action × List Char) :=
  let plain (action : Action) (rest : List Char) : Except Problem (Action × List Char) := do
    return (action, ← ending rest)
  match chars with
  | [] => .error "missing command"
  | c :: rest =>
    match c with
    | '\x7b' => .ok (.opening, rest)
    | '\x7d' => plain .closing rest
    | 'a' => do let (text, rest) ← insertedText rest; return (.append text, rest)
    | 'i' => do let (text, rest) ← insertedText rest; return (.insert text, rest)
    | 'c' => do let (text, rest) ← insertedText rest; return (.change text, rest)
    | 'b' => let (label, rest) := branchLabel rest; plain (.branch label) rest
    | 't' => let (label, rest) := branchLabel rest; plain (.branchIf true label) rest
    | 'T' => let (label, rest) := branchLabel rest; plain (.branchIf false label) rest
    | ':' =>
      let rest := rest.dropWhile isBlank
      let label := rest.takeWhile fun c => c ≠ '\n' && c ≠ ';' && !isBlank c
      if label.isEmpty then .error "\":\" lacks a label"
      else .ok (.label (String.ofList label), rest.drop label.length)
    | 'd' => plain .delete rest
    | 'D' => plain .deleteFirst rest
    | 'p' => plain .print rest
    | 'P' => plain .printFirst rest
    | 'l' =>
      let rest := rest.dropWhile isBlank
      let (width, behind) := number rest
      plain (.list (if behind.length = rest.length then none else some width)) behind
    | 'n' => plain .next rest
    | 'N' => plain .appendNext rest
    | '=' => plain .number rest
    | 'q' =>
      let (status, rest) := number (rest.dropWhile isBlank)
      plain (.quit status false) rest
    | 'Q' =>
      let (status, rest) := number (rest.dropWhile isBlank)
      plain (.quit status true) rest
    | 'h' => plain (.hold false) rest
    | 'H' => plain (.hold true) rest
    | 'g' => plain (.get false) rest
    | 'G' => plain (.get true) rest
    | 'x' => plain .exchange rest
    | 'z' => plain .empty rest
    | 'F' => plain .fileName rest
    | 's' => substitution style rest
    | 'y' => translation rest
    | 'r' => do let (name, rest) ← fileName rest; return (.read name, rest)
    | 'R' => do let (name, rest) ← fileName rest; return (.readLine name, rest)
    | 'w' => do let (name, rest) ← fileName rest; return (.write name false, rest)
    | 'W' => do let (name, rest) ← fileName rest; return (.write name true, rest)
    | c => .error ("unknown command: " ++ named (String.ofList [c]))

def script (style : Style) : (fuel : Nat) → (depth : Nat) → List Instruction → List Char →
    Except Problem (List Instruction)
  | 0, _, _, _ => .error "script too long"
  | fuel + 1, depth, found, chars => do
    let chars := chars.dropWhile fun c => isBlank c || c = '\n' || c = ';'
    match chars with
    | [] => if depth = 0 then return found.reverse else throw ("unmatched " ++ named "\x7b")
    | '#' :: rest => script style fuel depth found (rest.dropWhile (· ≠ '\n'))
    | _ =>
      let (first, rest) ← address style chars
      let rest := rest.dropWhile isBlank
      let (last, rest) ← match first, rest with
        | some _, ',' :: rest => do
          let (last, rest) ← rangeEnd style (rest.dropWhile isBlank)
          pure (some last, rest)
        | _, rest => pure (none, rest)
      match first, last with
      | some .zero, none => throw "invalid usage of line address 0"
      | some .zero, some (.address (.expression _)) | _, _ =>
        let rest := rest.dropWhile isBlank
        let (negated, rest) := match rest with
          | '!' :: rest => (true, rest.dropWhile isBlank)
          | rest => (false, rest)
        if negated && rest.head? = some '!' then throw ("multiple " ++ named "!" ++ "s")
        let (action, rest) ← action style rest
        let depth ← match action with
          | .opening => pure (depth + 1)
          | .closing =>
            if depth = 0 then throw ("unexpected " ++ named "\x7d")
            else if first.isSome then throw "\x7d doesn't want any addresses"
            else pure (depth - 1)
          | _ => pure depth
        script style fuel depth ({ first, last, negated, action } :: found) rest

def parse (style : Style) (text : String) : Except Problem (Array Instruction) :=
  match script style (text.length + 1) 0 [] text.toList with
  | .error problem => .error s!"-e expression #1, char {text.length}: {problem}"
  | .ok instructions =>
    let labels := instructions.filterMap fun instruction =>
      match instruction.action with
      | .label label => some label
      | _ => none
    let missing := instructions.findSome? fun instruction =>
      match instruction.action with
      | .branch label | .branchIf _ label =>
        if label = "" || labels.contains label then none else some label
      | _ => none
    match missing with
    | some label => .error ("can't find label for jump to " ++ named label)
    | none => .ok instructions.toArray

end ColdBuild.Edit
