import ColdBuild.Machine.Condition
import ColdBuild.Machine.Format
import ColdBuild.Machine.Utility.Files
import ColdBuild.Regex.Posix

/-!
# Utilities for words

Each computes something from the words it is called with: it writes them, counts, takes paths
apart, or evaluates a condition or an expression.

Expressions are made of words, one for each operator and operand. A comparison is one of numbers
if both sides are whole numbers, and otherwise one of texts. A result that is empty or zero counts
as false.
-/

namespace ColdBuild

/-! ## Expressions -/

namespace Calculation

/-- Why an expression has no value. -/
inductive Fault where
  | missingAfter (word : String)
  | unexpected (word : String)
  | expectingClose (last : String) (found : Option String)
  | notAnInteger
  | divisionByZero
  | pattern (message : String)
  deriving DecidableEq, Repr

def Fault.message : Fault → String
  | .missingAfter word => s!"syntax error: missing argument after '{word}'"
  | .unexpected word => s!"syntax error: unexpected argument '{word}'"
  | .expectingClose last none => s!"syntax error: expecting ')' after '{last}'"
  | .expectingClose _ (some found) => s!"syntax error: expecting ')' instead of '{found}'"
  | .notAnInteger => "non-integer argument"
  | .divisionByZero => "division by zero"
  | .pattern message => message

def integer? (text : String) : Option Int :=
  let (sign, digits) : Int × List Char := match text.toList with
    | '-' :: digits => (-1, digits)
    | digits => (1, digits)
  if digits.isEmpty || !digits.all Char.isDigit then none
  else some (sign * (Nat.ofDigitChars 10 digits 0 : Nat))

/-- The value counts as false. -/
def isVoid (text : String) : Bool := text = "" || integer? text = some 0

def truth (holds : Bool) : String := if holds then "1" else "0"

def compare (operator first second : String) : Bool :=
  let order : Ordering := match integer? first, integer? second with
    | some a, some b => Ord.compare a b
    | _, _ => Ord.compare first second
  match operator with
  | "<" => order = .lt
  | "<=" => order ≠ .gt
  | "=" | "==" => order = .eq
  | "!=" => order ≠ .eq
  | ">=" => order ≠ .lt
  | _ => order = .gt

def calculate (operator first second : String) : Except Fault String :=
  match integer? first, integer? second with
  | some a, some b =>
    match operator with
    | "+" => .ok (toString (a + b))
    | "-" => .ok (toString (a - b))
    | "*" => .ok (toString (a * b))
    | "/" => if b = 0 then .error .divisionByZero else .ok (toString (a.tdiv b))
    | _ => if b = 0 then .error .divisionByZero else .ok (toString (a.tmod b))
  | _, _ => .error .notAnInteger

/-- What an expression matches at the beginning of a text: its first group, or the length. -/
def matched (text pattern : String) : Except Fault String :=
  match Regex.Posix.compile {} pattern with
  | .error problem => .error (.pattern problem.message)
  | .ok expression =>
    let chars := text.toList.toArray
    let masks := expression.plain?.map (Regex.Expression.on · text.toList)
    let grouped := 0 < expression.groupCount
    match expression.matchAt masks chars 0 with
    | none => .ok (if grouped then "" else "0")
    | some captures =>
      if grouped then
        let (first, last) := (captures.group? 1).getD (0, 0)
        .ok (String.ofList (chars.extract first last).toList)
      else .ok (toString ((captures.group? 0).elim 0 Prod.snd))

/-- The operators, those that bind least first. -/
def levels : List (List String) :=
  [["|"], ["&"], ["<", "<=", "=", "==", "!=", ">=", ">"], ["+", "-"], ["*", "/", "%"], [":"]]

def join (operator first second : String) : Except Fault String :=
  match operator with
  | "|" => .ok (if !isVoid first then first else if isVoid second then "0" else second)
  | "&" => .ok (if isVoid first || isVoid second then "0" else first)
  | ":" => matched first second
  | "+" | "-" | "*" | "/" | "%" => calculate operator first second
  | _ => .ok (truth (compare operator first second))

/-- What is read next. -/
inductive Goal where
  | level (n : Nat)
  /-- More operators of a level, with the value so far. -/
  | more (n : Nat) (value : String)
  | operand

/-- The word before the rest of an expression. -/
def wordBefore (all rest : List String) : String :=
  all.getD (all.length - rest.length - 1) ""

/-- Evaluates a part of an expression; if it is not active, only to find its end. -/
def evaluate (all : List String) : (fuel : Nat) → (active : Bool) → Goal → List String →
    Except Fault (String × List String)
  | 0, _, _, words => .error (.unexpected (words.headD ""))
  | fuel + 1, active, .level n, words =>
    if n < levels.length then do
      let (value, rest) ← evaluate all fuel active (.level (n + 1)) words
      evaluate all fuel active (.more n value) rest
    else evaluate all fuel active .operand words
  | fuel + 1, active, .more n first, words =>
    match words with
    | operator :: rest =>
      if (levels.getD n []).contains operator then do
        let needed := active && (operator ≠ "|" || isVoid first) && (operator ≠ "&" || !isVoid first)
        let (second, rest) ← evaluate all fuel needed (.level (n + 1)) rest
        let value ← if active then join operator first (if needed then second else "")
          else pure ""
        evaluate all fuel active (.more n value) rest
      else return (first, words)
    | [] => return (first, words)
  | fuel + 1, active, .operand, words => do
    match words with
    | [] => throw (.missingAfter (wordBefore all words))
    | "+" :: rest =>
      match rest with
      | [] => throw (.missingAfter "+")
      | word :: rest => return (word, rest)
    | "length" :: rest =>
      let (text, rest) ← evaluate all fuel active .operand rest
      return (toString text.length, rest)
    | "match" :: rest =>
      let (text, rest) ← evaluate all fuel active .operand rest
      let (pattern, rest) ← evaluate all fuel active .operand rest
      return (← if active then matched text pattern else pure "", rest)
    | "index" :: rest =>
      let (text, rest) ← evaluate all fuel active .operand rest
      let (wanted, rest) ← evaluate all fuel active .operand rest
      let place := (text.toList.findIdx? wanted.toList.contains).elim 0 (· + 1)
      return (toString place, rest)
    | "substr" :: rest =>
      let (text, rest) ← evaluate all fuel active .operand rest
      let (first, rest) ← evaluate all fuel active .operand rest
      let (count, rest) ← evaluate all fuel active .operand rest
      match integer? first, integer? count with
      | some first, some count =>
        if first ≤ 0 || count ≤ 0 then return ("", rest)
        else return (((text.drop (first.toNat - 1)).take count.toNat).toString, rest)
      | _, _ => return ("", rest)
    | "(" :: rest =>
      let (value, rest) ← evaluate all fuel active (.level 0) rest
      match rest with
      | ")" :: rest => return (value, rest)
      | [] => throw (.expectingClose (wordBefore all rest) none)
      | word :: _ => throw (.expectingClose "" (some word))
    | ")" :: _ => throw (.unexpected ")")
    | word :: rest => return (word, rest)

def value (words : List String) : Except Fault String := do
  let (value, rest) ← evaluate words (16 * words.length + 16) true (.level 0) words
  match rest with
  | [] => return value
  | word :: _ => throw (.unexpected word)

end Calculation

/-! ## Numbers one after another -/

/-- A decimal number: so many units of a place. -/
structure FixedPoint where
  units : Int
  places : Nat
  /-- The length of its text. -/
  width : Nat
  deriving DecidableEq, Repr

namespace FixedPoint

def ofText? (text : String) : Option FixedPoint :=
  let chars := text.toList.dropWhile (· = ' ')
  let (sign, digits) : Int × List Char := match chars with
    | '-' :: digits => (-1, digits)
    | '+' :: digits => (1, digits)
    | digits => (1, digits)
  let whole := digits.takeWhile Char.isDigit
  let fraction := match digits.drop whole.length with
    | [] => some []
    | '.' :: rest => if rest.all Char.isDigit then some rest else none
    | _ => none
  match fraction with
  | none => none
  | some fraction =>
    if whole.isEmpty && fraction.isEmpty then none
    else some {
      units := sign * (Nat.ofDigitChars 10 (whole ++ fraction) 0 : Nat)
      places := fraction.length
      width := (if chars.head? = some '+' then chars.length - 1 else chars.length) }

/-- The number in units of another place. -/
def unitsAt (x : FixedPoint) (places : Nat) : Int := x.units * (Nat.pow 10 (places - x.places) : Nat)

/-- The length of the text with so many places behind the point. -/
def widthAt (x : FixedPoint) (places : Nat) : Nat :=
  if x.places = 0 then if places = 0 then x.width else x.width + 1 + places
  else if places = 0 then x.width - x.places - 1
  else x.width + places - x.places

/-- A number of units as a text, filled up with zeros. -/
def textOf (units : Int) (places width : Nat) : String :=
  let digits := Nat.toDigits 10 units.natAbs
  let digits := List.replicate (places + 1 - digits.length) '0' ++ digits
  let whole := digits.take (digits.length - places)
  let behind := if places = 0 then [] else '.' :: digits.drop (digits.length - places)
  let sign := if units < 0 then ['-'] else []
  let missing := width - (sign.length + whole.length + behind.length)
  String.ofList (sign ++ List.replicate missing '0' ++ whole ++ behind)

end FixedPoint

namespace Process

/-! ## Writing -/

def echo (p : Process) : Process :=
  let isOption (word : String) : Bool :=
    2 ≤ word.length && word.startsWith "-" && (word.drop 1).all fun c => "neE".toList.contains c
  let options := p.arguments.takeWhile isOption
  let letters := options.flatMap fun word => word.toList.drop 1
  let texts := p.arguments.drop options.length
  let style : Format.EscapeStyle := { leadingZero := true, stopping := true, extended := true }
  let escapes := match (letters.filter (· ≠ 'n')).getLast? with
    | some 'e' => some style
    | _ => none
  p.print (Format.line escapes (!letters.contains 'n') texts)

/-- Writes its arguments as a format says. -/
def printFormatted (p : Process) : Process :=
  match if p.arguments.head? = some "--" then p.arguments.drop 1 else p.arguments with
  | [] => p.misuse "missing operand"
  | format :: rest =>
    let formatted := Format.apply true format rest
    let p := formatted.complaints.foldl (fun p text => p.fault text) (p.print formatted.text)
    match formatted.fault with
    | some message => p.fault message
    | none => p

/-- How many lines are written where there would be no end. -/
def endlessCount : Nat := 200000

/-- Writes the same line over and over. -/
def repeatLine (p : Process) : Process :=
  let text := if p.arguments.isEmpty then "y" else " ".intercalate p.arguments
  p.print (String.join (List.replicate endlessCount (text ++ "\n")))

/-- Writes the numbers from one to another. -/
def countUp (p : Process) : Process :=
  let rules := ["f,format=", "s,separator=", "w,equal-width"]
  let isNumber (word : String) : Bool :=
    match word.toList with
    | '-' :: c :: _ => c.isDigit || c = '.'
    | _ => false
  -- A negative number is no option.
  let shielded := match p.words.span (!isNumber ·) with
    | (front, []) => front
    | (front, rest) =>
      match Call.readWords (rules.map OptionRule.ofText) false front.length {} (front.drop 1) with
      | .ok { operands := [], .. } => front ++ "--" :: rest
      | _ => front ++ rest
  { p with words := shielded }.withCall rules (fun call =>
    let numbers := call.operands.map FixedPoint.ofText?
    match call.operands.find? fun word => (FixedPoint.ofText? word).isNone with
    | some word => p.misuse s!"invalid floating point argument: {shown word}"
    | none =>
      let one : FixedPoint := ⟨1, 0, 1⟩
      let run (first step last : FixedPoint) : Process :=
        let places := max first.places step.places
        let scale := max places last.places
        let start := first.unitsAt scale
        let stride := step.unitsAt scale
        let goal := last.unitsAt scale
        if stride = 0 then p.misuse ("invalid Zero increment value: " ++ shown (call.operands.getD 1 ""))
        else
          let count := if 0 < stride then
              if start ≤ goal then ((goal - start) / stride).toNat + 1 else 0
            else if goal ≤ start then ((start - goal) / (-stride)).toNat + 1 else 0
          let width := if call.has "w" then max (first.widthAt places) (last.widthAt places) else 0
          let texts := (List.range count).map fun (i : Nat) =>
            let units := (first.unitsAt places) + step.unitsAt places * (i : Int)
            match call.value? "f" with
            | some format => (Format.apply true format [FixedPoint.textOf units places 0]).text
            | none => FixedPoint.textOf units places width
          if count = 0 then p
          else p.print (((call.value? "s").getD "\n").intercalate texts ++ "\n")
      match numbers.filterMap id with
      | [] => p.misuse "missing operand"
      | [last] => run one one last
      | [first, last] => run first one last
      | [first, step, last] => run first step last
      | _ => p.misuse ("extra operand " ++ shown (call.operands.getD 3 ""))) false

/-! ## Paths -/

def baseNames (p : Process) : Process :=
  p.withCall ["a,multiple", "s,suffix=", "z,zero"] (fun call =>
    let mark := if call.has "z" then String.ofList [Char.ofNat 0] else "\n"
    let without (suffix name : String) : String :=
      if suffix ≠ "" && name ≠ suffix && name.endsWith suffix then
        (name.dropEnd suffix.length).toString
      else name
    match call.has "a" || call.has "s", call.operands with
    | _, [] => p.misuse "missing operand"
    | true, paths =>
      let suffix := (call.value? "s").getD ""
      p.print (String.join (paths.map fun path => without suffix (FilePath.base path) ++ mark))
    | false, [path] => p.print (FilePath.base path ++ mark)
    | false, [path, suffix] => p.print (without suffix (FilePath.base path) ++ mark)
    | false, _ :: _ :: extra :: _ => p.misuse s!"extra operand {shown extra}") false

def parentNames (p : Process) : Process :=
  p.withCall ["z,zero"] fun call =>
    let mark := if call.has "z" then String.ofList [Char.ofNat 0] else "\n"
    if call.operands.isEmpty then p.misuse "missing operand"
    else p.print (String.join (call.operands.map fun path => FilePath.parent path ++ mark))

/-! ## Conditions and expressions -/

def testCondition (bracketed : Bool) (p : Process) : Process :=
  let words := p.arguments
  if bracketed && words.getLast? ≠ some "]" then p.fault "missing ']'" 2
  else match Condition.holds p (if bracketed then words.dropLast else words) with
    | .ok holds => p.exit (if holds then 0 else 1)
    | .error message => p.fault message 2

def calculate (p : Process) : Process :=
  match p.arguments with
  | [] | ["--"] => p.misuse "missing operand" 2
  | ["--help"] | ["--version"] => p.print s!"{p.name}\n"
  | words =>
    match Calculation.value (if words.head? = some "--" then words.drop 1 else words) with
    | .error fault => p.fault fault.message 2
    | .ok value => (p.exit (if Calculation.isVoid value then 1 else 0)).print (value ++ "\n")

end Process

end ColdBuild
