import ColdBuild.Machine.Process

/-!
# Conditions

A condition is a list of words: texts and numbers are compared, and files are asked for. What a
word is depends on the words behind it, so that every text may be compared with another one.
Conditions are joined and negated by operators, and put into brackets.
-/

namespace ColdBuild

/-- What a word of a condition is. -/
inductive ConditionToken where
  | operand
  /-- An operator before its operand, by its letter. -/
  | unary (letter : Char)
  | binary (operator : String)
  | not
  | and
  | or
  | opening
  | closing
  | finished
  deriving DecidableEq, Repr

namespace Condition

def unaryLetters : List Char := "rwxefdcbpugkstznhLOGS".toList

def binaryOperators : List String :=
  ["=", "!=", "<", ">", "-eq", "-ne", "-ge", "-gt", "-le", "-lt", "-nt", "-ot", "-ef"]

def operator? (word : String) : Option ConditionToken :=
  match word with
  | "!" => some .not
  | "-a" => some .and
  | "-o" => some .or
  | "(" => some .opening
  | ")" => some .closing
  | _ =>
    if binaryOperators.contains word then some (.binary word)
    else match word.toList with
      | ['-', letter] => if unaryLetters.contains letter then some (.unary letter) else none
      | _ => none

def isBinary (word : String) : Bool := binaryOperators.contains word

/-- What the first of some words is. -/
def lex (words : List String) : ConditionToken :=
  match words with
  | [] => .finished
  | word :: rest =>
    match operator? word, rest with
    | some (.unary _), [] | some .opening, [] => .operand
    | some (.unary letter), next :: _ :: _ => if isBinary next then .operand else .unary letter
    | some operator, _ => operator
    | none, _ => .operand

def isBlank (c : Char) : Bool := c = ' ' || ('\t' ≤ c && c ≤ '\x0d')

/-- The integer that a word is; blanks around it do not count. -/
def integer (word : String) : Except String Int :=
  let chars := word.toList.dropWhile isBlank
  let (negative, chars) := match chars with
    | '-' :: rest => (true, rest)
    | '+' :: rest => (false, rest)
    | _ => (false, chars)
  let digits := chars.takeWhile Char.isDigit
  let n := Nat.ofDigitChars 10 digits 0
  let value : Int := if negative then -n else n
  if digits.isEmpty || !(chars.drop digits.length).all isBlank || Int64.maxValue.toInt < value ||
      value < Int64.minValue.toInt then
    .error s!"Illegal number: {word}"
  else .ok value

/-- What a path has to lead to. -/
def isFile (p : Process) (letter : Char) (path : String) : Bool :=
  match p.node? path (letter ≠ 'h' && letter ≠ 'L') with
  | none => false
  | some node =>
    match letter, node with
    | 'f', .file .. | 'f', .utility _ | 'd', .directory .. | 'c', .device _ | 'h', .link _
    | 'L', .link _ | 's', .directory .. | 's', .utility _ | 'x', .directory .. | 'x', .utility _
    | 'e', _ | 'r', _ | 'w', _ | 'O', _ | 'G', _ => true
    | 's', .file content _ => content ≠ ""
    | 'x', .file _ mode => mode &&& 0o111 ≠ 0
    | 'u', .file _ mode => mode &&& 0o4000 ≠ 0
    | 'g', .file _ mode => mode &&& 0o2000 ≠ 0
    | 'k', .file _ mode => mode &&& 0o1000 ≠ 0
    | _, _ => false

def compare (p : Process) (operator first second : String) : Except String Bool := do
  let numbers (test : Int → Int → Bool) : Except String Bool := do
    return test (← integer first) (← integer second)
  let files (test : Nat → Nat → Bool) : Except String Bool :=
    match p.find first, p.find second with
    | .ok a, .ok b => .ok (test a b)
    | _, _ => .ok false
  match operator with
  | "!=" => return first ≠ second
  | "<" => return first < second
  | ">" => return second < first
  | "-eq" => numbers (fun a b => a = b)
  | "-ne" => numbers (fun a b => a ≠ b)
  | "-ge" => numbers (fun a b => b ≤ a)
  | "-gt" => numbers (fun a b => b < a)
  | "-le" => numbers (fun a b => a ≤ b)
  | "-lt" => numbers (fun a b => a < b)
  | "-nt" => files fun a b => p.files.changedAt b < p.files.changedAt a
  | "-ot" => files fun a b => p.files.changedAt a < p.files.changedAt b
  | "-ef" => files fun a b => a = b
  | _ => return first = second

/-- What has been read of a condition: whether it holds, and the words from the last one read. -/
abbrev Reading := Except String (Bool × List String)

mutual

/-- Reads conditions of which one has to hold. -/
def disjunction (p : Process) (fuel : Nat) (before : Bool) (token : ConditionToken)
    (words : List String) : Reading :=
  match fuel with
  | 0 => .error "argument expected"
  | fuel + 1 => do
    let (holds, words) ← conjunction p fuel true token words
    if lex (words.drop 1) = .or then
      disjunction p fuel (before || holds) (lex (words.drop 2)) (words.drop 2)
    else return (before || holds, words)

/-- Reads conditions which all have to hold. -/
def conjunction (p : Process) (fuel : Nat) (before : Bool) (token : ConditionToken)
    (words : List String) : Reading :=
  match fuel with
  | 0 => .error "argument expected"
  | fuel + 1 => do
    let (holds, words) ← negation p fuel token words
    if lex (words.drop 1) = .and then
      conjunction p fuel (before && holds) (lex (words.drop 2)) (words.drop 2)
    else return (before && holds, words)

/-- Reads a condition that may be negated. -/
def negation (p : Process) (fuel : Nat) (token : ConditionToken) (words : List String) : Reading :=
  match fuel with
  | 0 => .error "argument expected"
  | fuel + 1 => do
    match token with
    | .not =>
      let next := lex (words.drop 1)
      let (holds, words) ← negation p fuel next
        (if next = .finished then words else words.drop 1)
      return (!holds, words)
    | .finished => return (false, words)
    | .opening =>
      let next := lex (words.drop 1)
      if next = .closing then return (false, words.drop 1)
      else
        let (holds, words) ← disjunction p fuel false next (words.drop 1)
        if lex (words.drop 1) = .closing then return (holds, words.drop 1)
        else throw "closing paren expected"
    | .unary letter =>
      match words.drop 1 with
      | [] => throw s!"-{letter}: argument expected"
      | operand :: _ =>
        let holds : Bool ← match letter with
          | 'z' => pure (decide (operand = ""))
          | 'n' => pure (decide (operand ≠ ""))
          | 't' => (integer operand).map fun _ => false
          | letter => pure (isFile p letter operand)
        return (holds, words.drop 1)
    | _ =>
      match words with
      | first :: operator :: rest =>
        if lex (operator :: rest) = .binary operator then
          match rest with
          | [] => throw s!"{operator}: argument expected"
          | second :: _ => return (← compare p operator first second, words.drop 2)
        else return (first ≠ "", words)
      | [first] => return (first ≠ "", words)
      | [] => return (false, words)

end

def evaluate (p : Process) (token : ConditionToken) (words : List String) : Except String Bool := do
  let (holds, last) ← disjunction p (4 * words.length + 4) false token words
  match last with
  | word :: _ :: _ => throw s!"{word}: unexpected operator"
  | _ => return holds

def holds (p : Process) (words : List String) : Except String Bool :=
  match words with
  | [] => .ok false
  | [first, operator, second] =>
    if isBinary operator then evaluate p .operand words
    else if first = "(" && second = ")" then evaluate p (lex [operator]) [operator]
    else if first = "!" then
      (evaluate p (lex [operator, second]) [operator, second]).map (!·)
    else evaluate p (lex words) words
  | [first, a, b, last] =>
    if first = "(" && last = ")" then evaluate p (lex [a, b]) [a, b]
    else if first = "!" then
      if isBinary b then (evaluate p .operand [a, b, last]).map (!·)
      else if a = "(" && last = ")" then (evaluate p (lex [b]) [b]).map (!·)
      else if a = "!" then (evaluate p (lex [b, last]) [b, last]).map (!·)
      else (evaluate p (lex [a, b, last]) [a, b, last]).map (!·)
    else evaluate p (lex words) words
  | _ => evaluate p (lex words) words

end Condition

end ColdBuild
