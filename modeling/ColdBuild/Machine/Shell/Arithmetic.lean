/-!
# Arithmetic in scripts

Expressions on signed words of 64 bits, in which variables are read and assigned. Operators bind
as in most languages; what they do not need is not evaluated, so neither does it assign
anything. A number may be octal or hexadecimal.
-/

namespace ColdBuild.Shell

inductive ArithmeticFault where
  | expectingOperand
  | expectingEnd
  | expectingColon
  | expectingBracket
  | divisionByZero
  /-- The value of a variable is no number. -/
  | badNumber (text : String)
  /-- A variable may not be assigned. -/
  | readOnly (name : String)
  deriving DecidableEq, Repr

def ArithmeticFault.message (expression : String) (fault : ArithmeticFault) : String :=
  let about (text : String) : String := s!"arithmetic expression: {text}: \"{expression}\""
  match fault with
  | .expectingOperand => about "expecting primary"
  | .expectingEnd => about "expecting EOF"
  | .expectingColon => about "expecting ':'"
  | .expectingBracket => about "expecting ')'"
  | .divisionByZero => about "division by zero"
  | .badNumber text => s!"Illegal number: {text}"
  | .readOnly name => s!"{name}: is read only"

inductive UnaryOperator where
  | plus
  | minus
  | not
  | complement
  deriving DecidableEq, Repr

inductive BinaryOperator where
  | times
  | dividedBy
  | modulo
  | plus
  | minus
  | shiftLeft
  | shiftRight
  | less
  | lessEqual
  | greater
  | greaterEqual
  | equal
  | unequal
  | bitAnd
  | bitXor
  | bitOr
  deriving DecidableEq, Repr

inductive Arithmetic where
  | number (value : Int64)
  | parameter (name : String)
  | assignment (name : String) (operator : Option BinaryOperator) (value : Arithmetic)
  | unary (operator : UnaryOperator) (body : Arithmetic)
  | binary (operator : BinaryOperator) (first second : Arithmetic)
  | both (first second : Arithmetic)
  | either (first second : Arithmetic)
  | choice (test yes no : Arithmetic)
  deriving DecidableEq, Repr

namespace BinaryOperator

/-- The operators by how they are written, level by level; the last level binds most. -/
def levels : List (List (String × BinaryOperator)) :=
  [[("|", bitOr)], [("^", bitXor)], [("&", bitAnd)], [("==", equal), ("!=", unequal)],
    [("<", less), ("<=", lessEqual), (">", greater), (">=", greaterEqual)],
    [("<<", shiftLeft), (">>", shiftRight)], [("+", plus), ("-", minus)],
    [("*", times), ("/", dividedBy), ("%", modulo)]]

/-- The operators that may stand before the sign of an assignment. -/
def assigning : List (String × BinaryOperator) :=
  [("*=", times), ("/=", dividedBy), ("%=", modulo), ("+=", plus), ("-=", minus), ("<<=", shiftLeft),
    (">>=", shiftRight), ("&=", bitAnd), ("^=", bitXor), ("|=", bitOr)]

def ofTruth (truth : Bool) : Int64 := if truth then 1 else 0

/-- The least word divided by minus one has no value either. -/
def isDivisible (a b : Int64) : Bool := b ≠ 0 && !(b = -1 && a = Int64.minValue)

def apply (operator : BinaryOperator) (a b : Int64) : Except ArithmeticFault Int64 :=
  match operator with
  | .times => .ok (a * b)
  | .dividedBy => if isDivisible a b then .ok (a / b) else .error .divisionByZero
  | .modulo => if isDivisible a b then .ok (a % b) else .error .divisionByZero
  | .plus => .ok (a + b)
  | .minus => .ok (a - b)
  | .shiftLeft => .ok (a <<< b)
  | .shiftRight => .ok (a >>> b)
  | .less => .ok (ofTruth (a < b))
  | .lessEqual => .ok (ofTruth (a ≤ b))
  | .greater => .ok (ofTruth (b < a))
  | .greaterEqual => .ok (ofTruth (b ≤ a))
  | .equal => .ok (ofTruth (a = b))
  | .unequal => .ok (ofTruth (a ≠ b))
  | .bitAnd => .ok (a &&& b)
  | .bitXor => .ok (a ^^^ b)
  | .bitOr => .ok (a ||| b)

end BinaryOperator

def UnaryOperator.apply : UnaryOperator → Int64 → Int64
  | .plus, a => a
  | .minus, a => -a
  | .not, a => BinaryOperator.ofTruth (a = 0)
  | .complement, a => ~~~a

namespace Arithmetic

inductive Lexeme where
  | number (value : Int64)
  | name (name : String)
  | symbol (text : String)
  deriving DecidableEq, Repr

def digit? (base : Nat) (c : Char) : Option Nat :=
  let value :=
    if c.isDigit then c.toNat - '0'.toNat
    else if 'a' ≤ c ∧ c ≤ 'z' then c.toNat - 'a'.toNat + 10
    else if 'A' ≤ c ∧ c ≤ 'Z' then c.toNat - 'A'.toNat + 10
    else base
  if value < base then some value else none

/-- The digits at the beginning of a text, as a number, and what is behind them. -/
def digits (base : Nat) (chars : List Char) : Nat × List Char :=
  let found := chars.takeWhile fun c => (digit? base c).isSome
  (found.foldl (fun n c => n * base + (digit? base c).getD 0) 0, chars.drop found.length)

/-- The number at the beginning of a text that begins with a digit. -/
def unsigned (chars : List Char) : Nat × List Char :=
  match chars with
  | '0' :: x :: c :: rest =>
    if (x = 'x' || x = 'X') && (digit? 16 c).isSome then digits 16 (c :: rest)
    else digits 8 chars
  | '0' :: _ => digits 8 chars
  | _ => digits 10 chars

/-- The nearest word. -/
def clamp (n : Int) : Int64 :=
  if n < Int64.minValue.toInt then Int64.minValue
  else if Int64.maxValue.toInt < n then Int64.maxValue
  else Int64.ofInt n

def isBlank (c : Char) : Bool := c = ' ' || ('\t' ≤ c && c ≤ '\x0d')

/-- The number that a variable's value is; blanks around it do not count. -/
def ofValue (text : String) : Except ArithmeticFault Int64 :=
  let chars := text.toList.dropWhile isBlank
  if text = "" then .ok 0
  else
    let (negative, chars) := match chars with
      | '-' :: rest => (true, rest)
      | '+' :: rest => (false, rest)
      | _ => (false, chars)
    if !chars.head?.any Char.isDigit then .error (.badNumber text)
    else
      let (n, rest) := unsigned chars
      let value : Int := if negative then -n else n
      if !rest.all isBlank || (clamp value).toInt ≠ value then .error (.badNumber text)
      else .ok (clamp value)

def longSymbols : List String :=
  ["<<=", ">>=", "&&", "||", "<<", ">>", "<=", ">=", "==", "!=", "*=", "/=", "%=", "+=", "-=",
    "&=", "^=", "|="]

def lexemes : (fuel : Nat) → List Char → List Lexeme
  | 0, _ | _, [] => []
  | fuel + 1, c :: rest =>
    if isBlank c then lexemes fuel rest
    else if c.isDigit then
      let (n, rest) := unsigned (c :: rest)
      .number (clamp n) :: lexemes fuel rest
    else if c.isAlpha || c = '_' then
      let name := (c :: rest).takeWhile fun c => c.isAlphanum || c = '_'
      .name (String.ofList name) :: lexemes fuel ((c :: rest).drop name.length)
    else
      let long := longSymbols.find? fun symbol => symbol.toList.isPrefixOf (c :: rest)
      let symbol := long.getD (String.ofList [c])
      .symbol symbol :: lexemes fuel ((c :: rest).drop symbol.length)

/-- What can be read of an expression. -/
inductive Goal where
  | expression
  | choice
  | disjunction
  | conjunction
  | operands (levels : List (List (String × BinaryOperator)))
  | operand
  /-- Operators of the first level behind something. -/
  | further (before : Arithmetic) (levels : List (List (String × BinaryOperator)))

def read : (fuel : Nat) → Goal → List Lexeme →
    Except ArithmeticFault (Arithmetic × List Lexeme)
  | 0, _, _ => .error .expectingOperand
  | fuel + 1, goal, lexemes => do
    match goal, lexemes with
    | .expression, .name name :: .symbol "=" :: rest =>
      let (value, rest) ← read fuel .expression rest
      return (.assignment name none value, rest)
    | .expression, .name name :: .symbol symbol :: rest =>
      match BinaryOperator.assigning.lookup symbol with
      | some operator =>
        let (value, rest) ← read fuel .expression rest
        return (.assignment name (some operator) value, rest)
      | none => read fuel .choice lexemes
    | .expression, _ => read fuel .choice lexemes
    | .choice, _ =>
      match ← read fuel .disjunction lexemes with
      | (test, .symbol "?" :: rest) =>
        match ← read fuel .expression rest with
        | (yes, .symbol ":" :: rest) =>
          let (no, rest) ← read fuel .choice rest
          return (.choice test yes no, rest)
        | _ => throw .expectingColon
      | plain => return plain
    | .disjunction, _ =>
      match ← read fuel .conjunction lexemes with
      | (first, .symbol "||" :: rest) =>
        let (second, rest) ← read fuel .disjunction rest
        return (.either first second, rest)
      | plain => return plain
    | .conjunction, _ =>
      match ← read fuel (.operands BinaryOperator.levels) lexemes with
      | (first, .symbol "&&" :: rest) =>
        let (second, rest) ← read fuel .conjunction rest
        return (.both first second, rest)
      | plain => return plain
    | .operands [], _ => read fuel .operand lexemes
    | .operands (level :: levels), _ =>
      let (first, rest) ← read fuel (.operands levels) lexemes
      read fuel (.further first (level :: levels)) rest
    | .further before (level :: levels), .symbol symbol :: rest =>
      match level.lookup symbol with
      | some operator =>
        let (second, rest) ← read fuel (.operands levels) rest
        read fuel (.further (.binary operator before second) (level :: levels)) rest
      | none => return (before, lexemes)
    | .further before _, _ => return (before, lexemes)
    | .operand, .number n :: rest => return (.number n, rest)
    | .operand, .name name :: rest => return (.parameter name, rest)
    | .operand, .symbol "(" :: rest =>
      match ← read fuel .expression rest with
      | (inside, .symbol ")" :: rest) => return (inside, rest)
      | _ => throw .expectingBracket
    | .operand, .symbol symbol :: rest =>
      let operator : Option UnaryOperator := match symbol with
        | "+" => some .plus
        | "-" => some .minus
        | "!" => some .not
        | "~" => some .complement
        | _ => none
      match operator with
      | some operator =>
        let (body, rest) ← read fuel .operand rest
        return (.unary operator body, rest)
      | none => throw .expectingOperand
    | .operand, [] => throw .expectingOperand

def parse (text : String) : Except ArithmeticFault Arithmetic := do
  let lexemes := lexemes text.length text.toList
  match ← read (16 * lexemes.length + 16) .expression lexemes with
  | (expression, []) => return expression
  | _ => throw .expectingEnd

/-- Evaluates an expression on a state whose variables can be read and assigned. -/
def value {σ : Type} (get : σ → String → Except ArithmeticFault Int64)
    (assign : σ → String → Int64 → Except ArithmeticFault σ) :
    Arithmetic → σ → Except ArithmeticFault (Int64 × σ)
  | .number n, s => .ok (n, s)
  | .parameter name, s => do return (← get s name, s)
  | .assignment name operator body, s => do
    let (b, s) ← body.value get assign s
    let b ← match operator with
      | none => pure b
      | some operator => operator.apply (← get s name) b
    return (b, ← assign s name b)
  | .unary operator body, s => do
    let (a, s) ← body.value get assign s
    return (operator.apply a, s)
  | .binary operator first second, s => do
    let (a, s) ← first.value get assign s
    let (b, s) ← second.value get assign s
    return (← operator.apply a b, s)
  | .both first second, s => do
    let (a, s) ← first.value get assign s
    if a = 0 then return (0, s)
    else
      let (b, s) ← second.value get assign s
      return (BinaryOperator.ofTruth (b ≠ 0), s)
  | .either first second, s => do
    let (a, s) ← first.value get assign s
    if a ≠ 0 then return (1, s)
    else
      let (b, s) ← second.value get assign s
      return (BinaryOperator.ofTruth (b ≠ 0), s)
  | .choice test yes no, s => do
    let (a, s) ← test.value get assign s
    if a ≠ 0 then yes.value get assign s else no.value get assign s

end Arithmetic

end ColdBuild.Shell
