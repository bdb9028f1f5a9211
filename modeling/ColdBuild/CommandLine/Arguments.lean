import ColdBuild.CommandLine.Options

/-!
# Reading the command line

Arguments are read from left to right, and the first one that settles the matter ends the
reading: a mistake, or a request for help or for the version. An option whose value is still to
come is only set when the next option arrives or the arguments end, so a mistake in its value is
found no earlier; an argument that is not known at all is reported at once and hides it.

A word that begins with a dash is no value, except a lone dash, and a negative number where the
number of runs is expected. After two dashes alone nothing is accepted any more.
-/

namespace ColdBuild

inductive ReadingEnd where
  | help
  | version
  | mistake (error : UsageError)
  deriving DecidableEq, Repr

/-- How far the command line has been read. -/
structure Reading where
  given : GivenOptions := {}
  /-- An option that is not set yet, with its value as soon as that has been read. -/
  pending : Option (ValueOption × Option String) := none
  /-- Two dashes alone have been read. -/
  closed : Bool := false
  deriving DecidableEq

/-- The text looks like a number without its sign: digits with at most one point, not in front,
and at most one exponent mark, neither in front nor at the end. -/
def looksLikeNumber (text : List Char) : Bool :=
  let (mantissa, exponent) := text.span (· ≠ 'e')
  let whole := mantissa.takeWhile Char.isDigit
  let fraction := mantissa.drop whole.length
  let goodMantissa := fraction.isEmpty ||
    (!whole.isEmpty && fraction.head? = some '.' && (fraction.drop 1).all Char.isDigit)
  let goodExponent := exponent.isEmpty ||
    (!mantissa.isEmpty && exponent.length ≠ 1 && (exponent.drop 1).all Char.isDigit)
  goodMantissa && goodExponent

namespace Reading

def refuse (error : UsageError) : Except ReadingEnd α := .error (.mistake error)

/-- Sets the option that is not set yet. -/
def settle (reading : Reading) : Except ReadingEnd Reading :=
  match reading.pending with
  | none => .ok reading
  | some (option, value) =>
    match reading.given.set option value with
    | .ok given => .ok { reading with given, pending := none }
    | .error error => refuse error

def takeSwitch (reading : Reading) (switch : Switch) : Except ReadingEnd Reading := do
  let reading ← reading.settle
  match switch with
  | .help => .error .help
  | .version => .error .version
  | .verbose => .ok { reading with given.verbosity := reading.given.verbosity + 1 }
  | .dynlink =>
    if reading.given.dynamic then refuse (.repeatedSwitch .dynlink)
    else .ok { reading with given.dynamic := true }

/-- Takes an option; a value that stands with it is set at once. -/
def takeOption (reading : Reading) (option : ValueOption) (attached : Option String) :
    Except ReadingEnd Reading := do
  let reading ← reading.settle
  let reading := { reading with pending := some (option, attached) }
  if attached.isSome then reading.settle else return reading

/-- Takes an argument that begins with two dashes, given without them. -/
def takeLong (reading : Reading) (text : List Char) : Except ReadingEnd Reading :=
  let (name, rest) := text.span (· ≠ '=')
  let name := String.ofList name
  let attached := if rest.isEmpty then none else some (String.ofList (rest.drop 1))
  match ValueOption.ofName? name, Switch.ofName? name, attached with
  | some option, _, _ => reading.takeOption option attached
  | none, some switch, none => reading.takeSwitch switch
  | none, some switch, some value => refuse (.unexpectedValue value switch)
  | none, none, _ => refuse (.unexpectedArgument s!"--{name}")

/-- Takes one-letter options written together. The rest after `C` is its value, less an equals
sign in front. -/
def takeLetters (reading : Reading) : List Char → Except ReadingEnd Reading
  | [] => .ok reading
  | 'C' :: rest =>
    let value := if rest.head? = some '=' then rest.drop 1 else rest
    reading.takeOption .directory (if rest.isEmpty then none else some (String.ofList value))
  | c :: rest =>
    match Switch.ofLetter? c with
    | none => refuse (.unexpectedArgument s!"-{c}")
    | some switch => do takeLetters (← reading.takeSwitch switch) rest

/-- Takes an argument as the value of the option before it. -/
def takeWord (reading : Reading) (argument : String) : Except ReadingEnd Reading :=
  match reading.pending with
  | some (option, none) => .ok { reading with pending := some (option, some argument) }
  | _ => refuse (.unexpectedArgument argument)

def take (reading : Reading) (argument : String) : Except ReadingEnd Reading :=
  if reading.closed then refuse (.unexpectedArgument argument)
  else match argument.toList with
    | ['-', '-'] => .ok { reading with closed := true }
    | '-' :: '-' :: text => reading.takeLong text
    | '-' :: c :: text =>
      if reading.pending = some (.runs, none) && looksLikeNumber (c :: text) then
        reading.takeWord argument
      else reading.takeLetters (c :: text)
    | _ => reading.takeWord argument

def all (arguments : List String) : Except ReadingEnd GivenOptions := do
  let reading ← arguments.foldlM take {}
  return (← reading.settle).given

end Reading

end ColdBuild
