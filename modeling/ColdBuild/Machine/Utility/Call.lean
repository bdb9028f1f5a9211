import ColdBuild.Machine.Process

/-!
# How utilities are called

Options begin with a dash and have a letter, or with two dashes and have a name, which may be cut
short as long as it is clear. Letters may stand together. An option may take a value, which stands
behind it or is the next word. Other words are operands; options may stand behind them, unless the
first operand is the beginning of another command.

A utility says which options it knows by a list of texts: the letters and names of an option with
commas between them, and at the end an equals sign if it takes a value, or a question mark if it
may take one. An option is known by what comes first.
-/

namespace ColdBuild

inductive OptionValue where
  | none
  | demanded
  | allowed
  deriving DecidableEq, Repr

structure OptionRule where
  names : List String
  value : OptionValue
  deriving DecidableEq, Repr

namespace OptionRule

def ofText (text : String) : OptionRule :=
  let split (text : String) : List String := text.splitOn ","
  if text.endsWith "=" then ⟨split (text.dropEnd 1).toString, .demanded⟩
  else if text.endsWith "?" then ⟨split (text.dropEnd 1).toString, .allowed⟩
  else ⟨split text, .none⟩

/-- What the option is known by. -/
def key (rule : OptionRule) : String := rule.names.headD ""

end OptionRule

structure Call where
  options : List (String × String) := []
  operands : List String := []
  deriving DecidableEq, Repr

namespace Call

def has (call : Call) (key : String) : Bool := call.options.any (·.1 = key)

def value? (call : Call) (key : String) : Option String :=
  ((call.options.filter (·.1 = key)).getLast?).map Prod.snd

def values (call : Call) (key : String) : List String :=
  (call.options.filter (·.1 = key)).map Prod.snd

/-- Which of some options was given last. -/
def last? (call : Call) (keys : List String) : Option String :=
  ((call.options.filter fun option => keys.contains option.1).getLast?).map Prod.fst

/-- The rule for a name, or for the beginning of one. -/
def longRule (rules : List OptionRule) (name : String) : Except String OptionRule :=
  match rules.find? fun rule => rule.names.contains name && name.length ≠ 1 with
  | some rule => .ok rule
  | none =>
    match rules.filter fun rule => rule.names.any fun full =>
        full.length ≠ 1 && full.startsWith name with
    | [rule] => .ok rule
    | [] => .error s!"unrecognized option '--{name}'"
    | _ => .error s!"option '--{name}' is ambiguous"

/-- Reads letters that stand together, and the words behind them. -/
def readLetters (rules : List OptionRule) : List Char → List String →
    Except String (List (String × String) × List String)
  | [], rest => .ok ([], rest)
  | letter :: letters, rest =>
    match rules.find? fun rule => rule.names.contains (String.ofList [letter]) with
    | none => .error s!"invalid option -- '{letter}'"
    | some rule =>
      match rule.value, letters, rest with
      | .none, _, _ => do
        let (more, rest) ← readLetters rules letters rest
        return ((rule.key, "") :: more, rest)
      | .demanded, [], value :: rest => .ok ([(rule.key, value)], rest)
      | .demanded, [], [] => .error s!"option requires an argument -- '{letter}'"
      | _, value, rest => .ok ([(rule.key, String.ofList value)], rest)

def readWords (rules : List OptionRule) (permuted : Bool) : (fuel : Nat) → Call → List String →
    Except String Call
  | 0, call, words => .ok { call with operands := call.operands ++ words }
  | _, call, [] => .ok call
  | fuel + 1, call, word :: rest => do
    if word = "--" then return { call with operands := call.operands ++ rest }
    else if word.startsWith "--" then
      let (name, value) := match word.splitOn "=" with
        | name :: first :: more => (name, some ("=".intercalate (first :: more)))
        | _ => (word, none)
      let name := (name.drop 2).toString
      let rule ← longRule rules name
      let full := (rule.names.find? fun full => full.length ≠ 1 && full.startsWith name).getD name
      match rule.value, value, rest with
      | .none, some _, _ => throw s!"option '--{full}' doesn't allow an argument"
      | .demanded, none, [] => throw s!"option '--{full}' requires an argument"
      | .demanded, none, value :: rest =>
        readWords rules permuted fuel { call with options := call.options ++ [(rule.key, value)] } rest
      | _, value, _ =>
        readWords rules permuted fuel
          { call with options := call.options ++ [(rule.key, value.getD "")] } rest
    else if word.startsWith "-" && word ≠ "-" then
      let (options, rest) ← readLetters rules (word.toList.drop 1) rest
      readWords rules permuted fuel { call with options := call.options ++ options } rest
    else if permuted then
      readWords rules permuted fuel { call with operands := call.operands ++ [word] } rest
    else return { call with operands := call.operands ++ word :: rest }

end Call

namespace Process

/-- Writes a message to the diagnostic output, before what has been printed but not written. -/
def mutter (p : Process) (message : String) : Process := p.complain s!"{p.name}: {message}\n"

/-- Prints a text; it is written when the utility ends, or before it reports something. -/
def print (p : Process) (text : String) : Process :=
  if text = "" then p else { p with unwritten := p.unwritten ++ text }

def flush (p : Process) : Process :=
  let quiet := { p with unwritten := "" }
  match quiet.write 1 p.unwritten with
  | .ok p => p
  | .error fault =>
    if p.unwritten = "" then p
    else { quiet.mutter s!"write error: {faultText fault}" with status := 1 }

/-- Writes a message to the diagnostic output, behind what has been printed. -/
def report (p : Process) (message : String) : Process := p.flush.mutter message

/-- Reports a failure, and makes it the status. -/
def fault (p : Process) (message : String) (status : Nat := 1) : Process :=
  { p.report message with status }

/-- Reports a failure of the operating system about something. -/
def faultAbout (p : Process) (about : String) (fault : OsFault) : Process :=
  p.fault s!"{about}: {faultText fault}"

def misuse (p : Process) (message : String) (status : Nat := 1) : Process :=
  p.fault s!"{message}\nTry '{p.name} --help' for more information." status

/-- Goes on with a call, if it is one that the utility knows. -/
def withCall (p : Process) (rules : List String) (next : Call → Process) (permuted : Bool := true)
    (status : Nat := 1) : Process :=
  let rules := (rules ++ ["help", "version"]).map OptionRule.ofText
  match Call.readWords rules permuted (p.words.length + 1) {} p.arguments with
  | .error message => p.misuse message status
  | .ok call =>
    if call.has "help" || call.has "version" then p.print s!"{p.name}\n" else next call

/-- What an operand names is read: a file, or the input. -/
def source (p : Process) (operand : String) : Except OsFault (String × Process) :=
  if operand = "-" then p.readAll 0
  else (p.readFile operand).map (·, p)

/-- Goes through what the operands name, one after another, or through the input if there are
none. What cannot be read is reported. -/
def forSources (p : Process) (operands : List String) (use : Process → String → String → Process) :
    Process :=
  (if operands.isEmpty then ["-"] else operands).foldl (fun p operand =>
    match p.source operand with
    | .ok (text, p) => use p operand text
    | .error fault => p.faultAbout operand fault) p

end Process

/-- The lines of a text; a last one that is not ended counts. -/
def linesOf (text : String) : List String :=
  match (text.splitOn "\n").reverse with
  | "" :: rest => rest.reverse
  | lines => lines.reverse

end ColdBuild
