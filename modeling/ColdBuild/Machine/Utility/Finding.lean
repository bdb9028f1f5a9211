import ColdBuild.Machine.Shell.Pattern
import ColdBuild.Machine.Utility.Listing
import ColdBuild.Machine.Utility.Running

/-!
# Searching directories

Every file below the starting points is tried against an expression of tests and actions. Both
sides of an expression are tried only as far as that matters. If the expression has no action, the
names of the files that it holds for are written.
-/

namespace ColdBuild.Search

inductive Comparison where
  | less
  | equal
  | greater
  deriving DecidableEq, Repr

inductive Test where
  | name (pattern : String) (folded : Bool)
  | path (pattern : String) (folded : Bool)
  | kind (letters : List Char)
  | size (comparison : Comparison) (count unit : Nat)
  | empty
  | newer (changed : Nat)
  | mode (mask wanted : Nat) (exact any : Bool)
  | links (comparison : Comparison) (count : Nat)
  | linkTarget (pattern : String)
  | constant (holds : Bool)
  | prune
  | print (mark : String)
  | printFormat (format : String)
  | delete
  | execute (words : List String) (together inside : Bool)
  | list
  | quit

inductive Expression where
  | test (test : Test)
  | negation (operand : Expression)
  | conjunction (first second : Expression)
  | disjunction (first second : Expression)
  | sequence (first second : Expression)

/-- Where the search goes. -/
structure Bounds where
  least : Nat := 0
  most : Option Nat := none
  /-- What is in a directory comes before the directory. -/
  depthFirst : Bool := false
  follow : Bool := false

abbrev Problem := String

def isAction : Expression → Bool
  | .test test => match test with
    | .print _ | .printFormat _ | .delete | .execute .. | .list => true
    | _ => false
  | .negation operand => isAction operand
  | .conjunction first second | .disjunction first second | .sequence first second =>
    isAction first || isAction second

def quoted (text : String) : String := String.ofList [Char.ofNat 96] ++ text ++ "'"

/-- A number with a sign that says how it is compared, and what stands behind it. -/
def comparison? (text : String) : Option (Comparison × Nat × List Char) :=
  let (comparison, chars) : Comparison × List Char := match text.toList with
    | '+' :: rest => (.greater, rest)
    | '-' :: rest => (.less, rest)
    | chars => (.equal, chars)
  let digits := chars.takeWhile Char.isDigit
  if digits.isEmpty then none
  else some (comparison, Nat.ofDigitChars 10 digits 0, chars.drop digits.length)

def sizeTest? (text : String) : Option Test := do
  let (comparison, count, unit) ← comparison? text
  let octets ← match unit with
    | [] | ['b'] => some 512
    | ['c'] => some 1
    | ['w'] => some 2
    | ['k'] => some 1024
    | ['M'] => some 1048576
    | ['G'] => some 1073741824
    | _ => none
  return .size comparison count octets

def modeTest? (text : String) : Option Test :=
  let (front, digits) := match text.toList with
    | '-' :: rest => ('-', rest)
    | '/' :: rest => ('/', rest)
    | rest => (' ', rest)
  let wanted := if !digits.isEmpty && digits.all fun c => '0' ≤ c && c ≤ '7' then
      some (Nat.ofDigitChars 8 digits 0)
    else Process.changedMode? 0 (String.ofList digits) 0
  wanted.map fun wanted => .mode (if front = ' ' then 0o7777 else wanted) wanted (front ≠ '/')
    (front = '/')

/-- The words of a command up to its end, and what is behind it. -/
def commandWords (words : List String) : Option (List String × Bool × List String) :=
  let command := words.takeWhile fun word => word ≠ ";"
  let marks := (words.zip (words.drop 1)).findIdx? fun (word, next) =>
    word = "\x7b\x7d" && next = "+"
  match marks with
  | some n =>
    if n < command.length then some (words.take n, true, words.drop (n + 2))
    else if command.length < words.length then some (command, false, words.drop (command.length + 1))
    else none
  | none =>
    if command.length < words.length then some (command, false, words.drop (command.length + 1))
    else none

/-- What is read next. -/
inductive Goal where
  | sequence
  | disjunction
  | conjunction
  | operand

def read (p : Process) : (fuel : Nat) → Goal → Bounds → List String →
    Except Problem (Expression × Bounds × List String)
  | 0, _, _, _ => .error "expression too long"
  | fuel + 1, goal, bounds, words => do
    match goal with
    | .sequence =>
      let (first, bounds, rest) ← read p fuel .disjunction bounds words
      match rest with
      | "," :: rest =>
        let (second, bounds, rest) ← read p fuel .sequence bounds rest
        return (.sequence first second, bounds, rest)
      | _ => return (first, bounds, rest)
    | .disjunction =>
      let (first, bounds, rest) ← read p fuel .conjunction bounds words
      match rest with
      | "-o" :: rest | "-or" :: rest =>
        let (second, bounds, rest) ← read p fuel .disjunction bounds rest
        return (.disjunction first second, bounds, rest)
      | _ => return (first, bounds, rest)
    | .conjunction =>
      let (first, bounds, rest) ← read p fuel .operand bounds words
      match rest with
      | [] | ")" :: _ | "," :: _ | "-o" :: _ | "-or" :: _ => return (first, bounds, rest)
      | "-a" :: rest | "-and" :: rest =>
        let (second, bounds, rest) ← read p fuel .conjunction bounds rest
        return (.conjunction first second, bounds, rest)
      | _ =>
        let (second, bounds, rest) ← read p fuel .conjunction bounds rest
        return (.conjunction first second, bounds, rest)
    | .operand =>
      match words with
      | [] => throw "invalid expression; expected an expression but found nothing"
      | "(" :: rest =>
        let (inner, bounds, rest) ← read p fuel .sequence bounds rest
        match rest with
        | ")" :: rest => return (inner, bounds, rest)
        | _ =>
          throw "invalid expression; I was expecting to find a ')' somewhere but did not see one."
      | "!" :: rest | "-not" :: rest =>
        let (operand, bounds, rest) ← read p fuel .operand bounds rest
        return (.negation operand, bounds, rest)
      | word :: rest =>
        let plain (test : Test) : Except Problem (Expression × Bounds × List String) :=
          .ok (.test test, bounds, rest)
        let withValue (use : String → Except Problem (Test × Bounds)) :
            Except Problem (Expression × Bounds × List String) :=
          match rest with
          | [] => .error ("missing argument to " ++ quoted word)
          | value :: rest => (use value).map fun (test, bounds) => (.test test, bounds, rest)
        let ofValue (use : String → Option Test) : Except Problem (Expression × Bounds × List String) :=
          withValue fun value => match use value with
            | some test => .ok (test, bounds)
            | none => .error ("invalid argument " ++ quoted value ++ " to " ++ quoted word)
        let depth (use : Nat → Bounds) : Except Problem (Expression × Bounds × List String) :=
          withValue fun value => match value.toNat? with
            | some n => .ok (.constant true, use n)
            | none =>
              .error (s!"Expected a positive decimal integer argument to {word}, but got " ++
                Process.shown value)
        let command (inside : Bool) : Except Problem (Expression × Bounds × List String) :=
          match commandWords rest with
          | some (command, together, rest) =>
            if command.isEmpty then .error ("missing argument to " ++ quoted word)
            else .ok (.test (.execute command together inside), bounds, rest)
          | none => .error ("missing argument to " ++ quoted word)
        match word with
        | "-name" => ofValue fun value => some (.name value false)
        | "-iname" => ofValue fun value => some (.name value true)
        | "-path" | "-wholename" => ofValue fun value => some (.path value false)
        | "-ipath" | "-iwholename" => ofValue fun value => some (.path value true)
        | "-lname" => ofValue fun value => some (.linkTarget value)
        | "-type" | "-xtype" =>
          withValue fun value =>
            let letters := value.toList.filter (· ≠ ',')
            match letters.find? fun c => !"bcdflps".toList.contains c with
            | some c => .error s!"Unknown argument to -type: {c}"
            | none => .ok (.kind letters, bounds)
        | "-size" => ofValue sizeTest?
        | "-perm" => ofValue modeTest?
        | "-links" => ofValue fun value => (comparison? value).map fun (c, n, _) => .links c n
        | "-newer" =>
          withValue fun value => match p.find value with
            | .ok number => .ok (.newer (p.files.changedAt number), bounds)
            | .error fault => .error s!"{Process.shown value}: {Process.faultText fault}"
        | "-mtime" | "-mmin" | "-ctime" | "-cmin" | "-atime" | "-amin" =>
          ofValue fun value => (comparison? value).map fun (c, n, _) =>
            .constant (match c with
              | .less => 0 < n
              | .equal => n = 0
              | .greater => false)
        | "-user" | "-group" | "-uid" | "-gid" =>
          ofValue fun value => some (.constant (value = "root" || value = "0"))
        | "-empty" => plain .empty
        | "-true" | "-readable" | "-writable" => plain (.constant true)
        | "-false" | "-nouser" | "-nogroup" => plain (.constant false)
        | "-executable" => plain (.mode 0o111 0o111 false true)
        | "-prune" => plain .prune
        | "-print" => plain (.print "\n")
        | "-print0" => plain (.print (String.ofList [Loaded.nul]))
        | "-printf" => ofValue fun value => some (.printFormat value)
        | "-ls" => plain .list
        | "-quit" => plain .quit
        | "-delete" => return (.test .delete, { bounds with depthFirst := true }, rest)
        | "-exec" | "-ok" => command false
        | "-execdir" | "-okdir" => command true
        | "-maxdepth" => depth fun n => { bounds with most := some n }
        | "-mindepth" => depth fun n => { bounds with least := n }
        | "-depth" | "-d" =>
          return (.test (.constant true), { bounds with depthFirst := true }, rest)
        | "-follow" => return (.test (.constant true), { bounds with follow := true }, rest)
        | "-mount" | "-xdev" | "-noleaf" | "-warn" | "-nowarn" | "-daystart" =>
          plain (.constant true)
        | _ =>
          if word.startsWith "-" then throw ("unknown predicate " ++ quoted word)
          else throw ("paths must precede expression: " ++ quoted word)

/-! ## Trying files -/

structure Found where
  path : String
  number : Nat
  depth : Nat
  start : String

structure Searching where
  process : Process
  pruned : Bool := false
  stopped : Bool := false
  /-- Files for commands that take many, by command. -/
  gathered : List (List String × List String) := []

def isMatch (pattern : String) (folded : Bool) (text : String) : Bool :=
  let low (text : String) : String := if folded then text.map Char.toLower else text
  let items := Shell.Pattern.items ((low pattern).toList.map Shell.Pattern.plain)
  Shell.Pattern.isMatch items (low text).toList

def compare (comparison : Comparison) (n count : Nat) : Bool :=
  match comparison with
  | .less => n < count
  | .equal => n = count
  | .greater => count < n

def kindLetter (fs : FileSystem) (number : Nat) : Char :=
  match fs.at? number with
  | some (.directory ..) => 'd'
  | some (.link _) => 'l'
  | some (.device _) => 'c'
  | _ => 'f'

/-- The text that a format asks for about a file. -/
def formatted (p : Process) (found : Found) : (fuel : Nat) → List Char → List Char
  | 0, _ | _, [] => []
  | fuel + 1, '%' :: letter :: rest =>
    let text : String := match letter with
      | 'p' => found.path
      | 'f' => FilePath.base found.path
      | 'h' => FilePath.parent found.path
      | 'P' =>
        let below := (found.path.drop found.start.length).toString
        if below.startsWith "/" then (below.drop 1).toString else below
      | 'H' => found.start
      | 'd' => toString found.depth
      | 'y' => String.ofList [kindLetter p.files found.number]
      | 's' => toString (p.files.sizeOf found.number)
      | 'm' => String.ofList (Nat.toDigits 8 (p.files.modeOf found.number))
      | 'M' => p.files.modeText found.number
      | 'n' => toString (p.files.linkCount found.number)
      | 'i' => toString (found.number + 100)
      | 'u' | 'g' => "root"
      | 'U' | 'G' => "0"
      | 'l' =>
        match p.files.at? found.number with
        | some (.link target) => Octets.ofBytes target.bytes
        | _ => ""
      | '%' => "%"
      | c => String.ofList ['%', c]
    text.toList ++ formatted p found fuel rest
  | fuel + 1, '\\' :: rest =>
    match Format.escape {} rest with
    | some (c, rest) => c :: formatted p found fuel rest
    | none => []
  | fuel + 1, c :: rest => c :: formatted p found fuel rest

/-- Tries a test or runs an action. -/
def attempt (execute : Executor) (found : Found) (test : Test) (s : Searching) : Bool × Searching :=
  let p := s.process
  match test with
  | .name pattern folded => (isMatch pattern folded (FilePath.base found.path), s)
  | .path pattern folded => (isMatch pattern folded found.path, s)
  | .kind letters => (letters.contains (kindLetter p.files found.number), s)
  | .size comparison count unit =>
    (compare comparison ((p.files.sizeOf found.number + unit - 1) / unit) count, s)
  | .empty =>
    let isEmpty := match p.files.at? found.number with
      | some (.file content _) => content = ""
      | some (.directory _ entries _) => entries.isEmpty
      | _ => false
    (isEmpty, s)
  | .newer changed => (changed < p.files.changedAt found.number, s)
  | .mode mask wanted exact any =>
    let mode := p.files.modeOf found.number
    (if any then wanted = 0 || mode &&& wanted ≠ 0 else exact && mode &&& mask = wanted, s)
  | .links comparison count => (compare comparison (p.files.linkCount found.number) count, s)
  | .linkTarget pattern =>
    match p.files.at? found.number with
    | some (.link target) => (isMatch pattern false (Octets.ofBytes target.bytes), s)
    | _ => (false, s)
  | .constant holds => (holds, s)
  | .prune => (true, { s with pruned := true })
  | .print mark => (true, { s with process := p.print (found.path ++ mark) })
  | .printFormat format =>
    let chars := formatted p found (format.length + 1) format.toList
    (true, { s with process := p.print (String.ofList chars) })
  | .list =>
    let text := s!"{p.files.modeText found.number} {p.files.linkCount found.number} root root " ++
      s!"{p.files.sizeOf found.number} {found.path}\n"
    (true, { s with process := p.print text })
  | .quit => (true, { s with stopped := true })
  | .delete =>
    if found.path = "." then (true, s)
    else
      let path := Process.pathOf found.path
      let removed := if (p.files.at? found.number).any Node.isDirectory then
          p.files.removeDirectory p.current path
        else p.files.unlink p.current path
      match removed with
      | .ok files => (true, { s with process := p.withFiles files })
      | .error fault =>
        let message := s!"cannot delete {Process.shown found.path}: {Process.faultText fault}"
        (false, { s with process := p.fault message })
  | .execute words together inside =>
    let path := if inside then s!"./{FilePath.base found.path}" else found.path
    if together then
      let gathered := if s.gathered.any (·.1 = words) then
          s.gathered.map fun (command, paths) =>
            (command, if command = words then paths ++ [path] else paths)
        else s.gathered ++ [(words, [path])]
      (true, { s with gathered })
    else
      let words := words.map (Process.filledIn "\x7b\x7d" path)
      let p := p.flush
      let s := { s with process := p }
      let current := if inside then
          (p.find (FilePath.parent found.path)).toOption.getD p.current
        else p.current
      match ({ p with current }).runChild execute words with
      | .ok child => (child.endingStatus = 0, { s with process := p.adopt child })
      | .error fault =>
        let message := Process.shown (words.headD "") ++ ": " ++ Process.faultText fault
        (false, { s with process := p.report message })

def holds (execute : Executor) (found : Found) : Expression → Searching → Bool × Searching
  | .test test, s => attempt execute found test s
  | .negation operand, s =>
    let (result, s) := holds execute found operand s
    (!result, s)
  | .conjunction first second, s =>
    match holds execute found first s with
    | (true, s) => if s.stopped then (true, s) else holds execute found second s
    | (false, s) => (false, s)
  | .disjunction first second, s =>
    match holds execute found first s with
    | (true, s) => (true, s)
    | (false, s) => if s.stopped then (false, s) else holds execute found second s
  | .sequence first second, s =>
    let (result, s) := holds execute found first s
    if s.stopped then (result, s) else holds execute found second s

/-- Tries a file and all that is below it. -/
def visit (execute : Executor) (bounds : Bounds) (expression : Expression) : (fuel : Nat) →
    Found → Searching → Searching
  | 0, _, s => s
  | fuel + 1, found, s =>
    if s.stopped then s
    else
      let tried (s : Searching) : Searching :=
        if found.depth < bounds.least || s.stopped then s
        else (holds execute found expression s).2
      let s := if bounds.depthFirst then s else tried { s with pruned := false }
      let deeper := bounds.most.all (found.depth < ·) && (!s.pruned || bounds.depthFirst)
      let s := { s with pruned := false }
      let p := s.process
      let s := if !deeper then s
        else (p.files.entries found.number).foldl (fun s (name, number) =>
          let path := FilePath.join found.path (Octets.ofBytes name)
          let number := if bounds.follow then
              (s.process.find path).toOption.getD number
            else number
          visit execute bounds expression fuel ⟨path, number, found.depth + 1, found.start⟩ s) s
      if bounds.depthFirst then tried s else s

def find (execute : Executor) (p : Process) : Process :=
  let early := p.arguments.takeWhile fun word => ["-H", "-L", "-P"].contains word
  let rest := p.arguments.drop early.length
  let isExpression (word : String) : Bool :=
    (word.startsWith "-" && word ≠ "-") || ["(", "!", ")", ","].contains word
  let starts := rest.takeWhile (!isExpression ·)
  let words := rest.drop starts.length
  let starts := if starts.isEmpty then ["."] else starts
  let bounds : Bounds := { follow := early.getLast? = some "-L" }
  let parsed := if words.isEmpty then .ok (.test (.constant true), bounds, [])
    else read p (4 * words.length + 8) .sequence bounds words
  match parsed with
  | .error problem => p.fault problem
  | .ok (_, _, ")" :: _) => p.fault "you have too many ')'"
  | .ok (_, _, word :: _) => p.fault ("paths must precede expression: " ++ quoted word)
  | .ok (expression, bounds, []) =>
    let expression := if isAction expression then expression
      else .conjunction expression (.test (.print "\n"))
    let s := starts.foldl (fun (s : Searching) start =>
      let follow := early.getLast? = some "-L" || early.getLast? = some "-H"
      let found : Except OsFault Nat := match s.process.find start follow with
        | .ok number => .ok number
        | .error fault => (s.process.find start false).mapError fun _ => fault
      match found with
      | .error fault =>
        let message := s!"{Process.shown start}: {Process.faultText fault}"
        { s with process := s.process.fault message }
      | .ok number =>
        visit execute bounds expression s.process.files.nodes.size ⟨start, number, 0, start⟩ s)
      { process := p }
    s.gathered.foldl (fun (p : Process) (words, paths) =>
      match p.runChild execute (words ++ paths) with
      | .ok child => if child.endingStatus = 0 then p.adopt child else (p.adopt child).exit 1
      | .error fault => p.faultAbout (Process.shown (words.headD "")) fault)
      s.process.flush

end ColdBuild.Search
