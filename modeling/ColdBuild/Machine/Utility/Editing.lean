import ColdBuild.Machine.Loading
import ColdBuild.Machine.Utility.Call
import ColdBuild.Machine.Utility.EditScript

/-!
# The stream editor

The editor reads one line after another into a space of its own, runs its script on it, and
writes what the space then holds. What a script puts behind a line is kept until the line has been
written. A last line that was not ended is not ended when it is written, unless something is
written behind it.
-/

namespace ColdBuild.Edit

structure Line where
  text : String
  /-- The line end is there. -/
  ended : Bool
  file : String
  /-- Lines are counted anew from here on. -/
  first : Bool
  deriving DecidableEq, Repr

/-- What is written behind a line. -/
inductive Behind where
  | text (text : String)
  | file (name : String)
  deriving DecidableEq, Repr

/-- How far a range has got. -/
inductive RangeState where
  | idle
  /-- Up to a line, or up to one that the last address selects. -/
  | active (last : Option Nat)
  | over
  deriving DecidableEq, Repr

/-- How the editor is called. -/
structure Manner where
  silent : Bool := false
  separate : Bool := false
  inPlace : Option String := none
  delimiter : Char := '\n'
  width : Nat := 70

structure Editor where
  process : Process
  script : Array Instruction
  manner : Manner
  /-- Lines that have not been read. -/
  input : List Line
  space : String := ""
  ended : Bool := true
  hold : String := ""
  /-- What is held is written as a line that was ended. -/
  holdEnded : Bool := true
  file : String := "-"
  number : Nat := 0
  /-- What has been written, the last first. -/
  written : List String := []
  /-- The last line that has been written is not ended yet. -/
  unended : Bool := false
  behind : List Behind := []
  replaced : Bool := false
  ranges : Array RangeState
  lastExpression : Option (Regex.Expression Regex.Symbol) := none
  /-- Files that lines are taken from one by one, each with how many have been taken. -/
  taken : List (String × Nat) := []
  /-- Files that lines are written to, each with its place among the open files. -/
  files : List (String × Nat) := []

/-- Where the editor goes on after a command. -/
inductive Step where
  | on (instruction : Nat)
  /-- With the next line, after the space has been written. -/
  | nextLine
  /-- With the next line. -/
  | nextLineSilently
  /-- With what the space holds. -/
  | again
  | stop (status : Nat) (silent : Bool)

namespace Editor

def mark (e : Editor) : String := String.ofList [e.manner.delimiter]

def put (e : Editor) (text : String) : Editor :=
  let before := if e.unended then [e.mark] else []
  { e with written := text :: before ++ e.written, unended := false }

def putLine (e : Editor) (text : String) : Editor :=
  let e := e.put (if e.ended then text ++ e.mark else text)
  { e with unended := !e.ended }

def putInto (e : Editor) (file text : String) : Editor :=
  if file = "/dev/stdout" then e.putLine text
  else match e.files.lookup file with
    | none => e
    | some place =>
      let p := { e.process with descriptors := [(3, place)] }
      let line := if e.ended then text ++ e.mark else text
      { e with process := { e.process with system := (p.send 3 line).system } }

def putBehind (e : Editor) : Editor :=
  let e := e.behind.foldl (fun e behind =>
    match behind with
    | .text text => e.put text
    | .file name =>
      let read := if name = "/dev/stdin" then e.process.readAll 0
        else (e.process.readFile name).map (·, e.process)
      match read with
      | .ok (text, process) => if text = "" then e else { e with process }.put text
      | .error _ => e) e
  { e with behind := [] }

/-- How far the range of an instruction has got at the beginning. -/
def begun (instruction : Instruction) : RangeState :=
  match instruction.first with
  | some .zero => .active none
  | _ => .idle

/-- Reads the next line, into the space or to its end. -/
def read (e : Editor) (further : Bool) : Option Editor :=
  match e.input with
  | [] => none
  | line :: input =>
    let e := e.putBehind
    some { e with
      input
      replaced := false
      space := if further then e.space ++ e.mark ++ line.text else line.text
      ended := line.ended
      file := line.file
      number := if line.first then 1 else e.number + 1
      hold := if line.first then "" else e.hold
      holdEnded := line.first || e.holdEnded
      ranges := if line.first then e.script.map begun else e.ranges }

/-- The line that has been read is the last one, or the last one of its file. -/
def isLast (e : Editor) : Bool :=
  match e.input with
  | [] => true
  | line :: _ => e.manner.separate && line.first

def matches? (e : Editor) (expression : Option (Regex.Expression Regex.Symbol)) : Bool × Editor :=
  match expression <|> e.lastExpression with
  | none => (false, e)
  | some expression =>
    (expression.occursIn e.space, { e with lastExpression := some expression })

def selects (e : Editor) : Address → Bool × Editor
  | .line n => (e.number = n, e)
  | .last => (e.isLast, e)
  | .expression expression => e.matches? expression
  | .step first step =>
    (if step = 0 then e.number = first
      else first ≤ e.number && (e.number - first) % step = 0, e)
  | .zero => (false, e)

def setRange (e : Editor) (place : Nat) (state : RangeState) : Editor :=
  { e with ranges := e.ranges.setIfInBounds place state }

/-- Begins a range at a line that its first address selects. A first address that is a number
selects later lines as well, as long as the range has not been begun; the state to leave behind if
the range is at its end already says whether it may begin once more. -/
def beginRange (e : Editor) (place : Nat) (finished : RangeState) : RangeEnd → Editor
  | .address (.line n) =>
    e.setRange place (if n ≤ e.number then finished else .active (some n))
  | .address _ => e.setRange place (.active none)
  | .further 0 | .multiple 0 => e.setRange place finished
  | .further n => e.setRange place (.active (some (e.number + n)))
  | .multiple n => e.setRange place (.active (some ((e.number / n + 1) * n)))

def beginsAt (e : Editor) (place : Nat) (address : Address) (last : RangeEnd) : Bool × Editor :=
  match address with
  | .line m =>
    let isPast := match last with
      | .address (.line n) => n < e.number && e.number ≠ m
      | _ => false
    if e.number < m then (false, e) else (!isPast, e.beginRange place .over last)
  | address =>
    let (selected, e) := e.selects address
    if selected then (true, e.beginRange place .idle last) else (false, e)

def isFor (e : Editor) (place : Nat) (instruction : Instruction) : Bool × Editor :=
  match instruction.first, instruction.last with
  | none, _ => (true, e)
  | some address, none => e.selects address
  | some address, some last =>
    match e.ranges.getD place .idle, last with
    | .active (some n), .address _ =>
      (e.number ≤ n, if e.number < n then e else e.setRange place .over)
    | .active (some n), _ => (true, if e.number < n then e else e.setRange place .over)
    | .active none, .address goal =>
      let (selected, e) := e.selects goal
      (true, if selected then e.setRange place .over else e)
    | .active none, _ => (true, e)
    | .over, last =>
      match address with
      | .line _ | .zero => (false, e)
      | _ => e.beginsAt place address last
    | .idle, last => e.beginsAt place address last

/-- A range that an instruction is for goes on behind the line. -/
def isInside (e : Editor) (place : Nat) : Bool :=
  match e.ranges.getD place .idle with
  | .active _ => true
  | _ => false

end Editor

/-! ## Replacing -/

/-- A text whose letters are changed: all of them, and the first one. -/
def recase (mode once : CaseChange) (text : String) : String :=
  let change (mode : CaseChange) (c : Char) : Char := match mode with
    | .upper | .upperNext => c.toUpper
    | .lower | .lowerNext => c.toLower
    | .none => c
  match text.toList with
  | [] => ""
  | c :: rest =>
    String.ofList (change (if once = .none then mode else once) c :: rest.map (change mode))

/-- The text that a replacement puts in the place of a match. -/
def replacementText (text : Array Char) (captures : Regex.Captures) (parts : List ReplacementPart) :
    String :=
  let add (result : String × CaseChange × CaseChange) (piece : String) :
      String × CaseChange × CaseChange :=
    if piece = "" then result
    else (result.1 ++ recase result.2.1 result.2.2 piece, result.2.1, .none)
  (parts.foldl (fun result part =>
    match part with
    | .text piece => add result piece
    | .group n =>
      match captures.group? n with
      | some (first, last) => add result (String.ofList (text.extract first last).toList)
      | none => result
    | .change mode =>
      match mode with
      | .upperNext | .lowerNext => (result.1, result.2.1, mode)
      | _ => (result.1, mode, .none)) ("", .none, .none)).1

/-- Replaces matches from some place on; what stands before it has been dealt with. The flag says
whether a match has ended right there. -/
def replaceFrom (substitution : Substitution) (expression : Regex.Expression Regex.Symbol)
    (text : Array Char) : (fuel : Nat) → (count place : Nat) → (after : Bool) →
    List String → Bool → List String × Bool
  | 0, _, _, _, done, replaced => (done, replaced)
  | fuel + 1, count, place, after, done, replaced =>
    let piece (first last : Nat) : String := String.ofList (text.extract first last).toList
    match if text.size < place then none else expression.findFrom text place with
    | none => (piece place text.size :: done, replaced)
    | some captures =>
      let (first, last) := (captures.group? 0).getD (place, place)
      let done := piece place first :: done
      let isEmpty := first = last
      if isEmpty && after && first = place then
        replaceFrom substitution expression text fuel count (place + 1) false
          (piece place (place + 1) :: done) replaced
      else
        let chosen := substitution.first ≤ count
        let new := if chosen then replacementText text captures substitution.replacement
          else piece first last
        let done := new :: done
        if chosen && !substitution.everywhere then (piece last text.size :: done, true)
        else if isEmpty then
          replaceFrom substitution expression text fuel (count + 1) (last + 1) false
            (piece last (last + 1) :: done) (replaced || chosen)
        else
          replaceFrom substitution expression text fuel (count + 1) last true done
            (replaced || chosen)

/-! ## Showing -/

/-- A character as it is shown without doubt. -/
def plainly (c : Char) : String :=
  match c with
  | '\\' => "\\\\"
  | '\x07' => "\\a"
  | '\x08' => "\\b"
  | '\x0c' => "\\f"
  | '\n' => "\\n"
  | '\x0d' => "\\r"
  | '\t' => "\\t"
  | '\x0b' => "\\v"
  | c =>
    if ' ' ≤ c && c ≤ '~' then String.ofList [c]
    else
      let digits := Nat.toDigits 8 c.toNat
      "\\" ++ String.ofList (List.replicate (3 - digits.length) '0' ++ digits)

/-- A text as it is shown without doubt, in lines of a width; zero is no limit. -/
def listed (width : Nat) (text : String) : String :=
  let (done, line) := text.toList.foldl (fun (done, line) c =>
    let shown := plainly c
    if width ≠ 0 && width < String.length line + shown.length + 1 && line ≠ "" then
      (s!"{line}\\\n" :: done, shown)
    else (done, line ++ shown)) (([] : List String), "")
  String.join ((s!"{line}$\n") :: done).reverse

/-! ## Running -/

namespace Editor

/-- The instruction behind the one that closes what opens at a place. -/
def behindClosing (script : Array Instruction) : (fuel depth place : Nat) → Nat
  | 0, _, place => place
  | fuel + 1, depth, place =>
    match script[place]? with
    | none => place
    | some instruction =>
      match instruction.action, depth with
      | .opening, depth => behindClosing script fuel (depth + 1) (place + 1)
      | .closing, 0 => place + 1
      | .closing, depth + 1 => behindClosing script fuel depth (place + 1)
      | _, depth => behindClosing script fuel depth (place + 1)

/-- Where a label is; without one, behind the script. -/
def placeOfLabel (script : Array Instruction) (name : String) : Nat :=
  if name = "" then script.size
  else (script.findIdx? fun instruction =>
    match instruction.action with
    | .label label => label = name
    | _ => false).getD script.size

/-- What the space holds up to a line end, and what is behind that. -/
def firstLine (e : Editor) : String × Option String :=
  let chars := e.space.toList
  let first := chars.takeWhile (· ≠ e.manner.delimiter)
  match chars.drop first.length with
  | [] => (e.space, none)
  | _ :: rest => (String.ofList first, some (String.ofList rest))

def substitute (e : Editor) (substitution : Substitution) : Editor :=
  match substitution.expression <|> e.lastExpression with
  | none => e
  | some expression =>
    let e := { e with lastExpression := some expression }
    let text := e.space.toList.toArray
    match replaceFrom substitution expression text (2 * text.size + 2) 1 0 false [] false with
    | (_, false) => e
    | (parts, true) =>
      let e := { e with space := String.join parts.reverse, replaced := true }
      let e := if substitution.printed then e.putLine e.space else e
      match substitution.file with
      | some file => e.putInto file e.space
      | none => e

/-- Runs the command of an instruction that is for the line. -/
def act (e : Editor) (place : Nat) (instruction : Instruction) : Step × Editor :=
  let on (e : Editor) : Step × Editor := (.on (place + 1), e)
  match instruction.action with
  | .opening | .closing | .label _ | .nothing => on e
  | .append text => on { e with behind := e.behind ++ [.text text] }
  | .insert text => on (e.put text)
  | .change text =>
    (.nextLineSilently, if instruction.last.isSome && e.isInside place then e else e.put text)
  | .branch label => (.on (placeOfLabel e.script label), e)
  | .branchIf wanted label =>
    let goal := if e.replaced = wanted then placeOfLabel e.script label else place + 1
    (.on goal, { e with replaced := false })
  | .delete => (.nextLineSilently, e)
  | .deleteFirst =>
    match e.firstLine.2 with
    | none | some "" => (.nextLineSilently, e)
    | some rest => (.again, { e with space := rest })
  | .print => on (e.putLine e.space)
  | .printFirst =>
    match e.firstLine with
    | (_, none) => on (e.putLine e.space)
    | (first, some _) => on (e.put (first ++ e.mark))
  | .list width => on (e.put (listed (width.getD e.manner.width) e.space))
  | .next =>
    if e.isLast then (.nextLine, e)
    else
      let e := if e.manner.silent then e else e.putLine e.space
      on ((e.read false).getD e)
  | .appendNext => if e.isLast then (.nextLine, e) else on ((e.read true).getD e)
  | .number => on (e.put s!"{e.number}\n")
  | .quit status silent => (.stop status silent, e)
  | .hold further =>
    on { e with
      hold := if further then e.hold ++ e.mark ++ e.space else e.space
      holdEnded := e.ended }
  | .get further =>
    on { e with
      space := if further then e.space ++ e.mark ++ e.hold else e.hold
      ended := e.holdEnded }
  | .exchange =>
    on { e with space := e.hold, ended := e.holdEnded, hold := e.space, holdEnded := e.ended }
  | .empty => on { e with space := "" }
  | .fileName => on (e.put s!"{e.file}\n")
  | .substitute substitution => on (e.substitute substitution)
  | .translate table =>
    on { e with space := e.space.map fun c => (table.lookup c).getD c }
  | .read file => on { e with behind := e.behind ++ [.file file] }
  | .readLine file =>
    let count := (e.taken.lookup file).getD 0
    let lines := match e.process.readFile file with
      | .ok text => linesOf text
      | .error _ => []
    let taken := (file, count + 1) :: e.taken.filter (·.1 ≠ file)
    match lines[count]? with
    | some line => on { e with taken, behind := e.behind ++ [.text (line ++ "\n")] }
    | none => on e
  | .write file firstOnly => on (e.putInto file (if firstOnly then e.firstLine.1 else e.space))

def step (e : Editor) (place : Nat) (instruction : Instruction) : Step × Editor :=
  let (selected, e) := e.isFor place instruction
  if selected ≠ instruction.negated then e.act place instruction
  else match instruction.action with
    | .opening => (.on (behindClosing e.script e.script.size 0 (place + 1)), e)
    | _ => (.on (place + 1), e)

/-- Runs the script from a place on, up to the end of the input; also the status. -/
def run : (fuel place : Nat) → Editor → Nat × Editor
  | 0, _, e => (1, e)
  | fuel + 1, place, e =>
    let fresh (e : Editor) : Nat × Editor :=
      match e.read false with
      | none => (0, e.putBehind)
      | some e => run fuel 0 e
    let shown (e : Editor) : Editor := if e.manner.silent then e else e.putLine e.space
    match e.script[place]? with
    | none => fresh (shown e)
    | some instruction =>
      match e.step place instruction with
      | (.on goal, e) => run fuel goal e
      | (.nextLine, e) => fresh (shown e)
      | (.nextLineSilently, e) => fresh e
      | (.again, e) => run fuel 0 e
      | (.stop status true, e) => (status, e)
      | (.stop status false, e) => (status, ((shown e).put "").putBehind)

end Editor

/-- Fuel for long inputs. -/
def editFuel : Nat := 2000000

def linesIn (delimiter : Char) (file : String) (separate : Bool) (text : String) : List Line :=
  let pieces := text.splitOn (String.ofList [delimiter])
  let count := pieces.length
  (pieces.zip (List.range count)).filterMap fun (piece, i) =>
    if i + 1 = count && piece = "" then none
    else some {
      text := piece, ended := i + 1 < count, file, first := separate && i = 0 }

/-- The files that a script writes to. -/
def outputFiles (script : Array Instruction) : List String :=
  (script.toList.filterMap fun instruction =>
    match instruction.action with
    | .write file _ => some file
    | .substitute { file, .. } => file
    | _ => none).eraseDups

/-- Opens the files that a script writes to. -/
def openOutputs (p : Process) : List String → Except String (Process × List (String × Nat))
  | [] => .ok (p, [])
  | "/dev/stdout" :: rest => openOutputs p rest
  | file :: rest =>
    match p.openPath .writing file with
    | .error fault => .error s!"couldn't open file {file}: {Process.faultText fault}"
    | .ok (p, place) => do
      let (p, files) ← openOutputs p rest
      return (p, (file, place) :: files)

/-- Runs a script over lines, writes what it wrote, and keeps what outlives the lines. -/
def runOver (e : Editor) (lines : List Line) : Nat × Bool × Editor :=
  let e := { e with input := lines }
  match e.read false with
  | none => (0, false, e)
  | some e =>
    let (status, e) := e.run editFuel 0
    (status, !e.input.isEmpty, e)

/-- Changes files in place, one after another. -/
def editFiles (e : Editor) (backup : String) : List String → Nat × Editor
  | [] => (0, e)
  | file :: rest =>
    let p := e.process
    match p.node? file with
    | none =>
      let p := p.report s!"can't read {file}: {Process.faultText .noSuchFile}"
      let (status, e) := editFiles { e with process := p } backup rest
      (if status = 0 then 2 else status, e)
    | some (.file content mode) =>
      let lines := linesIn e.manner.delimiter file true content
      let (status, quit, edited) := runOver { e with written := [], unended := false } lines
      -- What was not read is kept.
      let left := if quit then String.join (edited.input.map fun line =>
        if line.ended then line.text ++ edited.mark else line.text) else ""
      let edited := if left = "" then edited else edited.put left
      let text := String.join edited.written.reverse
      let p := edited.process
      let path (text : String) : Path := ⟨Octets.bytes text⟩
      let kept := if backup = "" then .ok p.files
        else
          let name := if backup.contains '*' then backup.replace "*" file else file ++ backup
          p.files.rename p.current (path file) (path name)
      let (files, number) := (kept.toOption.getD p.files).add (.file text mode)
      let files := match files.resolve p.current (path file) false false with
        | .ok (target, _) => files.enter target.directory (target.name.getD []) number
        | .error _ => files
      let edited := { edited with process := p.withFiles files, written := [] }
      if status ≠ 0 || quit then (status, edited) else editFiles edited backup rest
    | some _ =>
      let p := p.report s!"couldn't edit {file}: not a regular file"
      let (status, e) := editFiles { e with process := p } backup rest
      (if status = 0 then 4 else status, e)

/-- Reads the lines of files; also the status that reading leaves. -/
def readLines (manner : Manner) (p : Process) (operands : List String) :
    Process × Nat × List Line :=
  operands.foldl (fun (p, status, lines) operand =>
    match p.source operand with
    | .ok (text, p) => (p, status, lines ++ linesIn manner.delimiter operand manner.separate text)
    | .error .isADirectory =>
      (p.report s!"couldn't edit {operand}: {Process.faultText .isADirectory}", 4, lines)
    | .error fault =>
      (p.report s!"can't read {operand}: {Process.faultText fault}", max status 2, lines))
    (p, 0, [])

/-- The text of a script, from options or from the first operand. -/
def scriptText (p : Process) (call : Call) : Except String (Option (String × List String)) :=
  let given := call.options.filter fun option => option.1 = "e" || option.1 = "f"
  if given.isEmpty then
    match call.operands with
    | [] => .ok none
    | text :: operands => .ok (some (text, operands))
  else do
    let texts ← given.mapM fun (kind, value) =>
      if kind = "e" then .ok value
      else match p.source value with
        | .ok (text, _) =>
          .ok (if text.endsWith "\n" then (text.dropEnd 1).toString else text)
        | .error fault => .error s!"couldn't open file {value}: {Process.faultText fault}"
    return some ("\n".intercalate texts, call.operands)

def edit (p : Process) : Process :=
  p.withCall ["n,quiet,silent", "e,expression=", "f,file=", "E,r,regexp-extended", "i,in-place?",
    "s,separate", "z,null-data", "l,line-length=", "u,unbuffered", "b,binary", "posix", "debug",
    "follow-symlinks", "sandbox"] fun call =>
  match scriptText p call with
  | .error message => p.fault message 4
  | .ok none => p.fault "no script"
  | .ok (some (text, operands)) =>
    let style : Style := { extended := call.has "E", controls := true }
    match parse style text with
    | .error problem => p.fault problem
    | .ok script =>
      match openOutputs p (outputFiles script) with
      | .error message => p.fault message 4
      | .ok (p, files) =>
        let manner : Manner := {
          silent := call.has "n" || text = "#n" || text.startsWith "#n\n"
          separate := call.has "s" || call.has "i"
          inPlace := call.value? "i"
          delimiter := if call.has "z" then Loaded.nul else '\n'
          width := ((call.value? "l").bind String.toNat?).getD 70 }
        let e : Editor := {
          process := p, script, manner, files, input := [], ranges := script.map Editor.begun }
        match manner.inPlace with
        | some backup =>
          let (status, e) := editFiles e backup operands
          e.process.exit status
        | none =>
          let (p, unreadable, lines) :=
            readLines manner p (if operands.isEmpty then ["-"] else operands)
          let (status, _, e) := runOver { e with process := p } lines
          (e.process.exit (if status = 0 then unreadable else status)).print
            (String.join e.written.reverse)

end ColdBuild.Edit
