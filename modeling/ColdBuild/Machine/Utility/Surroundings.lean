import ColdBuild.Machine.Calendar
import ColdBuild.Machine.Loading
import ColdBuild.Machine.Utility.Files

/-!
# Utilities that say where a process is

What directory a process is in, what its environment holds, whose it is, on what system, what time
it is, and where a path leads once all links have been followed.
-/

namespace ColdBuild.Process

/-! ## Directory and environment -/

def printDirectory (p : Process) : Process :=
  p.withCall ["L,logical", "P,physical"] fun call =>
    let p := if call.operands.isEmpty then p else p.report "ignoring non-option arguments"
    let real := p.files.pathOf p.current
    let logical := (p.environmentValue? "PWD").filter fun path =>
      path.startsWith "/" && (p.find path).toOption = some p.current
    p.print (if call.last? ["L", "P"] = some "L" then logical.getD real ++ "\n" else real ++ "\n")

def printVariables (p : Process) : Process :=
  p.withCall ["0,null"] (fun call =>
    let mark := if call.has "0" then String.ofList [Loaded.nul] else "\n"
    if call.operands.isEmpty then
      p.print (String.join (p.environment.map fun (name, value) => s!"{name}={value}{mark}"))
    else
      let values := call.operands.filterMap p.environmentValue?
      let p := p.exit (if values.length < call.operands.length then 1 else 0)
      p.print (String.join (values.map (· ++ mark)))) false 2

/-! ## Whose, and on what system -/

def printIdentity (p : Process) : Process :=
  p.withCall ["u,user", "g,group", "G,groups", "n,name", "r,real", "z,zero", "a", "Z,context"] fun call =>
    match call.operands.find? (· ≠ "root") with
    | some user => p.fault s!"{shown user}: no such user"
    | none =>
      let single := call.has "u" || call.has "g" || call.has "G"
      if single then p.print (if call.has "n" then "root\n" else "0\n")
      else if call.has "n" then p.fault "cannot print only names or real IDs in default format"
      else p.print "uid=0(root) gid=0(root) groups=0(root)\n"

def printUser (p : Process) : Process :=
  p.withCall [] fun call =>
    match call.operands with
    | [] => p.print "root\n"
    | extra :: _ => p.misuse s!"extra operand {shown extra}"

def hostName : String := "machine"

def printSystem (p : Process) : Process :=
  p.withCall ["a,all", "s,kernel-name", "n,nodename", "r,kernel-release", "v,kernel-version",
      "m,machine", "p,processor", "i,hardware-platform", "o,operating-system"] fun call =>
    match call.operands with
    | extra :: _ => p.misuse s!"extra operand {shown extra}"
    | [] =>
      let parts : List (String × String) := [("s", "Linux"), ("n", hostName), ("r", "6.1.0"),
        ("v", "#1 SMP"), ("m", "x86_64"), ("p", "unknown"), ("i", "unknown"), ("o", "GNU/Linux")]
      let chosen := parts.filter fun (key, text) =>
        if call.has "a" then text ≠ "unknown" else call.has key
      let chosen := if chosen.isEmpty then parts.take 1 else chosen
      p.print (" ".intercalate (chosen.map Prod.snd) ++ "\n")

/-- Writes one line, if there are no operands. -/
def printLine (text : String) (p : Process) : Process :=
  p.withCall ["all", "s,silent,quiet", "f,fqdn", "i", "d", "ignore="] fun call =>
    match call.operands with
    | [] => p.print (text ++ "\n")
    | extra :: _ => p.misuse s!"extra operand {shown extra}"

/-- Says that the input is no terminal. -/
def printTerminal (p : Process) : Process :=
  p.withCall ["s,silent,quiet"] (fun call =>
    match call.operands with
    | extra :: _ => p.misuse s!"extra operand {shown extra}" 2
    | [] => if call.has "s" then p.exit 1 else (p.exit 1).print "not a tty\n") true 2

/-! ## Time -/

/-- When the machine was started, in seconds. -/
def startTime : Nat := 1700000000

def printTime (p : Process) : Process :=
  p.withCall ["d,date=", "u,utc,universal", "R,rfc-email", "I,iso-8601?", "r,reference=", "s,set=",
      "f,file=", "rfc-3339=", "debug", "resolution"] fun call =>
    let now := startTime + p.system.clock / 1000000000
    let nanoseconds := p.system.clock % 1000000000
    let given : Except String Nat := match call.value? "d", call.value? "r" with
      | some text, _ =>
        if ["now", "today", ""].contains text then .ok now
        else if text = "yesterday" then .ok (now - 86400)
        else if text = "tomorrow" then .ok (now + 86400)
        else if text.startsWith "@" then
          match (text.drop 1).toNat? with
          | some n => .ok n
          | none => .error s!"invalid date {shown text}"
        else match CalendarTime.ofText? text with
          | some time => .ok time.toSeconds
          | none => .error s!"invalid date {shown text}"
      | none, some path =>
        match p.find path with
        | .ok _ => .ok now
        | .error fault => .error s!"{path}: {faultText fault}"
      | none, none => .ok now
    match given with
    | .error message => p.fault message
    | .ok seconds =>
      let nanoseconds := if call.has "d" then 0 else nanoseconds
      let write (format : String) : Process :=
        p.print ((CalendarTime.ofSeconds seconds).format nanoseconds format.toList ++ "\n")
      match call.operands with
      | [] =>
        if call.has "R" then write "%a, %d %b %Y %H:%M:%S %z"
        else match call.value? "I" with
          | some "seconds" => write "%FT%T+00:00"
          | some "minutes" => write "%FT%R+00:00"
          | some _ => write "%F"
          | none => write "%a %b %e %H:%M:%S %Z %Y"
      | [word] =>
        if word.startsWith "+" then write (word.drop 1).toString
        else p.fault s!"invalid date {shown word}"
      | _ :: extra :: _ => p.misuse s!"extra operand {shown extra}"

/-- The nanoseconds that a text of a duration says. -/
def duration? (text : String) : Option Nat :=
  let chars := text.toList
  let number := chars.takeWhile fun c => c.isDigit || c = '.'
  let unit := match String.ofList (chars.drop number.length) with
    | "" | "s" => some 1
    | "m" => some 60
    | "h" => some 3600
    | "d" => some 86400
    | _ => none
  match unit, number.splitOn '.' with
  | some unit, [whole] =>
    if whole.isEmpty then none else some (Nat.ofDigitChars 10 whole 0 * unit * 1000000000)
  | some unit, [whole, fraction] =>
    if whole.isEmpty && fraction.isEmpty then none
    else
      let digits := (fraction ++ List.replicate 9 '0').take 9
      some ((Nat.ofDigitChars 10 whole 0 * 1000000000 + Nat.ofDigitChars 10 digits 0) * unit)
  | _, _ => none

def sleep (p : Process) : Process :=
  p.withCall [] fun call =>
    if call.operands.isEmpty then p.misuse "missing operand"
    else match call.operands.find? fun word => (duration? word).isNone && word ≠ "infinity" with
      | some word => p.misuse s!"invalid time interval {shown word}"
      | none => call.operands.foldl (fun p word => p.wait ((duration? word).getD 0)) p

/-! ## Where paths lead -/

/-- The parts of a path with what goes up taken out. -/
def plainPath (path : String) : String :=
  let names := (path.splitOn "/").foldl (fun (names : List String) name =>
    if name = "" || name = "." then names
    else if name = ".." then names.drop 1
    else name :: names) []
  if names.isEmpty then "/" else String.join (names.reverse.map fun name => "/" ++ name)

/-- A path from the root. -/
def fromRoot (p : Process) (path : String) : String :=
  if path.startsWith "/" then path else FilePath.join (p.files.pathOf p.current) path

/-- How much of a path has to be there. -/
inductive Presence where
  | all
  | allButLast
  | nothing
  deriving DecidableEq

/-- Where a path leads, as a path from the root without links. -/
def canonical (p : Process) (presence : Presence) (path : String) : Except OsFault String :=
  match p.files.resolve p.current (pathOf path) true false with
  | .ok (target, some number) =>
    if target.slash && !(p.files.at? number).any Node.isDirectory then .error .notADirectory
    else match p.files.at? number with
      | some (.directory ..) => .ok (p.files.pathOf number)
      | _ => .ok (p.fullPath target)
  | .ok (target, none) =>
    if presence = .all then .error .noSuchFile else .ok (p.fullPath target)
  | .error fault =>
    if presence ≠ .nothing || path = "" then .error fault
    else
      -- The longest beginning that is there is followed.
      let names := (p.fromRoot path).splitOn "/"
      let front := (List.range names.length).reverse.findSome? fun n =>
        let beginning := "/" ++ "/".intercalate ((names.take (n + 1)).drop 1)
        match p.find beginning with
        | .ok number =>
          if (p.files.at? number).any Node.isDirectory then
            some (p.files.pathOf number, names.drop (n + 1))
          else none
        | .error _ => none
      match front with
      | some (beginning, rest) => .ok (plainPath (beginning ++ "/" ++ "/".intercalate rest))
      | none => .ok (plainPath (p.fromRoot path))

/-- What a link of the process's own descriptors holds. -/
def ownLink? (p : Process) (path : String) : Option String :=
  match path.toList.splitOn '/' with
  | [[], ['p', 'r', 'o', 'c'], owner, ['f', 'd'], _] =>
    let number := String.ofList owner
    if number = "self" || number = toString p.number || number = toString p.parent then
      ((ownDescriptor? path).bind p.openFile?).map fun (place, file) =>
        if file.isPipe then s!"pipe:[{place + 4000}]" else file.path
    else none
  | _ => none

/-- Writes what links hold, or where paths lead. -/
def readLink (p : Process) : Process :=
  p.withCall ["f,canonicalize", "e,canonicalize-existing", "m,canonicalize-missing",
      "n,no-newline", "q,s,quiet,silent", "v,verbose", "z,zero"] fun call =>
    let mark := if call.has "z" then String.ofList [Loaded.nul] else "\n"
    let quietly := call.has "n" && call.operands.length = 1
    if call.operands.isEmpty then p.misuse "missing operand"
    else call.operands.foldl (fun p path =>
      let presence : Option Presence := match call.last? ["f", "e", "m"] with
        | some "f" => some .allButLast
        | some "e" => some .all
        | some _ => some .nothing
        | none => none
      let held : Except OsFault String := match presence, p.ownLink? path with
        | _, some text => .ok text
        | some presence, none => p.canonical presence path
        | none, none =>
          match p.find path false with
          | .error fault => .error fault
          | .ok number =>
            match p.files.at? number with
            | some (.link target) => .ok (Octets.ofBytes target.bytes)
            | _ => .error .invalidArgument
      match held with
      | .ok text => p.print (if quietly then text else text ++ mark)
      | .error fault =>
        if call.has "v" then p.faultAbout path fault else p.exit 1) p

/-- A path from the root, as seen from another one. -/
def seenFrom (origin path : String) : String :=
  let names (path : String) : List String := (path.splitOn "/").filter (· ≠ "")
  let origin := names origin
  let goal := names path
  let shared := ((origin.zip goal).takeWhile fun (a, b) => a = b).length
  let steps := List.replicate (origin.length - shared) ".." ++ goal.drop shared
  if steps.isEmpty then "." else "/".intercalate steps

def realPaths (p : Process) : Process :=
  p.withCall ["e,canonicalize-existing", "m,canonicalize-missing", "L,logical", "P,physical",
      "q,quiet", "relative-to=", "relative-base=", "s,strip,no-symlinks", "z,zero"] fun call =>
    let mark := if call.has "z" then String.ofList [Loaded.nul] else "\n"
    let presence : Presence := match call.last? ["e", "m"] with
      | some "e" => .all
      | some _ => .nothing
      | none => .allButLast
    let place (path : String) : Except OsFault String :=
      if call.has "s" then .ok (plainPath (p.fromRoot path)) else p.canonical presence path
    if call.operands.isEmpty then p.misuse "missing operand"
    else call.operands.foldl (fun p path =>
      match place path with
      | .error fault => if call.has "q" then p.exit 1 else p.faultAbout path fault
      | .ok found =>
        let shown := match (call.value? "relative-to").map place with
          | some (.ok origin) => seenFrom origin found
          | _ => found
        p.print (shown ++ mark)) p

def which (p : Process) : Process :=
  let every := p.arguments.contains "-a"
  let names := p.arguments.filter fun word => !word.startsWith "-"
  let isProgram (path : String) : Bool := match p.node? path with
    | some (.utility _) => true
    | some (.file _ mode) => Loaded.isRunnable mode
    | _ => false
  let directories := ((p.environmentValue? "PATH").getD Loaded.defaultSearchPath).splitOn ":"
  let p := if names.isEmpty then p.exit 1 else p
  names.foldl (fun p name =>
    let places := if name.contains '/' then [name]
      else directories.map fun directory =>
        if directory = "" then s!"./{name}" else FilePath.join directory name
    match places.filter isProgram with
    | [] => p.exit 1
    | first :: rest =>
      p.print (String.join ((if every then first :: rest else [first]).map (· ++ "\n")))) p

end ColdBuild.Process
