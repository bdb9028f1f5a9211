import ColdBuild.Machine.Calendar
import ColdBuild.Machine.Format
import ColdBuild.Machine.Utility.Lines
import ColdBuild.Machine.Utility.Surroundings

/-!
# Utilities that show what is in directories

What is named is shown in the order of names: first what is no directory, then the directories
with what they hold. Names are compared octet by octet.
-/

namespace ColdBuild

/-! ## What is known of a node -/

namespace FileSystem

def modeOf (fs : FileSystem) (number : Nat) : Nat :=
  match fs.at? number with
  | some (.file _ mode) => mode
  | some (.link _) => 0o777
  | some (.device _) => 0o666
  | _ => 0o755

/-- How many names a node has. -/
def linkCount (fs : FileSystem) (number : Nat) : Nat :=
  let named := fs.nodes.foldl (fun n stamped =>
    match stamped.node with
    | .directory _ entries _ => n + (entries.filter (·.2 = number)).length
    | _ => n) 0
  match fs.at? number with
  | some (.directory _ entries _) =>
    2 + (entries.filter fun (_, inner) => (fs.at? inner).any Node.isDirectory).length
  | _ => named

def sizeOf (fs : FileSystem) (number : Nat) : Nat :=
  match fs.at? number with
  | some (.file content _) => content.length
  | some (.link target) => target.bytes.length
  | some (.directory ..) => 4096
  | _ => 0

/-- Type and permissions in letters. -/
def modeText (fs : FileSystem) (number : Nat) : String :=
  let kind := match fs.at? number with
    | some (.directory ..) => 'd'
    | some (.link _) => 'l'
    | some (.device _) => 'c'
    | _ => '-'
  String.ofList [kind] ++ Process.permissionText (fs.modeOf number)

def kindText (fs : FileSystem) (number : Nat) : String :=
  match fs.at? number with
  | some (.directory ..) => "directory"
  | some (.link _) => "symbolic link"
  | some (.device _) => "character special file"
  | some (.file "" _) => "regular empty file"
  | _ => "regular file"

end FileSystem

namespace Process

/-! ## Listing -/

/-- Something that is listed: the name that is shown, and the path that leads to it. -/
structure Listed where
  name : String
  path : String
  number : Nat
  deriving DecidableEq, Repr

/-- The sign behind a name that says what it is a name of. -/
def sign (p : Process) (call : Call) (number : Nat) : String :=
  match p.files.at? number with
  | some (.directory ..) => if call.has "F" || call.has "p" || call.has "file-type" then "/" else ""
  | some (.link _) => if call.has "F" || call.has "file-type" then "@" else ""
  | some (.file _ mode) => if call.has "F" && Loaded.isRunnable mode then "*" else ""
  | some (.utility _) => if call.has "F" then "*" else ""
  | _ => ""

/-- When a node was changed, as a listing shows it. -/
def stampText (p : Process) (number : Nat) : String :=
  (CalendarTime.ofSeconds (startTime + p.files.changedAt number / 1000)).format 0 "%b %e %H:%M".toList

/-- The columns before the name in a long listing. -/
def longFront (p : Process) (call : Call) (width : Nat) (number : Nat) : String :=
  let user := if call.has "n" then "0" else "root"
  let owner := if call.has "g" then "" else user ++ " "
  let group := if call.has "G" || call.has "o" then "" else user ++ " "
  let size := atRight width (toString (p.files.sizeOf number))
  s!"{p.files.modeText number} {p.files.linkCount number} {owner}{group}{size} {p.stampText number} "

def ordered (p : Process) (call : Call) (items : List Listed) : List Listed :=
  let byName (a b : Listed) : Bool := a.name ≤ b.name
  let sorted := items.mergeSort byName
  let key (item : Listed) : Option Nat :=
    if call.last? ["S", "t"] = some "S" then some (p.files.sizeOf item.number)
    else if call.has "t" then some (p.files.changedAt item.number) else none
  let sorted := if call.has "U" || call.has "f" then items
    else sorted.mergeSort fun a b =>
      match key a, key b with
      | some a, some b => b ≤ a
      | _, _ => true
  if call.has "r" then sorted.reverse else sorted

/-- Shows what is listed, one behind the other. -/
def listingText (p : Process) (call : Call) (items : List Listed) : String :=
  let long := call.has "l" || call.has "n" || call.has "g" || call.has "o"
  let width := items.foldl (fun n item => max n (toString (p.files.sizeOf item.number)).length) 1
  let number (item : Listed) : String := if call.has "i" then s!"{item.number + 100} " else ""
  let quoted (name : String) : String := if call.has "Q" then s!"\"{name}\"" else name
  let texts := items.map fun item =>
    let target := match long, p.files.at? item.number with
      | true, some (.link target) => " -> " ++ Octets.ofBytes target.bytes
      | _, _ => ""
    number item ++ (if long then p.longFront call width item.number else "") ++
      quoted item.name ++ p.sign call item.number ++ target
  if !long && call.has "m" then
    if texts.isEmpty then "" else ", ".intercalate texts ++ "\n"
  else unlines texts

/-- What a directory holds, as it is listed. -/
def itemsIn (p : Process) (call : Call) (path : String) : List Listed :=
  let hidden (name : String) : Bool :=
    !(call.has "a" || call.has "A" || call.has "f") && name.startsWith "."
  let names := (p.namesIn path).filter fun name => !hidden name
  let special := if call.has "a" || call.has "f" then [".", ".."] else []
  p.ordered call ((special ++ names).filterMap fun name =>
    let inner := FilePath.join path name
    (p.find inner (call.has "L")).toOption.map fun number => ⟨name, inner, number⟩)

/-- The sizes of what is listed, in blocks. -/
def totalText (p : Process) (items : List Listed) : String :=
  let blocks := items.foldl (fun n item =>
    match p.files.at? item.number with
    | some (.file content _) => n + (content.length + 4095) / 4096 * 4
    | some (.directory ..) => n + 4
    | _ => n) 0
  s!"total {blocks}\n"

/-- Lists directories, with headings if there are several; a line is left free between them. -/
def listDirectories (call : Call) (headed : Bool) : (fuel : Nat) → List String →
    (free : Bool) → Process → Process
  | 0, _, _, p => p
  | _, [], _, p => p
  | fuel + 1, path :: rest, free, p =>
    let items := p.itemsIn call path
    let long := call.has "l" || call.has "n" || call.has "g" || call.has "o"
    let heading := if headed then (if free then "\n" else "") ++ s!"{path}:\n" else ""
    let total := if long || call.has "s" then p.totalText items else ""
    let p := p.print (heading ++ total ++ p.listingText call items)
    let inner := if !call.has "R" then []
      else items.filterMap fun item =>
        if (p.files.at? item.number).any Node.isDirectory && item.name ≠ "." && item.name ≠ ".." then
          some item.path
        else none
    listDirectories call headed fuel (inner ++ rest) true p

def list (p : Process) : Process :=
  p.withCall ["a,all", "A,almost-all", "1", "l", "d,directory", "r,reverse", "t", "S", "F,classify?",
      "p", "R,recursive", "i,inode", "s,size", "h,human-readable", "n,numeric-uid-gid", "U", "f",
      "c", "u", "C", "x", "m", "Q,quote-name", "b,escape", "q,hide-control-chars", "N,literal",
      "L,dereference", "H,dereference-command-line", "G,no-group", "o", "g", "k,kibibytes", "v", "X",
      "B,ignore-backups", "I,ignore=", "hide=", "color?", "sort=", "time=", "format=",
      "group-directories-first", "full-time", "w,width=", "T,tabsize=", "Z,context", "D,dired",
      "author", "file-type", "indicator-style=", "quoting-style=", "show-control-chars", "si",
      "block-size=", "time-style=", "zero", "hyperlink?"] (fun call =>
    let operands := if call.operands.isEmpty then ["."] else call.operands
    let long := call.has "l" || call.has "n" || call.has "g" || call.has "o"
    let follows := call.has "L" || call.has "H" || !(long || call.has "d" || call.has "F")
    let (p, items) := operands.foldl (fun (p, items) path =>
      let found : Except OsFault Nat := match p.find path follows with
        | .ok number => .ok number
        | .error fault => (p.find path false).mapError fun _ => fault
      match found with
      | .ok number => (p, items ++ [(⟨path, path, number⟩ : Listed)])
      | .error fault => (p.fault s!"cannot access {shown path}: {faultText fault}" 2, items))
      (p, [])
    let isDirectory (item : Listed) : Bool :=
      !call.has "d" && (p.files.at? item.number).any Node.isDirectory
    let files := p.ordered call (items.filter (!isDirectory ·))
    let directories := p.ordered call (items.filter isDirectory)
    let p := if files.isEmpty then p else p.print (p.listingText call files)
    let headed := 1 < operands.length || call.has "R"
    listDirectories call headed (p.files.nodes.size + operands.length + 1)
      (directories.map (·.path)) (!files.isEmpty) p) true 2

/-! ## What is known of files -/

/-- What a letter of a format stands for. -/
def fileFact (p : Process) (path : String) (number : Nat) (letter : Char) : String :=
  match letter with
  | 'a' => String.ofList (Nat.toDigits 8 (p.files.modeOf number))
  | 'A' => p.files.modeText number
  | 'n' => path
  | 'N' =>
    match p.files.at? number with
    | some (.link target) => s!"{shown path} -> {shown (Octets.ofBytes target.bytes)}"
    | _ => shown path
  | 's' => toString (p.files.sizeOf number)
  | 'F' => p.files.kindText number
  | 'h' => toString (p.files.linkCount number)
  | 'i' => toString (number + 100)
  | 'U' | 'G' => "root"
  | 'u' | 'g' => "0"
  | 'b' => toString ((p.files.sizeOf number + 4095) / 4096 * 8)
  | 'B' => "512"
  | 'o' => "4096"
  | 'X' | 'Y' | 'Z' => toString (startTime + p.files.changedAt number / 1000)
  | '%' => "%"
  | c => String.ofList ['%', c]

/-- The facts that a format asks for. -/
def factText (p : Process) (path : String) (number : Nat) : List Char → String
  | [] => ""
  | '%' :: letter :: rest => p.fileFact path number letter ++ factText p path number rest
  | c :: rest => String.ofList [c] ++ factText p path number rest

/-- Writes what is known of files. -/
def showFacts (p : Process) : Process :=
  p.withCall ["c,format=", "printf=", "L,dereference", "f,file-system", "t,terse", "cached="]
    fun call =>
    if call.operands.isEmpty then p.misuse "missing operand"
    else call.operands.foldl (fun p path =>
      match p.find path (call.has "L") with
      | .error fault => p.fault s!"cannot statx {shown path}: {faultText fault}"
      | .ok number =>
        match call.value? "printf", call.value? "c" with
        | some format, _ =>
          let style : Format.EscapeStyle := { extended := true }
          let (chars, _) := Format.unescape style format.length format.toList
          p.print (p.factText path number chars)
        | none, some format => p.print (p.factText path number format.toList ++ "\n")
        | none, none =>
          p.print (p.factText path number
            "  File: %n\n  Size: %s\tBlocks: %b\tIO Block: %o\t%F\n".toList)) p

/-- The octets in a file, or in all files below a directory. -/
def usedBelow (p : Process) : (fuel : Nat) → (number : Nat) → Nat
  | 0, _ => 0
  | fuel + 1, number =>
    (p.files.entries number).foldl (fun n (_, inner) => n + usedBelow p fuel inner)
      (p.files.sizeOf number)

/-- Writes how much room files take. -/
def showUsage (p : Process) : Process :=
  p.withCall ["a,all", "b,bytes", "s,summarize", "h,human-readable", "k", "m", "c,total",
      "d,max-depth=", "apparent-size", "x", "L", "H", "P", "S", "0,null", "l", "B,block-size=",
      "exclude=", "inodes", "time?", "si", "t,threshold="] fun call =>
    (if call.operands.isEmpty then ["."] else call.operands).foldl (fun p path =>
      match p.find path false with
      | .error fault => p.fault s!"cannot access {shown path}: {faultText fault}"
      | .ok number =>
        let octets := usedBelow p p.files.nodes.size number
        let size := if call.has "b" then octets else (octets + 4095) / 4096 * 4
        p.print s!"{size}\t{path}\n") p

end Process

end ColdBuild
