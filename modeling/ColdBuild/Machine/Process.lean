import ColdBuild.Machine.FileSystem

/-!
# Processes

What all processes of a machine share are its files, the files that have been opened and how far
each has been read or written, a clock, and signals on their way. A process has a directory, an
environment, words it was called with, and descriptors of open files; a file that is open under
two descriptors is read and written at one place only.

A pipe is a file without a name that is open twice. As processes run one after another, all of
it has been written before anything is read.
-/

namespace ColdBuild

structure OpenFile where
  node : Nat
  offset : Nat := 0
  /-- Everything is written at the end. -/
  append : Bool := false
  readable : Bool := true
  writable : Bool := false
  /-- The file's absolute path, in octets. -/
  path : String := ""
  /-- It is one end of a pipe. -/
  isPipe : Bool := false
  deriving DecidableEq

/-- What all processes share. -/
structure System where
  files : FileSystem := {}
  opened : Array OpenFile := #[]
  /-- Nanoseconds since the machine was started. -/
  clock : Nat := 0
  lastProcess : Nat := 4242
  /-- Signals that have not been noticed: to which process, and which. -/
  signals : List (Nat × Nat) := []
  deriving DecidableEq

structure Process where
  system : System
  number : Nat
  parent : Nat
  /-- The directory it is in. -/
  current : Nat
  environment : List (String × String)
  /-- What it was called with; first its own name. -/
  words : List String
  /-- Descriptors, each with its place among the open files. -/
  descriptors : List (Nat × Nat) := []
  /-- Permissions that files it makes do not get. -/
  mask : Nat := 0o022
  /-- Signals it does not react to. -/
  ignored : List Nat := []
  status : Nat := 0
  /-- The signal that has ended it. -/
  killed : Option Nat := none
  /-- What it has printed and not written yet. -/
  unwritten : String := ""
  deriving DecidableEq

inductive OpenMode where
  | reading
  | writing
  | appending
  | both
  deriving DecidableEq

namespace Process

def name (p : Process) : String := p.words.headD ""

def arguments (p : Process) : List String := p.words.drop 1

def files (p : Process) : FileSystem := p.system.files

def withFiles (p : Process) (files : FileSystem) : Process :=
  { p with system := { p.system with files } }

def exit (p : Process) (status : Nat) : Process := { p with status }

def environmentValue? (p : Process) (name : String) : Option String := p.environment.lookup name

def setVariable (p : Process) (name value : String) : Process :=
  { p with environment := p.environment.filter (·.1 ≠ name) ++ [(name, value)] }

/-- The node that a path in octets leads to. -/
def find (p : Process) (path : String) (follow : Bool := true) : Except OsFault Nat :=
  p.files.find p.current ⟨Octets.bytes path⟩ follow

def node? (p : Process) (path : String) (follow : Bool := true) : Option Node :=
  match p.find path follow with
  | .ok number => p.files.at? number
  | .error _ => none

/-- The file that is open under a descriptor. -/
def openFile? (p : Process) (descriptor : Nat) : Option (Nat × OpenFile) := do
  let place ← p.descriptors.lookup descriptor
  return (place, ← p.system.opened[place]?)

/-- Lets a descriptor stand for an open file. -/
def attach (p : Process) (descriptor place : Nat) : Process :=
  { p with descriptors := (descriptor, place) :: p.descriptors.filter (·.1 ≠ descriptor) }

def close (p : Process) (descriptor : Nat) : Process :=
  { p with descriptors := p.descriptors.filter (·.1 ≠ descriptor) }

def addOpen (p : Process) (file : OpenFile) : Process × Nat :=
  ({ p with system := { p.system with opened := p.system.opened.push file } },
    p.system.opened.size)

def setOpen (p : Process) (place : Nat) (file : OpenFile) : Process :=
  { p with system := { p.system with opened := p.system.opened.setIfInBounds place file } }

/-- The descriptor of the process itself that a path names, if it names one. -/
def ownDescriptor? (path : String) : Option Nat :=
  let number? (digits : List Char) : Option Nat :=
    if digits.isEmpty || !digits.all Char.isDigit then none
    else some (Nat.ofDigitChars 10 digits 0)
  match path with
  | "/dev/stdin" => some 0
  | "/dev/stdout" => some 1
  | "/dev/stderr" => some 2
  | _ =>
    match path.toList.splitOn '/' with
    | [[], ['d', 'e', 'v'], ['f', 'd'], digits] => number? digits
    | [[], ['p', 'r', 'o', 'c'], owner, ['f', 'd'], digits] =>
      if owner = "self".toList || owner.all Char.isDigit then number? digits else none
    | _ => none

/-- The absolute path of what a path leads to, in octets. -/
def fullPath (p : Process) (target : Target) : String :=
  let directory := p.files.pathOf target.directory
  match target.name with
  | none => directory
  | some name => (if directory = "/" then "/" else directory ++ "/") ++ Octets.ofBytes name

/-- Opens what a path leads to; the place among the open files. -/
def openPath (p : Process) (mode : OpenMode) (path : String) : Except OsFault (Process × Nat) := do
  let bytes : Path := ⟨Octets.bytes path⟩
  let readable := mode = .reading || mode = .both
  let writable := mode ≠ .reading
  match ownDescriptor? path with
  | some descriptor =>
    match p.openFile? descriptor with
    | none => throw .noSuchFile
    | some (_, file) =>
      return p.addOpen (if file.isPipe then file
        else { file with offset := 0, append := mode = .appending, readable, writable })
  | none =>
    let found : FileSystem × Nat ←
      if writable then p.files.openForWriting p.current bytes
      else (p.files.find p.current bytes).map fun number => (p.files, number)
    let (files, number) := found
    let fresh := p.files.nodes.size ≤ number
    let files := match files.at? number with
      | some (.file content mode₀) =>
        let mode₁ := if fresh then 0o666 &&& (0o777 ^^^ p.mask) else mode₀
        if mode = .writing then files.set number (.file "" mode₁)
        else if fresh then files.set number (.file content mode₁) else files
      | _ => files
    let path := match files.resolve p.current bytes true false with
      | .ok (target, _) => p.fullPath target
      | .error _ => path
    return (p.withFiles files).addOpen
      { node := number, append := mode = .appending, readable, writable, path }

/-- What is left to be read under a descriptor, and the place of its file. -/
def unread (p : Process) (descriptor : Nat) : Except OsFault (Nat × OpenFile × String) :=
  match p.openFile? descriptor with
  | none => .error .badDescriptor
  | some (place, file) =>
    if !file.readable then .error .badDescriptor
    else match p.files.at? file.node with
      | some (.file content _) =>
        .ok (place, file, if file.offset = 0 then content else (content.drop file.offset).toString)
      | some (.directory ..) => .error .isADirectory
      | _ => .ok (place, file, "")

/-- The device under a descriptor gives zeros without end. -/
def givesZeros (p : Process) (descriptor : Nat) : Bool :=
  match (p.openFile? descriptor).bind fun (_, file) => p.files.at? file.node with
  | some (.device .full) | some (.device .zero) => true
  | _ => false

def readAll (p : Process) (descriptor : Nat) : Except OsFault (String × Process) := do
  let (place, file, text) ← p.unread descriptor
  return (text, p.setOpen place { file with offset := file.offset + text.length })

/-- Reads so many octets, if there are so many. -/
def readSome (p : Process) (descriptor count : Nat) : Except OsFault (String × Process) := do
  if p.givesZeros descriptor then
    return (String.ofList (List.replicate count (Char.ofNat 0)), p)
  else
    let (place, file, text) ← p.unread descriptor
    let text := (text.take count).toString
    return (text, p.setOpen place { file with offset := file.offset + text.length })

def readFile (p : Process) (path : String) : Except OsFault String := do
  let (p, place) ← p.openPath .reading path
  return (← ({ p with descriptors := [(0, place)] }.readAll 0)).1

/-- A text with another one written over it from some place on. -/
def overwrite (content : String) (offset : Nat) (text : String) : String :=
  let old := content.toList
  String.ofList (old.take offset ++ List.replicate (offset - old.length) (Char.ofNat 0) ++
    text.toList ++ old.drop (offset + text.length))

def write (p : Process) (descriptor : Nat) (text : String) : Except OsFault Process :=
  match p.openFile? descriptor with
  | none => .error .badDescriptor
  | some (place, file) =>
    if !file.writable then .error .badDescriptor
    else if text = "" then .ok p
    else match p.files.at? file.node with
      | some (.file content mode) =>
        let atEnd := file.append || content.length = file.offset
        let content := if atEnd then content ++ text else overwrite content file.offset text
        let offset := if file.append then file.offset else file.offset + text.length
        .ok ((p.withFiles (p.files.set file.node (.file content mode))).setOpen place
          { file with offset })
      | some (.device .full) => .error .noSpaceLeft
      | _ => .ok p

/-- Writes a text where it can be written; otherwise it is lost. -/
def send (p : Process) (descriptor : Nat) (text : String) : Process :=
  match p.write descriptor text with
  | .ok p => p
  | .error _ => p

def complain (p : Process) (text : String) : Process := p.send 2 text

/-- Opens a new pipe: the places of its reading and its writing end. -/
def pipe (p : Process) : Process × Nat × Nat :=
  let (files, node) := p.files.add (.file "" 0o600)
  let (p, reading) := (p.withFiles files).addOpen { node, isPipe := true }
  let (p, writing) := p.addOpen
    { node, isPipe := true, append := true, readable := false, writable := true }
  (p, reading, writing)

/-- Everything that has been written into a pipe. -/
def pipeText (p : Process) (place : Nat) : String :=
  match (p.system.opened[place]?).bind fun file => p.files.at? file.node with
  | some (.file content _) => content
  | _ => ""

/-- The status that another process sees once this one has ended. -/
def endingStatus (p : Process) : Nat :=
  match p.killed with
  | some signal => 128 + signal
  | none => p.status

/-- Takes over what all processes share from one that has run. -/
def adopt (p : Process) (other : Process) : Process := { p with system := other.system }

def wait (p : Process) (nanoseconds : Nat) : Process :=
  { p with system := { p.system with clock := p.system.clock + nanoseconds } }

def nextNumber (p : Process) : Process × Nat :=
  let number := p.system.lastProcess + 1
  ({ p with system := { p.system with lastProcess := number } }, number)

/-- The text of a fault as the utilities show it. -/
def faultText : OsFault → String
  | .number errno => OsFault.textOf errno
  | .refused text => text

end Process

end ColdBuild
