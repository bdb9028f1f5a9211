import ColdBuild.Host
import ColdBuild.Machine.Utility.Table

/-!
# A machine

A host whose world is plain data: a process with its directory and environment, the files, the
clock, and the peak memory of the children so far. It runs the system's utilities and shell scripts.
With it a whole session is a function of the files it starts from, which shows what a session
does without running anything.

Starting a program fails as the system's calls do: the child changes into its directory first,
then the program is looked for, along the search path if its name holds no slash and from the
child's directory otherwise. A child has no input, and what it writes is lost unless it goes into
files. Every child takes some time and some memory.
-/

namespace ColdBuild

structure Machine where
  /-- The process that starts children. -/
  process : Process
  /-- The greatest amount of memory that a child has taken so far. -/
  peakKb : Nat := 0
  deriving DecidableEq

namespace Machine

/-! ## What every machine has -/

/-- The names on the way to an absolute path. -/
def namesOf (path : String) : List FileName :=
  (Path.ofString path).segments.filter fun name => name ≠ []

def directories : List String :=
  ["/usr/bin", "/usr/sbin", "/usr/lib", "/usr/local/bin", "/usr/local/sbin", "/usr/share", "/dev",
    "/etc", "/home", "/root", "/tmp", "/var/tmp", "/var/log", "/run", "/proc", "/sys", "/opt",
    "/srv", "/mnt", "/media", "/boot"]

def links : List (String × String) :=
  [("/bin", "usr/bin"), ("/sbin", "usr/sbin"), ("/lib", "usr/lib"), ("/usr/bin/sh", "dash"),
    ("/usr/bin/awk", "mawk"), ("/dev/stdin", "/proc/self/fd/0"), ("/dev/stdout", "/proc/self/fd/1"),
    ("/dev/stderr", "/proc/self/fd/2"), ("/dev/fd", "/proc/self/fd")]

def devices : List (String × Device) :=
  [("/dev/null", .sink), ("/dev/zero", .zero), ("/dev/full", .full), ("/dev/random", .zero),
    ("/dev/urandom", .zero)]

def configurationFiles : List (String × String) :=
  [("/etc/passwd", "root:x:0:0:root:/root:/bin/bash\n"), ("/etc/group", "root:x:0:\n"),
    ("/etc/hostname", Process.hostName ++ "\n"), ("/etc/hosts", "127.0.0.1\tlocalhost\n")]

def put (fs : FileSystem) (path : String) (node : Node) : FileSystem :=
  let names := namesOf path
  let (fs, directory) := fs.makeDirectories names.dropLast
  let (fs, number) := fs.add node
  fs.enter directory (names.getLast?.getD []) number

/-- What every machine has: directories, devices, a list of users and the utilities. -/
def systemFiles : FileSystem :=
  let fs : FileSystem := directories.foldl (fun fs path => (fs.makeDirectories (namesOf path)).1) {}
  let fs := Utility.names.foldl (fun fs name => put fs s!"/usr/bin/{name}" (.utility name)) fs
  let fs := devices.foldl (fun fs (path, device) => put fs path (.device device)) fs
  let fs := configurationFiles.foldl (fun fs (path, text) =>
    put fs path (.file text FileSystem.fileMode)) fs
  links.foldl (fun fs (path, target) => put fs path (.link (.ofString target))) fs

/-- The environment of a process that is given none. -/
def basicEnvironment : List (String × String) :=
  [("HOME", "/root"), ("PATH", Shell.defaultPath)]

/-- A machine that is in a new, empty directory, with some variables in its environment. -/
def inDirectory (directory : String) (settings : List (String × String)) : Machine :=
  let (files, current) := systemFiles.makeDirectories (namesOf directory)
  let environment := basicEnvironment.filter fun (name, _) => !settings.any (·.1 = name)
  { process := {
      system := { files }
      number := 4242
      parent := 1
      current
      environment := environment ++ settings.map fun (name, value) =>
        (Octets.ofText name, Octets.ofText value)
      words := [] } }

def files (machine : Machine) : FileSystem := machine.process.files

/-- Puts a file below the current directory, with all directories that are missing. -/
def putFile (machine : Machine) (path text : String) (mode : Nat) : Machine :=
  let process := machine.process
  let front := process.files.placeOf process.files.nodes.size process.current
  let names := front ++ namesOf path
  let (fs, directory) := process.files.makeDirectories names.dropLast
  let (fs, number) := fs.add (.file (Octets.ofText text) mode)
  { machine with process := process.withFiles (fs.enter directory (names.getLast?.getD []) number) }

/-- Makes a directory below the current one, and all that are missing on the way. -/
def putDirectory (machine : Machine) (path : String) : Machine :=
  let process := machine.process
  let front := process.files.placeOf process.files.nodes.size process.current
  let (fs, _) := process.files.makeDirectories (front ++ namesOf path)
  { machine with process := process.withFiles fs }

/-! ## Looking at files -/

/-- The text of every file below a directory, by the names that lead to it; so many links may still
be followed on the way. -/
def filesBelow (fs : FileSystem) : (fuel links directory : Nat) → List FileName →
    List (List FileName × String)
  | 0, _, _, _ => []
  | fuel + 1, links, directory, front =>
    (fs.entries directory).flatMap fun (name, number) =>
      let place := front ++ [name]
      let isLink := match fs.at? number with
        | some (.link _) => true
        | _ => false
      if isLink && links = 0 then []
      else
        let goal := if isLink then fs.find directory ⟨name⟩ else .ok number
        match goal with
        | .error _ => []
        | .ok number =>
          match fs.at? number with
          | some (.file content _) => [(place, Octets.toText content)]
          | some (.directory ..) =>
            filesBelow fs fuel (if isLink then links - 1 else links) number place
          | _ => []

def listFiles (machine : Machine) : List (String × String) :=
  let fs := machine.files
  (filesBelow fs (fs.nodes.size + FileSystem.linkLimit) FileSystem.linkLimit machine.process.current
    []).map fun (place, text) => ("/".intercalate (place.map Utf8.decode), text)

/-! ## Children -/

/-- Whether a text may be given to a child. -/
def mayPass (text : String) : Bool := !text.contains Loaded.nul

/-- The time a child takes at least, in nanoseconds. -/
def childTime : Nat := 1500000

def childKb : Nat := 3000

/-- Lets all that a process reads and writes be nothing. -/
def muted (p : Process) : Process :=
  let attach (p : Process) (mode : OpenMode) (descriptor : Nat) : Process :=
    match p.openPath mode "/dev/null" with
    | .ok (p, place) => p.attach descriptor place
    | .error _ => p
  attach (attach (attach p .reading 0) .writing 1) .writing 2

/-- How a process that has ended is reported. -/
def endingOf (p : Process) : WaitStatus :=
  match p.killed with
  | some signal => .ofSignal signal
  | none => .ofExitCode p.status

/-- Runs a program in a directory to its end. -/
def spawn (program : String) (directory : Path) (arguments : List String) (machine : Machine) :
    Except OsFault WaitStatus × Machine :=
  if !(program :: arguments).all mayPass || directory.bytes.contains 0 then
    (.error .nulInArgument, machine)
  else
    let words := (program :: arguments).map Octets.ofText
    let p := machine.process
    let started := do
      let current ← p.files.findDirectory p.current directory
      let p := { p with current }
      return (p, ← Loaded.ofWords p words)
    match started with
    | .error fault => (.error fault, machine)
    | .ok (child, loaded) =>
      let (child, number) := child.nextNumber
      let child := muted { child with number, parent := p.number, words := loaded.words }
      let ended := execute loaded child
      (.ok (endingOf ended),
        { process := { p.adopt ended with descriptors := [] }.wait childTime
          peakKb := max machine.peakKb childKb })

def host : Host Machine where
  spawn := spawn
  peakKb machine := (.ok machine.peakKb, machine)
  now machine := (.ofNanoseconds machine.process.system.clock, machine)
  writeFile path text machine :=
    let p := machine.process
    match p.files.write p.current path (Octets.ofText text) with
    | .ok files => (.ok (), { machine with process := p.withFiles files })
    | .error fault => (.error fault, machine)

end Machine

end ColdBuild
