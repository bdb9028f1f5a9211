import ColdBuild.Machine.Octets
import ColdBuild.OsFault
import ColdBuild.Path

/-!
# A file system

Every directory, file, link and device is a node with a number of its own. A directory holds
names of nodes, and a file may have several names; a link holds a path. A path is followed one
segment after another from a directory. Every segment but the last has to lead through a
directory, also an empty one, a dot or a double dot, and a link on the way is followed, but only
so many of them. The system's limits on names and paths hold.

Opening a file for writing creates it where nothing is yet. A slash at the end of its path, or a
path that leads to a directory, is refused as a directory before the name is looked up.

A directory that has been removed has no names and takes up none, but whoever is in it may stay.
-/

namespace ColdBuild

inductive Device where
  /-- Takes everything, keeps nothing and holds nothing. -/
  | sink
  /-- Takes nothing, and holds nothing but zeros. -/
  | full
  /-- Takes everything, and holds nothing but zeros. -/
  | zero
  deriving DecidableEq

/-- A name in a directory. -/
abbrev FileName := List UInt8

inductive Node where
  | directory (parent : Nat) (entries : List (FileName × Nat)) (removed : Bool)
  /-- The text is one of octets. -/
  | file (content : String) (mode : Nat)
  | link (target : Path)
  /-- A program of the system itself. -/
  | utility (name : String)
  | device (device : Device)
  deriving DecidableEq

def Node.isDirectory : Node → Bool
  | .directory .. => true
  | _ => false

/-- A node, and when it was changed last. -/
structure StampedNode where
  node : Node
  changed : Nat := 0
  deriving DecidableEq

/-- Nodes by number; the first is the root. -/
structure FileSystem where
  nodes : Array StampedNode := #[⟨.directory 0 [] false, 0⟩]
  /-- How often something has been changed so far. -/
  changes : Nat := 0
  deriving DecidableEq

/-- Where a path leads before its last step is taken. -/
structure Target where
  directory : Nat
  /-- The last name; none if the path leads to the directory itself. -/
  name : Option FileName
  /-- A slash stands behind the name. -/
  slash : Bool
  deriving DecidableEq

namespace FileSystem

/-- The greatest length of a name, in octets. -/
def nameLimit : Nat := 255

/-- The least length of a path, in octets, that is too long. -/
def pathLimit : Nat := 4096

/-- How many links may be followed for one path. -/
def linkLimit : Nat := 40

/-- More segments than a path can have with all the links that may be followed. -/
def stepLimit : Nat := 200000

def fileMode : Nat := 0o644

def root : Nat := 0

def at? (fs : FileSystem) (number : Nat) : Option Node := (fs.nodes[number]?).map (·.node)

def changedAt (fs : FileSystem) (number : Nat) : Nat :=
  ((fs.nodes[number]?).map (·.changed)).getD 0

def set (fs : FileSystem) (number : Nat) (node : Node) : FileSystem where
  nodes := fs.nodes.setIfInBounds number ⟨node, fs.changes + 1⟩
  changes := fs.changes + 1

/-- Adds a node, which has no name yet. -/
def add (fs : FileSystem) (node : Node) : FileSystem × Nat :=
  ({ nodes := fs.nodes.push ⟨node, fs.changes + 1⟩, changes := fs.changes + 1 }, fs.nodes.size)

def touch (fs : FileSystem) (number : Nat) : FileSystem :=
  match fs.at? number with
  | some node => fs.set number node
  | none => fs

def entries (fs : FileSystem) (directory : Nat) : List (FileName × Nat) :=
  match fs.at? directory with
  | some (.directory _ entries _) => entries
  | _ => []

/-- Gives a node a name in a directory, in the place of one that has it. -/
def enter (fs : FileSystem) (directory : Nat) (name : FileName) (number : Nat) : FileSystem :=
  match fs.at? directory with
  | some (.directory parent entries removed) =>
    fs.set directory (.directory parent (entries.filter (·.1 ≠ name) ++ [(name, number)]) removed)
  | _ => fs

def leave (fs : FileSystem) (directory : Nat) (name : FileName) : FileSystem :=
  match fs.at? directory with
  | some (.directory parent entries removed) =>
    fs.set directory (.directory parent (entries.filter (·.1 ≠ name)) removed)
  | _ => fs

/-- Refuses paths that no call accepts. -/
def check (path : Path) : Except OsFault Unit :=
  if path.bytes.contains 0 then .error .nulInFileName
  else if path.bytes = [] then .error .noSuchFile
  else if pathLimit ≤ path.bytes.length then .error .nameTooLong
  else .ok ()

/-- Where a path starts: at the root if it begins with a slash. -/
def origin (current : Nat) (path : Path) : Nat :=
  if path.bytes.head? = some Path.slash then root else current

/-- Goes up to the last step of a path; also how many links may still be followed. -/
def approach (fs : FileSystem) : (fuel links directory : Nat) → List FileName →
    Except OsFault (Target × Nat)
  | _, links, directory, [] => .ok (⟨directory, none, false⟩, links)
  | 0, _, _, _ => .error .tooManyLinks
  | fuel + 1, links, directory, segment :: rest =>
    match fs.at? directory with
    | some (.directory parent entries _) =>
      if segment = [] ∨ segment = [Path.dot] then approach fs fuel links directory rest
      else if segment = [Path.dot, Path.dot] then approach fs fuel links parent rest
      else if rest.all (· = []) then .ok (⟨directory, some segment, !rest.isEmpty⟩, links)
      else if nameLimit < segment.length then .error .nameTooLong
      else match entries.lookup segment with
        | none => .error .noSuchFile
        | some number =>
          match fs.at? number, links with
          | some (.link _), 0 => .error .tooManyLinks
          | some (.link target), links + 1 =>
            approach fs fuel links (origin directory target) (target.segments ++ rest)
          | _, links => approach fs fuel links number rest
    | _ => .error .notADirectory

/-- Where a path leads, and what is there if something is. A link at its end is followed if
`follow` is set or a slash stands behind it. -/
def resolveFrom (fs : FileSystem) (follow create : Bool) (links directory : Nat)
    (segments : List FileName) : Except OsFault (Target × Option Nat) :=
  match fs.approach stepLimit links directory segments with
  | .error fault => .error fault
  | .ok (target, left) =>
    match target.name with
    | none => .ok (target, some target.directory)
    | some name =>
      if create && target.slash then .error .isADirectory
      else if nameLimit < name.length then .error .nameTooLong
      else match (fs.entries target.directory).lookup name with
        | none => .ok (target, none)
        | some number =>
          match fs.at? number, follow || target.slash with
          | some (.link path), true =>
            if h : left ≠ 0 ∧ left - 1 < links then
              let further := if target.slash then [[]] else []
              resolveFrom fs follow create (left - 1) (origin target.directory path)
                (path.segments ++ further)
            else .error .tooManyLinks
          | _, _ => .ok (target, some number)
termination_by links

/-- Where a path leads from a directory, and what is there if something is. -/
def resolve (fs : FileSystem) (current : Nat) (path : Path) (follow create : Bool) :
    Except OsFault (Target × Option Nat) := do
  check path
  fs.resolveFrom follow create linkLimit (origin current path) path.segments

/-- The node that a path leads to. -/
def find (fs : FileSystem) (current : Nat) (path : Path) (follow : Bool := true) :
    Except OsFault Nat := do
  match ← fs.resolve current path follow false with
  | (_, none) => throw .noSuchFile
  | (target, some number) =>
    let isDirectory := (fs.at? number).any Node.isDirectory
    if target.slash && !isDirectory then throw .notADirectory else return number

def findDirectory (fs : FileSystem) (current : Nat) (path : Path) : Except OsFault Nat := do
  let number ← fs.find current path
  if (fs.at? number).any Node.isDirectory then return number else throw .notADirectory

/-- Adds a node under a name that is free. -/
def create (fs : FileSystem) (directory : Nat) (name : FileName) (node : Node) :
    Except OsFault (FileSystem × Nat) :=
  match fs.at? directory with
  | some (.directory _ _ false) =>
    let (fs, number) := fs.add node
    .ok (fs.enter directory name number, number)
  | _ => .error .noSuchFile

/-- Opens a file for writing, which is made if nothing is there. -/
def openForWriting (fs : FileSystem) (current : Nat) (path : Path) :
    Except OsFault (FileSystem × Nat) := do
  match ← fs.resolve current path true true with
  | (target, none) => fs.create target.directory (target.name.getD []) (.file "" fileMode)
  | (_, some number) =>
    match fs.at? number with
    | some (.directory ..) => throw .isADirectory
    | some (.utility _) => throw .permissionDenied
    | _ => return (fs, number)

/-- Makes a file hold exactly a text of octets. -/
def write (fs : FileSystem) (current : Nat) (path : Path) (text : String) :
    Except OsFault FileSystem := do
  let (fs, number) ← fs.openForWriting current path
  match fs.at? number with
  | some (.file _ mode) => return fs.set number (.file text mode)
  | some (.device .full) => if text = "" then return fs else throw .noSpaceLeft
  | _ => return fs

def makeDirectory (fs : FileSystem) (current : Nat) (path : Path) : Except OsFault FileSystem := do
  match ← fs.resolve current path false false with
  | (_, some _) => throw .fileExists
  | (target, none) =>
    return (← fs.create target.directory (target.name.getD [])
      (.directory target.directory [] false)).1

/-- The directory with a name in another one, which is made if nothing has the name. -/
def subdirectory (fs : FileSystem) (directory : Nat) (name : FileName) : FileSystem × Nat :=
  match (fs.entries directory).lookup name with
  | some number => (fs, number)
  | none =>
    let (fs, number) := fs.add (.directory directory [] false)
    (fs.enter directory name number, number)

/-- Makes a directory and all that are missing on the way to it. -/
def makeDirectories (fs : FileSystem) (names : List FileName) : FileSystem × Nat :=
  names.foldl (fun (fs, directory) name => fs.subdirectory directory name) (fs, root)

/-- Takes away the name that a path leads to, which is not that of a directory. -/
def unlink (fs : FileSystem) (current : Nat) (path : Path) : Except OsFault FileSystem := do
  match ← fs.resolve current path false false with
  | (target, some number) =>
    match target.name, fs.at? number with
    | none, _ | _, some (.directory ..) => throw .isADirectory
    | some name, _ =>
      if target.slash then throw .notADirectory else return fs.leave target.directory name
  | (_, none) => throw .noSuchFile

/-- Takes away a directory that holds nothing. -/
def removeDirectory (fs : FileSystem) (current : Nat) (path : Path) :
    Except OsFault FileSystem := do
  match ← fs.resolve current path false false with
  | (target, some number) =>
    match target.name, fs.at? number with
    | none, some (.directory ..) => throw .invalidArgument
    | some name, some (.directory parent entries _) =>
      if !entries.isEmpty then throw .notEmpty
      else return (fs.leave target.directory name).set number (.directory parent [] true)
    | _, _ => throw .notADirectory
  | (_, none) => throw .noSuchFile

/-- A directory is inside another one, or is that one. -/
def isWithin (fs : FileSystem) (outer : Nat) : (fuel : Nat) → (directory : Nat) → Bool
  | 0, _ => false
  | fuel + 1, directory =>
    directory = outer || match fs.at? directory with
      | some (.directory parent _ _) => parent ≠ directory && fs.isWithin outer fuel parent
      | _ => false

/-- A directory that another one takes the place of is left without names. -/
def displace (fs : FileSystem) (existing : Option Nat) : FileSystem :=
  match existing, existing.bind fs.at? with
  | some directory, some (.directory parent _ _) => fs.set directory (.directory parent [] true)
  | _, _ => fs

/-- Gives a node that has lost its name one in another directory. It counts as unchanged. -/
def settle (fs : FileSystem) (directory : Nat) (name : FileName) (number : Nat) (node : Node) :
    FileSystem :=
  let changed := fs.changedAt number
  let fs := fs.enter directory name number
  match node with
  | .directory _ entries removed =>
    let moved : Node := .directory directory entries removed
    { fs with nodes := fs.nodes.setIfInBounds number ⟨moved, changed⟩ }
  | _ => fs

/-- Gives what one path leads to the name that another one leads to. -/
def rename (fs : FileSystem) (current : Nat) (source goal : Path) : Except OsFault FileSystem := do
  let (origin, number) ← fs.resolve current source false false
  let number ← match number with
    | some number => pure number
    | none => throw .noSuchFile
  let (target, existing) ← fs.resolve current goal false false
  match origin.name, target.name, fs.at? number with
  | some old, some new, some node =>
    if (origin.slash || target.slash) && !node.isDirectory then throw .notADirectory
    else if existing = some number then return fs
    else if node.isDirectory && fs.isWithin number fs.nodes.size target.directory then
      throw .invalidArgument
    else
      match existing.bind fs.at?, node.isDirectory with
      | some (.directory _ entries _), true =>
        if !entries.isEmpty then throw .notEmpty else pure ()
      | some (.directory ..), false => throw .isADirectory
      | some _, true => throw .notADirectory
      | _, _ => pure ()
      match fs.at? target.directory with
      | some (.directory _ _ false) =>
        return ((fs.displace existing).leave origin.directory old).settle target.directory new number
          node
      | _ => throw .noSuchFile
  | _, _, _ => throw .busy

/-- Gives what one path leads to a further name. -/
def addName (fs : FileSystem) (current : Nat) (source goal : Path) : Except OsFault FileSystem := do
  let number ← fs.find current source false
  match ← fs.resolve current goal false false with
  | (_, some _) => throw .fileExists
  | (target, none) =>
    if (fs.at? number).any Node.isDirectory then throw .notPermitted
    else match target.name, fs.at? target.directory with
      | some name, some (.directory _ _ false) =>
        if target.slash then throw .noSuchFile
        else return fs.enter target.directory name number
      | _, _ => throw .noSuchFile

def makeLink (fs : FileSystem) (current : Nat) (path goal : Path) : Except OsFault FileSystem := do
  if path.bytes = [] then throw .noSuchFile
  else match ← fs.resolve current goal false false with
    | (_, some _) => throw .fileExists
    | (target, none) =>
      if target.slash then throw .noSuchFile
      else return (← fs.create target.directory (target.name.getD []) (.link path)).1

/-- The names on the way to a directory from the root. -/
def placeOf (fs : FileSystem) : (fuel : Nat) → (directory : Nat) → List FileName
  | 0, _ => []
  | fuel + 1, directory =>
    match fs.at? directory with
    | some (.directory parent _ _) =>
      if parent = directory then []
      else
        let name := ((fs.entries parent).find? (·.2 = directory)).map Prod.fst
        placeOf fs fuel parent ++ name.toList
    | _ => []

/-- A directory as an absolute path, in octets. -/
def pathOf (fs : FileSystem) (directory : Nat) : String :=
  let names := fs.placeOf fs.nodes.size directory
  if names.isEmpty then "/" else String.join (names.map fun name => "/" ++ Octets.ofBytes name)

end FileSystem

end ColdBuild
