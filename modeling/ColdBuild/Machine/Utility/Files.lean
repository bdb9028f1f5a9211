import ColdBuild.Machine.Utility.Call

/-!
# Utilities for files and directories

Making, removing, copying and moving of files, directories and links. Each operand is treated for
itself: what goes wrong with one is reported, and the others are treated all the same.

A mode says in octal digits which permissions a file gets, or in letters how they change.
-/

namespace ColdBuild

/-! ## Names -/

namespace FilePath

/-- A path without the slashes at its end, unless it is the root. -/
def trimmed (path : String) : String :=
  let chars := (path.toList.reverse.dropWhile (· = '/')).reverse
  if chars.isEmpty && path ≠ "" then "/" else String.ofList chars

/-- The last name of a path. -/
def base (path : String) : String :=
  let path := trimmed path
  if path = "/" then "/" else ((path.splitOn "/").getLast?).getD ""

def parent (path : String) : String :=
  let path := trimmed path
  if path = "/" then "/"
  else match (path.splitOn "/").dropLast with
    | [] => "."
    | names =>
      let front := trimmed ("/".intercalate names)
      if front = "" then "/" else front

def join (directory name : String) : String :=
  if directory.endsWith "/" then directory ++ name else s!"{directory}/{name}"

end FilePath

namespace Process

def pathOf (path : String) : Path := ⟨Octets.bytes path⟩

/-- Takes over what a call has made of the files, or reports why it failed. -/
def attempt (p : Process) (about : String) (result : Except OsFault FileSystem) : Process :=
  match result with
  | .ok files => p.withFiles files
  | .error fault => p.faultAbout about fault

def isDirectory (p : Process) (path : String) : Bool := (p.node? path).any Node.isDirectory

/-- Why a path leads to no directory. -/
def notADirectory (p : Process) (path : String) : OsFault :=
  match p.find path with
  | .ok _ => .notADirectory
  | .error fault => fault

def namesIn (p : Process) (path : String) : List String :=
  match p.find path with
  | .ok number =>
    ((p.files.entries number).map fun (name, _) => Octets.ofBytes name).mergeSort fun a b => a ≤ b
  | .error _ => []

def shown (name : String) : String := s!"'{name}'"

/-! ## Times -/

/-- Marks files as changed now, and makes those that are missing. -/
def touch (p : Process) : Process :=
  p.withCall ["a", "c,no-create", "d,date=", "f", "h,no-dereference", "m", "r,reference=", "t=",
      "time="] fun call =>
    if call.operands.isEmpty then p.misuse "missing file operand"
    else call.operands.foldl (fun p file =>
      match p.find file with
      | .ok number => p.withFiles (p.files.touch number)
      | .error fault =>
        if call.has "c" && fault = .noSuchFile then p
        else match p.openPath .appending file with
          | .ok (p, _) => p
          | .error .isADirectory => p.faultAbout s!"setting times of {shown file}" fault
          | .error fault => p.faultAbout s!"cannot touch {shown file}" fault) p

/-! ## Directories -/

/-- Makes a directory with all that are missing on the way to it. -/
def makePath (p : Process) (path : String) : Except OsFault FileSystem :=
  let names := path.splitOn "/"
  let steps := (List.range names.length).map fun n => "/".intercalate (names.take (n + 1))
  steps.foldlM (fun files step =>
    if step = "" then .ok files
    else match files.makeDirectory p.current (pathOf step) with
      | .ok files => .ok files
      | .error .fileExists =>
        match files.findDirectory p.current (pathOf step) with
        | .ok _ => .ok files
        | .error _ => if step = path then .error .fileExists else .error .notADirectory
      | .error fault => .error fault) p.files

def makeDirectories (p : Process) : Process :=
  p.withCall ["p,parents", "m,mode=", "v,verbose", "Z", "context?"] fun call =>
    if call.operands.isEmpty then p.misuse "missing operand"
    else call.operands.foldl (fun p path =>
      let result := if call.has "p" && path ≠ "" then p.makePath path
        else p.files.makeDirectory p.current (pathOf path)
      let p := p.attempt s!"cannot create directory {shown path}" result
      if call.has "v" && result.isOk then p.print s!"{p.name}: created directory {shown path}\n"
      else p) p

def removeDirectories (p : Process) : Process :=
  p.withCall ["ignore-fail-on-non-empty", "p,parents", "v,verbose"] fun call =>
    if call.operands.isEmpty then p.misuse "missing operand"
    else call.operands.foldl (fun p path =>
      let names := (FilePath.trimmed path).splitOn "/"
      let steps := (List.range names.length).map fun n =>
        "/".intercalate (names.take (names.length - n))
      let steps := if call.has "p" then path :: steps.drop 1 else [path]
      (steps.foldl (fun (p, more) step =>
        if !more || step = "" then (p, more)
        else
          let p := if call.has "v" then p.print s!"{p.name}: removing directory, {shown step}\n"
            else p
          match p.files.removeDirectory p.current (pathOf step) with
          | .ok files => (p.withFiles files, true)
          | .error fault =>
            if fault = .notEmpty && call.has "ignore-fail-on-non-empty" then (p, false)
            else (p.faultAbout s!"failed to remove {shown step}" fault, false)) (p, true)).1) p

/-! ## Removing -/

/-- Takes everything out of a directory, and out of those in it. -/
def emptied (fs : FileSystem) : (fuel : Nat) → (number : Nat) → FileSystem
  | 0, _ => fs
  | fuel + 1, number =>
    match fs.at? number with
    | some (.directory parent entries _) =>
      let fs := entries.foldl (fun fs (_, inner) => emptied fs fuel inner) fs
      fs.set number (.directory parent [] true)
    | _ => fs

/-- Removes what a path leads to, with all that is in it. -/
def removeTree (p : Process) (path : String) : Except OsFault FileSystem := do
  match ← p.files.resolve p.current (pathOf path) false false with
  | (_, none) => throw .noSuchFile
  | (target, some number) =>
    match target.name, p.files.at? number with
    | some name, some (.directory ..) =>
      return (emptied p.files p.files.nodes.size number).leave target.directory name
    | _, _ => p.files.unlink p.current (pathOf path)

/-- The next line of the input agrees. -/
def agrees (p : Process) : Bool × Process :=
  match p.unread 0 with
  | .error _ => (false, p)
  | .ok (place, file, text) =>
    let line := text.toList.takeWhile (· ≠ '\n')
    (line.head?.any fun c => c = 'y' || c = 'Y',
      p.setOpen place { file with offset := file.offset + line.length + 1 })

def remove (p : Process) : Process :=
  p.withCall ["f,force", "i", "I", "interactive?", "r,R,recursive", "d,dir", "v,verbose",
      "one-file-system", "no-preserve-root", "preserve-root?"] fun call =>
    let force := call.last? ["f", "i", "I", "interactive"] = some "f"
    let asking := call.last? ["f", "i"] = some "i"
    if call.operands.isEmpty then if force then p else p.misuse "missing operand"
    else call.operands.foldl (fun p path =>
      let isDirectory := (p.node? path false).any Node.isDirectory
      let base := FilePath.base path
      if isDirectory && call.has "r" && (base = "." || base = "..") then
        p.fault s!"refusing to remove '.' or '..' directory: skipping {shown path}"
      else if isDirectory && call.has "r" && base = "/" then
        p.fault s!"it is dangerous to operate recursively on {shown path}"
      else
        let (yes, p) := if asking then p.agrees else (true, p)
        if !yes then p
        else
          let result := if isDirectory then
              if call.has "r" then p.removeTree path
              else if call.has "d" then p.files.removeDirectory p.current (pathOf path)
              else .error .isADirectory
            else p.files.unlink p.current (pathOf path)
          match result with
          | .ok files =>
            let p := p.withFiles files
            if call.has "v" then
              p.print ((if isDirectory then "removed directory " else "removed ") ++ shown path ++ "\n")
            else p
          | .error fault =>
            if force && (fault = .noSuchFile || fault = .notADirectory) then p
            else p.faultAbout s!"cannot remove {shown path}" fault) p

def unlinkFile (p : Process) : Process :=
  p.withCall [] fun call =>
    match call.operands with
    | [] => p.misuse "missing operand"
    | [path] => p.attempt s!"cannot unlink {shown path}" (p.files.unlink p.current (pathOf path))
    | _ :: extra :: _ => p.misuse s!"extra operand {shown extra}"

/-! ## Copying, moving and linking -/

/-- What is to be done with one source and one goal. -/
abbrev Transfer := Process → (source goal : String) → Process

/-- Applies a transfer to the operands: to two paths, or to several and a directory. -/
def transfer (p : Process) (call : Call) (step : Transfer) : Process :=
  let into (p : Process) (directory : String) (sources : List String) : Process :=
    sources.foldl (fun p source =>
      step p source (FilePath.join directory (FilePath.base source))) p
  match call.value? "t", call.operands with
  | some directory, sources =>
    if sources.isEmpty then p.misuse "missing file operand"
    else if p.isDirectory directory then into p directory sources
    else p.faultAbout s!"target directory {shown directory}" (p.notADirectory directory)
  | none, [] => p.misuse "missing file operand"
  | none, [source] => p.misuse s!"missing destination file operand after {shown source}"
  | none, [source, goal] =>
    if call.has "T" then step p source goal
    else if p.isDirectory goal then into p goal [source]
    else step p source goal
  | none, operands =>
    let directory := (operands.getLast?).getD ""
    if call.has "T" then p.misuse ("extra operand " ++ shown (operands.getD 2 ""))
    else if p.isDirectory directory then into p directory operands.dropLast
    else p.faultAbout s!"target {shown directory}" (p.notADirectory directory)

structure CopyStyle where
  recursive : Bool
  follow : Bool
  keep : Bool
  spare : Bool
  linked : Bool
  symbolic : Bool
  verbose : Bool

def copyText (p : Process) (style : CopyStyle) (content : String) (mode : Nat) (goal : String) :
    Process :=
  let about := s!"cannot create regular file {shown goal}"
  let dangling := match p.node? goal, p.node? goal false with
    | none, some (.link _) => true
    | _, _ => false
  if dangling then p.fault s!"not writing through dangling symlink {shown goal}"
  else
    let fresh := (p.node? goal).isNone
    match p.openPath .writing goal with
    | .error .isADirectory => p.faultAbout about .notADirectory
    | .error fault => p.faultAbout about fault
    | .ok (opened, place) =>
      match (opened.system.opened[place]?).bind fun file =>
          (opened.files.at? file.node).map (file.node, ·) with
      | some (number, .file _ old) =>
        let kept := if style.keep then mode else mode &&& (0o777 ^^^ p.mask)
        opened.withFiles (opened.files.set number (.file content (if fresh then kept else old)))
      | some (_, .device .full) => if content = "" then opened
        else opened.faultAbout s!"error writing {shown goal}" .noSpaceLeft
      | _ => opened

def copyTree (style : CopyStyle) : (fuel : Nat) → (avoid : Nat) → Transfer
  | 0, _, p, _, _ => p
  | fuel + 1, avoid, p, source, goal =>
    match p.find source style.follow with
    | .error fault => p.faultAbout s!"cannot stat {shown source}" fault
    | .ok number =>
      let there := (p.find goal).toOption
      let present := (p.node? goal false).isSome
      if number = avoid then p
      else if style.spare && present then p
      else match p.files.at? number with
        | some (.directory ..) =>
          if !style.recursive then p.fault s!"-r not specified; omitting directory {shown source}"
          else if present && !p.isDirectory goal then
            p.fault s!"cannot overwrite non-directory {shown goal} with directory {shown source}"
          else if there = some number then
            p.fault s!"cannot copy a directory, {shown source}, into itself, {shown goal}"
          else
            let made := if present then .ok p.files
              else p.files.makeDirectory p.current (pathOf goal)
            match made with
            | .error fault => p.faultAbout s!"cannot create directory {shown goal}" fault
            | .ok files =>
              let p := p.withFiles files
              let inside := (p.find goal).toOption.getD avoid
              let loops := p.files.isWithin number p.files.nodes.size inside
              let avoid := if present then avoid else inside
              let p := (p.namesIn source).foldl (fun p name =>
                copyTree style fuel avoid p (FilePath.join source name) (FilePath.join goal name)) p
              if loops then
                p.fault s!"cannot copy a directory, {shown source}, into itself, {shown goal}"
              else p
        | some (.link path) =>
          if p.isDirectory goal then
            p.fault s!"cannot overwrite directory {shown goal} with non-directory"
          else
            let p := if present then
                (p.files.unlink p.current (pathOf goal)).toOption.elim p p.withFiles
              else p
            p.attempt s!"cannot create symbolic link {shown goal}"
              (p.files.makeLink p.current path (pathOf goal))
        | some node =>
          if there = some number then
            p.fault s!"{shown source} and {shown goal} are the same file"
          else if p.isDirectory goal then
            p.fault s!"cannot overwrite directory {shown goal} with non-directory"
          else if style.symbolic then
            p.attempt s!"cannot create symbolic link {shown goal}"
              (p.files.makeLink p.current (pathOf source) (pathOf goal))
          else if style.linked then
            p.attempt s!"cannot create hard link {shown goal} to {shown source}"
              (p.files.addName p.current (pathOf source) (pathOf goal))
          else
            let p := match node with
              | .file content mode => p.copyText style content mode goal
              | .utility _ => p.copyText style "" 0o755 goal
              | _ => p.copyText style "" FileSystem.fileMode goal
            if style.verbose then p.print s!"{shown source} -> {shown goal}\n" else p
        | none => p

def copy (p : Process) : Process :=
  p.withCall ["a,archive", "attributes-only", "b", "backup?", "copy-contents", "d", "f,force",
      "i,interactive", "H", "l,link", "L,dereference", "n,no-clobber", "P,no-dereference", "p",
      "preserve?", "no-preserve=", "parents", "r,R,recursive", "reflink?", "remove-destination",
      "sparse=", "strip-trailing-slashes", "s,symbolic-link", "S,suffix=", "t,target-directory=",
      "T,no-target-directory", "u", "update?", "v,verbose", "x,one-file-system"] fun call =>
    let recursive := call.has "r" || call.has "a"
    let follow := match call.last? ["L", "H", "P", "d", "a"] with
      | some "L" | some "H" => true
      | some _ => false
      | none => !recursive
    p.transfer call (copyTree {
      recursive, follow
      keep := call.has "p" || call.has "a" || call.has "preserve"
      spare := call.has "n"
      linked := call.has "l"
      symbolic := call.has "s"
      verbose := call.has "v" } p.files.nodes.size p.files.nodes.size.succ)

/-- Moves what one path leads to, to another path. -/
def moveTo (call : Call) : Transfer := fun p source goal =>
  match p.files.resolve p.current (pathOf source) false false, p.find source false with
  | .error fault, _ | _, .error fault => p.faultAbout s!"cannot stat {shown source}" fault
  | .ok _, .ok number =>
    let isDirectory := (p.files.at? number).any Node.isDirectory
    let existing := (p.find goal false).toOption
    let overDirectory := (existing.bind p.files.at?).any Node.isDirectory
    if call.has "n" && existing.isSome then p
    else if existing = some number && !isDirectory then
      p.fault s!"{shown source} and {shown goal} are the same file"
    else if overDirectory && !isDirectory then
      p.fault s!"cannot overwrite directory {shown goal} with non-directory"
    else if existing.isSome && !overDirectory && isDirectory then
      p.fault s!"cannot overwrite non-directory {shown goal} with directory {shown source}"
    else match p.files.rename p.current (pathOf source) (pathOf goal) with
      | .ok files =>
        let p := p.withFiles files
        if call.has "v" then p.print s!"renamed {shown source} -> {shown goal}\n" else p
      | .error .invalidArgument =>
        p.fault s!"cannot move {shown source} to a subdirectory of itself, {shown goal}"
      | .error .notEmpty => p.faultAbout s!"cannot overwrite {shown goal}" .notEmpty
      | .error .notADirectory =>
        if goal.endsWith "/" then p.faultAbout s!"cannot stat {shown goal}" .notADirectory
        else p.faultAbout s!"cannot move {shown source} to {shown goal}" .notADirectory
      | .error fault => p.faultAbout s!"cannot move {shown source} to {shown goal}" fault

def move (p : Process) : Process :=
  p.withCall ["b", "backup?", "f,force", "i,interactive", "n,no-clobber",
      "strip-trailing-slashes", "S,suffix=", "t,target-directory=", "T,no-target-directory", "u",
      "update?", "v,verbose", "Z,context", "exchange", "no-copy", "debug"] fun call =>
    p.transfer call (moveTo call)

/-- A path from one directory to what another absolute path leads to. -/
def relativePath (origin goal : List String) : String :=
  let rec common : List String → List String → Nat
    | a :: as, b :: bs => if a = b then common as bs + 1 else 0
    | _, _ => 0
  let shared := common origin goal
  let names := List.replicate (origin.length - shared) ".." ++ goal.drop shared
  if names.isEmpty then "." else "/".intercalate names

/-- Links a path to what another one leads to, or to that path itself. -/
def linkTo (call : Call) : Transfer := fun p source goal =>
  let symbolic := call.has "s"
  let kind := if symbolic then "symbolic" else "hard"
  let about := s!"failed to create {kind} link {shown goal}"
  let number := (p.find source (call.has "L")).toOption
  if !symbolic && number.isNone then
    match p.find source (call.has "L") with
    | .error fault => p.faultAbout s!"failed to access {shown source}" fault
    | .ok _ => p
  else if !symbolic && (number.bind p.files.at?).any Node.isDirectory then
    p.fault s!"{source}: hard link not allowed for directory"
  else
    let existing := p.find goal false
    let isDirectory := (p.node? goal false).any Node.isDirectory
    let same := !symbolic && existing.toOption = number && number.isSome
    if call.has "f" && same then p.fault s!"{shown source} and {shown goal} are the same file"
    else if call.has "f" && isDirectory then p.fault s!"{goal}: cannot overwrite directory"
    else
      let p := if call.has "f" && existing.isOk then
          (p.files.unlink p.current (pathOf goal)).toOption.elim p p.withFiles
        else p
      let told (p : Process) (result : Except OsFault FileSystem) (arrow : String) : Process :=
        let p := p.attempt about result
        if call.has "v" && result.isOk then p.print s!"{shown goal} {arrow} {shown source}\n" else p
      if !symbolic then told p (p.files.addName p.current (pathOf source) (pathOf goal)) "=>"
      else
        let target := if call.has "r" then
            let names (path : String) : List String :=
              let directory := (p.files.findDirectory p.current (pathOf (FilePath.parent path)))
              ((directory.toOption.elim "" p.files.pathOf).splitOn "/").filter (· ≠ "")
            relativePath (names goal) (names source ++ [FilePath.base source])
          else source
        told p (p.files.makeLink p.current (pathOf target) (pathOf goal)) "->"

def link (p : Process) : Process :=
  p.withCall ["b", "backup?", "d,F,directory", "f,force", "i,interactive", "L,logical",
      "n,no-dereference", "P,physical", "r,relative", "s,symbolic", "S,suffix=",
      "t,target-directory=", "T,no-target-directory", "v,verbose"] fun call =>
    match call.operands with
    | [source] =>
      if call.has "t" || call.has "T" then p.transfer call (linkTo call)
      else linkTo call p source (FilePath.join "." (FilePath.base source))
    | [source, goal] =>
      let asFile := call.has "n" && match p.node? goal false with
        | some (.link _) => true
        | _ => false
      if asFile then linkTo call p source goal else p.transfer call (linkTo call)
    | _ => p.transfer call (linkTo call)

/-! ## Permissions -/

/-- How one class of users is treated by a change of permissions. -/
structure ModeChange where
  /-- The bits of the users it is about. -/
  who : Nat
  operator : Char
  bits : Nat
  deriving DecidableEq, Repr

/-- The three bits of permissions for the user, the group and the others at once. -/
def threefold (bits : Nat) : Nat := (bits <<< 6) ||| (bits <<< 3) ||| bits

/-- What the letters of permissions mean for a file with a mode. -/
def permissionBits (old : Nat) : List Char → Nat
  | [] => 0
  | c :: rest =>
    let bits := match c with
      | 'r' => threefold 4
      | 'w' => threefold 2
      | 'x' => threefold 1
      | 'X' => if old &&& 0o111 ≠ 0 then threefold 1 else 0
      | 'u' => threefold ((old >>> 6) &&& 7)
      | 'g' => threefold ((old >>> 3) &&& 7)
      | 'o' => threefold (old &&& 7)
      | 's' => 0o6000
      | 't' => 0o1000
      | _ => 0
    bits ||| permissionBits old rest

/-- Applies changes that stand behind the letters of users. -/
def changedBy (who mask : Nat) : (fuel : Nat) → (old : Nat) → List Char → Option Nat
  | 0, _, _ => none
  | _, old, [] => some old
  | fuel + 1, old, operator :: rest =>
    if operator ≠ '+' && operator ≠ '-' && operator ≠ '=' then none
    else
      let letters := rest.takeWhile fun c => "rwxXstugo".toList.contains c
      let behind := rest.drop letters.length
      let bits := permissionBits old letters &&& who &&& mask
      let new := match operator with
        | '+' => old ||| bits
        | '-' => old &&& (0o7777 ^^^ bits)
        | _ => (old &&& (0o7777 ^^^ (who &&& 0o777))) ||| bits
      changedBy who mask fuel new behind

/-- The mode that a text makes of a mode, if it says one. -/
def changedMode? (umask : Nat) (text : String) (old : Nat) : Option Nat :=
  let chars := text.toList
  if chars.isEmpty then none
  else if chars.all fun c => '0' ≤ c && c ≤ '7' then
    let n := Nat.ofDigitChars 8 chars 0
    if n < 0o10000 then some n else none
  else (text.splitOn ",").foldlM (fun old clause =>
    let chars := clause.toList
    let users := chars.takeWhile fun c => "ugoa".toList.contains c
    let who := users.foldl (fun who c => who ||| match c with
      | 'u' => 0o4700
      | 'g' => 0o2070
      | 'o' => 0o1007
      | _ => 0o7777) 0
    let behind := chars.drop users.length
    if behind.isEmpty then none
    else if users.isEmpty then changedBy 0o7777 (0o7777 ^^^ umask) (behind.length + 1) old behind
    else changedBy who 0o7777 (behind.length + 1) old behind) old

/-- A word of a call is a mode, although it begins with a dash. -/
def isDashedMode (word : String) : Bool :=
  match word.toList with
  | '-' :: c :: _ => "rwxXstugoa,+=01234567".toList.contains c
  | _ => false

def permissionText (mode : Nat) : String :=
  let letters := [(0o400, 'r'), (0o200, 'w'), (0o100, 'x'), (0o40, 'r'), (0o20, 'w'), (0o10, 'x'),
    (0o4, 'r'), (0o2, 'w'), (0o1, 'x')]
  String.ofList (letters.map fun (bit, letter) => if mode &&& bit ≠ 0 then letter else '-')

/-- A mode in octal digits and in letters. -/
def modeInWords (mode : Nat) : String :=
  let digits := String.ofList (Nat.toDigits 8 mode)
  String.ofList (List.replicate (4 - digits.length) '0') ++ digits ++ s!" ({permissionText mode})"

def tellMode (p : Process) (call : Call) (path : String) (old new : Nat) : Process :=
  let before := modeInWords old
  if old ≠ new && (call.has "v" || call.has "c") then
    p.print s!"mode of {shown path} changed from {before} to {modeInWords new}\n"
  else if old = new && call.last? ["v", "c"] = some "v" then
    p.print s!"mode of {shown path} retained as {before}\n"
  else p

/-- Changes the mode of what a path leads to, and of all that is in it. -/
def changeTree (p : Process) (mode : String) (call : Call) : (fuel : Nat) → (path : String) →
    Process
  | 0, _ => p
  | fuel + 1, path =>
    match p.find path with
    | .error fault =>
      let p := if call.has "f" then p.exit 1
        else p.faultAbout s!"cannot access {shown path}" fault
      if call.last? ["v", "c"] = some "v" then p.print s!"{shown path} could not be accessed\n" else p
    | .ok number =>
      match p.files.at? number with
      | some (.file content old) =>
        let new := (changedMode? p.mask mode old).getD old
        let changed := p.files.changedAt number
        (p.withFiles { p.files with
          nodes := p.files.nodes.setIfInBounds number ⟨.file content new, changed⟩ }).tellMode
          call path old new
      | some (.directory ..) =>
        if call.has "R" then
          (p.namesIn path).foldl (fun p name =>
            changeTree p mode call fuel (FilePath.join path name)) p
        else p
      | _ => p

def changeMode (p : Process) : Process :=
  let dashed := p.words.drop 1 |>.filter isDashedMode
  let others := { p with words := p.name :: (p.words.drop 1).filter (!isDashedMode ·) }
  others.withCall ["R,recursive", "f,silent,quiet", "c,changes", "v,verbose", "reference=",
      "preserve-root", "no-preserve-root"] fun call =>
    let (mode, files) := if dashed.isEmpty && !call.has "reference" then
        (call.operands.head?, call.operands.drop 1)
      else (some (",".intercalate dashed), call.operands)
    match mode with
    | none => p.misuse "missing operand"
    | some mode =>
      if files.isEmpty then p.misuse (if dashed.isEmpty then s!"missing operand after {shown mode}"
        else "missing operand")
      else if (changedMode? p.mask mode 0).isNone then p.misuse s!"invalid mode: {shown mode}"
      else files.foldl (fun p file => changeTree p mode call p.files.nodes.size file) p

/-- Changes who files belong to, which nothing depends on. -/
def changeOwner (p : Process) : Process :=
  p.withCall ["R,recursive", "f,silent,quiet", "c,changes", "v,verbose", "reference=",
      "h,no-dereference", "dereference", "from=", "H", "L", "P", "preserve-root",
      "no-preserve-root"] fun call =>
    match call.operands with
    | [] => p.misuse "missing operand"
    | [owner] => p.misuse s!"missing operand after {shown owner}"
    | _ :: files => files.foldl (fun p file =>
      match p.find file with
      | .ok _ => p
      | .error fault => p.faultAbout s!"cannot access {shown file}" fault) p

/-! ## New files -/

/-- A name made of a number. -/
def nameOf (n : Nat) : (length : Nat) → List Char
  | 0 => []
  | length + 1 =>
    let letters := "kQ3vXbT7mZpR9cWdLs2Hn5GyJf8tBx4aVq6Ee".toList
    letters.getD (n % letters.length) 'a' :: nameOf (n / letters.length + n * 7 + length) length

def makeTemporary (p : Process) : Process :=
  p.withCall ["d,directory", "u,dry-run", "q,quiet", "p=", "tmpdir?", "t", "suffix="] fun call =>
    let template := call.operands.headD "tmp.XXXXXXXXXX"
    let suffix := (call.value? "suffix").getD ""
    let marks := (template.toList.reverse.takeWhile (· = 'X')).length
    let below := call.operands.isEmpty || call.has "p" || call.has "tmpdir" || call.has "t"
    let given := ((call.value? "p").or (call.value? "tmpdir")).filter (· ≠ "")
    let directory := (given.or (p.environmentValue? "TMPDIR")).getD "/tmp"
    if marks < 3 then p.fault s!"too few X's in template {shown template}"
    else
      let front := (template.take (template.length - marks)).toString
      let name := front ++ String.ofList (nameOf (p.files.changes + p.number) marks) ++ suffix
      let path := if below then FilePath.join directory name else name
      let kind := if call.has "d" then "directory" else "file"
      let made := if call.has "u" then .ok p
        else if call.has "d" then (p.files.makeDirectory p.current (pathOf path)).map p.withFiles
        else (p.openPath .writing path).map Prod.fst
      match made with
      | .ok p => p.print (path ++ "\n")
      | .error fault =>
        p.faultAbout s!"failed to create {kind} via template {shown template}" fault

/-- The number of octets that a text of a size says. -/
def sizeOf? (text : String) : Option Nat :=
  let digits := text.toList.takeWhile Char.isDigit
  let n := Nat.ofDigitChars 10 digits 0
  if digits.isEmpty then none
  else match String.ofList (text.toList.drop digits.length) with
    | "" => some n
    | "b" => some (n * 512)
    | "K" | "k" | "KiB" => some (n * 1024)
    | "KB" | "kB" => some (n * 1000)
    | "M" | "MiB" => some (n * 1048576)
    | "MB" => some (n * 1000000)
    | "G" | "GiB" => some (n * 1073741824)
    | _ => none

/-- Cuts files to a length, or fills them up with zeros. -/
def truncate (p : Process) : Process :=
  p.withCall ["c,no-create", "o,io-blocks", "r,reference=", "s,size="] fun call =>
    let text := (call.value? "s").getD ""
    let sign := text.toList.head?.filter fun c => "+-<>/%".toList.contains c
    match sizeOf? (if sign.isSome then (text.drop 1).toString else text) with
    | none =>
      if call.has "s" then p.fault s!"Invalid number: {shown text}"
      else p.misuse "you must specify either '--size' or '--reference'"
    | some n =>
      if call.operands.isEmpty then p.misuse "missing file operand"
      else call.operands.foldl (fun p file =>
        if call.has "c" && (p.node? file).isNone then p
        else match p.openPath .appending file with
          | .error fault => p.faultAbout s!"cannot open {shown file} for writing" fault
          | .ok (p, place) =>
            match (p.system.opened[place]?).bind fun file =>
                (p.files.at? file.node).map (file.node, ·) with
            | some (number, .file content mode) =>
              let size := match sign with
                | some '+' => content.length + n
                | some '-' => content.length - n
                | some '<' => min content.length n
                | some '>' => max content.length n
                | _ => n
              let zeros := String.ofList (List.replicate (size - content.length) (Char.ofNat 0))
              p.withFiles (p.files.set number
                (.file ((content.take size).toString ++ zeros) mode))
            | _ => p) p

/-- Copies files, or makes directories, and gives them a mode. -/
def install (p : Process) : Process :=
  p.withCall ["b", "backup?", "c", "C,compare", "d,directory", "D", "g,group=", "m,mode=",
      "o,owner=", "p,preserve-timestamps", "s,strip", "strip-program=", "S,suffix=",
      "t,target-directory=", "T,no-target-directory", "v,verbose"] fun call =>
    let mode := (call.value? "m").getD "755"
    if call.has "d" then
      if call.operands.isEmpty then p.misuse "missing file operand"
      else call.operands.foldl (fun p path =>
        p.attempt s!"cannot create directory {shown path}" (p.makePath path)) p
    else
      let style : CopyStyle := {
        recursive := false, follow := true, keep := true, spare := false
        linked := false, symbolic := false, verbose := call.has "v" }
      p.transfer call fun p source goal =>
        let p := if call.has "D" then
            ((p.makePath (FilePath.parent goal)).toOption).elim p p.withFiles
          else p
        let fine := p.status
        let p := match p.node? source with
          | some (.directory ..) => p.fault s!"omitting directory {shown source}"
          | _ => copyTree style p.files.nodes.size p.files.nodes.size.succ p source goal
        if p.status = fine then changeTree p mode {} 1 goal else p

end Process

end ColdBuild
