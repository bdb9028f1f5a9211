import ColdBuild.Machine.Process

/-!
# Loading programs

A program is found at a path or along the search path. A file that may be run names its
interpreter in its first line; the interpreter is loaded instead, with the argument that stands
behind its name, if any, and with the file as a further argument. Only the beginning of a file is
looked at, and a name that might be cut off there does not count.

Along the search path whatever cannot be run is passed over, but if nothing can be run, having
been denied something is reported rather than that nothing was found.
-/

namespace ColdBuild

/-- A program of the system with the words it is called with. -/
structure Loaded where
  utility : String
  words : List String
  deriving DecidableEq

/-- Runs a program that has been loaded, as a process with the words it is called with. -/
abbrev Executor := Loaded → Process → Process

namespace Loaded

/-- How many octets of a file are looked at. -/
def headLength : Nat := 256

def isGap (c : Char) : Bool := c = ' ' || c = '\t'

def nul : Char := Char.ofNat 0

/-- The interpreter that a file's beginning names, and the argument given to it. -/
def interpreter? (content : String) : Option (String × List String) :=
  let head := (content.take headLength).toString.toList
  match head with
  | '#' :: '!' :: rest =>
    let line := rest.takeWhile fun c => c ≠ '\n' && c ≠ nul
    let ended := line.length < rest.length && rest[line.length]? = some '\n'
    -- Behind the end of a short file, and behind a text that is cut off, there are no octets.
    let whole := if ended then line
      else (rest ++ List.replicate headLength nul).take (headLength - 3)
    let trimmed := (whole.reverse.dropWhile isGap).reverse
    let named := trimmed.dropWhile isGap
    let isEnd (c : Char) : Bool := isGap c || c = nul
    let name := named.takeWhile (!isEnd ·)
    let certain := ended || ((rest ++ List.replicate headLength nul).take (headLength - 2)
      |>.dropWhile isGap |>.any isEnd)
    let behind := named.drop name.length
    let argument := if behind.head?.any isGap then
        (behind.dropWhile isGap).takeWhile (· ≠ nul)
      else []
    if !certain || named.isEmpty then none
    else some (String.ofList name, if argument.isEmpty then [] else [String.ofList argument])
  | _ => none

/-- How many interpreters one after another may be files with an interpreter of their own. -/
def depthLimit : Nat := 5

def isRunnable (mode : Nat) : Bool := mode &&& 0o111 ≠ 0

/-- Loads what a path leads to, to be called with words. -/
def load (p : Process) : (depth : Nat) → (path : String) → (words : List String) →
    Except OsFault Loaded
  | depth, path, words => do
    let number ← p.find path
    match p.files.at? number with
    | some (.utility utility) => return ⟨utility, words⟩
    | some (.file content mode) =>
      if !isRunnable mode then throw .permissionDenied
      else match depth, interpreter? content with
        | _, none => throw .badExecutable
        | 0, _ => throw .tooManyLinks
        | depth + 1, some (interpreter, argument) =>
          load p depth interpreter (interpreter :: argument ++ path :: words.drop 1)
    | _ => throw .permissionDenied

/-- The program may still be found further along the search path. -/
def isPassedOver (fault : OsFault) : Bool :=
  [OsFault.permissionDenied, .noSuchFile, .notADirectory].contains fault

def search (p : Process) (name : String) (words : List String) (denied : Bool)
    (last : OsFault) : List String → Except OsFault Loaded
  | [] => .error (if denied then .permissionDenied else last)
  | directory :: rest =>
    let path := if directory = "" then name else s!"{directory}/{name}"
    match load p depthLimit path words with
    | .ok loaded => .ok loaded
    | .error fault =>
      if isPassedOver fault then
        search p name words (denied || fault = .permissionDenied) fault rest
      else .error fault

/-- Where programs are looked for if the environment does not say. -/
def defaultSearchPath : String := "/bin:/usr/bin"

/-- Loads a program, which is the first of the words. -/
def ofWords (p : Process) (words : List String) : Except OsFault Loaded :=
  let name := words.headD ""
  if name = "" then .error .noSuchFile
  else if name.contains '/' then load p depthLimit name words
  else if FileSystem.nameLimit < name.length then .error .nameTooLong
  else search p name words false .noSuchFile
    (((p.environmentValue? "PATH").getD defaultSearchPath).splitOn ":")

end Loaded

end ColdBuild
