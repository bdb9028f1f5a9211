import ColdBuild.Machine.Utility.Lines
import ColdBuild.Machine.Shell.Pattern
import ColdBuild.Regex.Posix

/-!
# Searching texts

Lines are selected that match one of some patterns. The status tells whether a line has been
selected; a fault makes it two, unless it was asked for nothing else and a line was found.
-/

namespace ColdBuild

open ColdBuild.Regex (Expression Symbol Captures)

structure SearchStyle where
  expression : Expression Symbol
  inverted : Bool
  counted : Bool
  named : Bool
  /-- Only the names of files with selected lines, or of those without. -/
  namesOnly : Option Bool
  numbered : Bool
  partsOnly : Bool
  quiet : Bool
  silent : Bool
  offsets : Bool
  most : Option Nat
  before : Nat
  behind : Nat
  recursive : Bool
  includes : List String
  excludes : List String

namespace SearchStyle

def parts (style : SearchStyle) (line : Array Char) : (fuel : Nat) → (place : Nat) →
    List (Nat × String)
  | 0, _ => []
  | fuel + 1, place =>
    match (style.expression.findFrom line place).bind (·.group? 0) with
    | none => []
    | some (first, last) =>
      if last = first then
        if last < line.size then parts style line fuel (last + 1) else []
      else (first, String.ofList (line.extract first last).toList) :: parts style line fuel last

def selects (style : SearchStyle) (line : String) : Bool :=
  style.expression.occursIn line != style.inverted

structure Progress where
  shown : List String := []
  count : Nat := 0
  number : Nat := 1
  offset : Nat := 0
  /-- The lines before, the last one first, that have not been shown. -/
  waiting : List (Nat × Nat × String) := []
  /-- How many lines behind a selected one are still to be shown. -/
  owed : Nat := 0
  /-- The number of the last line that was shown. -/
  last : Nat := 0

/-- Shows a line with what stands before it, and a mark where lines have been left out. -/
def emit (style : SearchStyle) (name : String) (mark : String) (p : Progress)
    (line : Nat × Nat × String) : Progress :=
  let (number, offset, text) := line
  let gap := (style.before ≠ 0 || style.behind ≠ 0) && p.last ≠ 0 && p.last + 1 < number
  let shown := (if style.named then name ++ mark else "") ++
    (if style.numbered then s!"{number}{mark}" else "") ++
    (if style.offsets then s!"{offset}{mark}" else "") ++ text ++ "\n"
  { p with shown := shown :: (if gap then ["--\n"] else []) ++ p.shown, last := number }

/-- Takes the next line of a text into account. -/
def step (style : SearchStyle) (name : String) (p : Progress) (line : String) : Progress :=
  let plain := style.counted || style.namesOnly.isSome || style.quiet
  let enough := style.most.any (· ≤ p.count)
  let here := (p.number, p.offset, line)
  let next (p : Progress) : Progress :=
    { p with number := p.number + 1, offset := p.offset + line.length + 1 }
  if !enough && style.selects line then
    let p := { p with count := p.count + 1, owed := style.behind }
    if plain then next p
    else if style.partsOnly then
      let parts := if style.inverted then []
        else style.parts line.toList.toArray (line.length + 2) 0
      next (parts.foldl (fun p (first, text) =>
        style.emit name ":" p (p.number, p.offset + first, text)) p)
    else
      let p := p.waiting.reverse.foldl (style.emit name "-") p
      next (style.emit name ":" { p with waiting := [] } here)
  else if p.owed ≠ 0 && !plain && !style.partsOnly then
    next (style.emit name "-" { p with owed := p.owed - 1 } here)
  else if enough then next p
  else next { p with waiting := (here :: p.waiting).take style.before }

/-- Searches a text: what is shown, and whether a line has been selected. -/
def search (style : SearchStyle) (name text : String) : String × Bool :=
  let p := (linesOf text).foldl (style.step name) {}
  let found := p.count ≠ 0
  let shown :=
    if style.quiet then ""
    else match style.namesOnly with
      | some wanted => if found = wanted then name ++ "\n" else ""
      | none =>
        if style.counted then
          (if style.named then name ++ ":" else "") ++ toString p.count ++ "\n"
        else if text.contains (Char.ofNat 0) && !p.shown.isEmpty then
          s!"Binary file {name} matches\n"
        else String.join p.shown.reverse
  (shown, found)

/-- The name of a file passes the patterns that are given for names. -/
def admits (style : SearchStyle) (path : String) : Bool :=
  let isMatch (pattern : String) : Bool :=
    let items := Shell.Pattern.items (pattern.toList.map fun c => ⟨c, false⟩)
    Shell.Pattern.isMatch items (FilePath.base path).toList
  (style.includes.isEmpty || style.includes.any isMatch) && !style.excludes.any isMatch

end SearchStyle

namespace Process

/-- Searches what a path leads to, and all that is in it. -/
def searchPath (style : SearchStyle) : (fuel : Nat) → (found : Bool × Process) →
    (path : String) → Bool × Process
  | 0, found, _ => found
  | fuel + 1, (found, p), path =>
    if style.quiet && found then (found, p)
    else if path ≠ "-" && p.isDirectory path then
      if style.recursive then
        (p.namesIn path).foldl (fun (found, p) name =>
          let inner := FilePath.join path name
          match p.node? inner false with
          | some (.link _) => (found, p)
          | some (.directory ..) => searchPath style fuel (found, p) inner
          | _ => if style.admits inner then searchPath style fuel (found, p) inner
            else (found, p)) (found, p)
      else (found, if style.silent then p.exit 2 else p.fault s!"{path}: Is a directory" 2)
    else match p.source path with
      | .error fault =>
        (found, if style.silent then p.exit 2 else p.fault s!"{path}: {faultText fault}" 2)
      | .ok (text, p) =>
        let name := if path = "-" then "(standard input)" else path
        let (shown, matched) := style.search name text
        (found || matched, p.print shown)

/-- The patterns that a call gives, and its other operands. -/
def patternsOf (p : Process) (call : Call) : Except String (List String × List String) := do
  let texts := call.values "e"
  let files ← (call.values "f").mapM fun path =>
    match p.source path with
    | .ok (text, _) => pure (linesOf text)
    | .error fault => throw s!"{path}: {faultText fault}"
  if call.has "e" || call.has "f" then
    return (texts.flatMap (·.splitOn "\n") ++ files.flatten, call.operands)
  else match call.operands with
    | [] => throw ""
    | pattern :: rest => return (pattern.splitOn "\n", rest)

def grepAs (kind : String) (p : Process) : Process :=
  p.withCall ["A,after-context=", "B,before-context=", "C,context=", "E,extended-regexp",
      "F,fixed-strings", "G,basic-regexp", "P,perl-regexp", "H,with-filename",
      "L,files-without-match", "R,dereference-recursive", "U,binary", "V", "T,initial-tab",
      "Z,null", "a,text", "b,byte-offset", "binary-files=", "c,count", "color?", "colour?",
      "d,directories=", "D,devices=", "e,regexp=", "exclude=", "exclude-dir=", "exclude-from=",
      "f,file=", "h,no-filename", "I", "i,y,ignore-case", "include=", "l,files-with-matches",
      "label=", "line-buffered", "m,max-count=", "n,line-number", "no-ignore-case",
      "no-messages,s", "o,only-matching", "q,quiet,silent", "r,recursive", "v,invert-match",
      "w,word-regexp", "x,line-regexp", "z,null-data"] (fun call =>
    match p.patternsOf call with
    | .error message =>
      if message = "" then
        p.complain s!"Usage: {p.name} [OPTION]... PATTERNS [FILE]...\nTry '{p.name} --help' for more information.\n"
          |>.exit 2
      else p.fault message 2
    | .ok (patterns, operands) =>
      let kind := (call.last? ["E", "F", "G", "P"]).getD kind
      let syntaxStyle : Regex.Posix.Style := {
        extended := kind = "E" || kind = "P"
        folded := call.has "i"
        controls := kind = "P" }
      let compiled := patterns.mapM fun pattern =>
        if kind = "F" then .ok (Regex.Posix.literal syntaxStyle pattern)
        else Regex.Posix.compile syntaxStyle pattern
      match compiled with
      | .error problem => p.fault problem.message 2
      | .ok expressions =>
        let all : Expression Symbol := match expressions with
          | [] => .atom (.plain (.within []))
          | first :: rest => rest.foldl (fun found next => .either found next) first
        let bounded (first last : Regex.PlaceKind) : Expression Symbol :=
          .concat (Regex.Posix.place first) (.concat all (Regex.Posix.place last))
        let expression := if call.has "x" then bounded .start .stop
          else if call.has "w" then bounded .wordStartHalf .wordEndHalf else all
        let recursive := call.has "r" || call.has "R"
        let operands := if operands.isEmpty then if recursive then ["."] else ["-"] else operands
        let named := match call.last? ["H", "h"] with
          | some key => key = "H"
          | none => 1 < operands.length ||
            (recursive && operands.any fun path => p.isDirectory path)
        let width (key : String) : Nat :=
          (((call.value? key).or (call.value? "C")).bind whole?).getD 0
        let style : SearchStyle := {
          expression
          inverted := call.has "v"
          counted := call.has "c"
          named
          namesOnly := (call.last? ["l", "L"]).map fun key => key = "l"
          numbered := call.has "n"
          partsOnly := call.has "o"
          quiet := call.has "q"
          silent := call.has "no-messages"
          offsets := call.has "b"
          most := (call.value? "m").bind whole?
          before := width "B"
          behind := width "A"
          recursive
          includes := call.values "include"
          excludes := call.values "exclude" }
        let (found, p) := operands.foldl (searchPath style (p.files.nodes.size + 1)) (false, p)
        if found && call.has "q" then p.exit 0
        else if p.status ≠ 0 then p.exit 2
        else p.exit (if found then 0 else 1)) true 2

end Process

end ColdBuild
