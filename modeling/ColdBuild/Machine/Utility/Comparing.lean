import ColdBuild.Machine.Utility.Lines
import ColdBuild.Machine.Utility.Surroundings

/-!
# Utilities that compare files

Files are compared octet by octet, or line by line. Of two lists of lines a longest common part is
kept; what lies between its pieces is a change, from lines of the one list to lines of the other.
-/

namespace ColdBuild

/-- A change: lines from a place on are replaced by lines from a place on. -/
structure LineChange where
  oldStart : Nat
  oldCount : Nat
  newStart : Nat
  newCount : Nat
  deriving DecidableEq, Repr

namespace LineChange

/-- The lengths of the longest common parts of the ends of a list with the ends of another one,
from the row of the list without its first line. -/
def lengthsWith (line : String) : List String → List Nat → List Nat
  | [], _ => [0]
  | other :: others, below =>
    let right := lengthsWith line others (below.drop 1)
    let here := if line = other then (below.drop 1).headD 0 + 1
      else max (below.headD 0) (right.headD 0)
    here :: right

/-- The lengths for every end of a list, the longest end first. -/
def lengths (new : List String) : List String → List (List Nat)
  | [] => [List.replicate (new.length + 1) 0]
  | line :: rest =>
    let rows := lengths new rest
    lengthsWith line new (rows.headD []) :: rows

/-- Adds a line that is taken out or put in to the changes, the last one of which comes first. -/
def extend (changes : List LineChange) (old new : Nat) (taken : Bool) : List LineChange :=
  let step (change : LineChange) : LineChange :=
    if taken then { change with oldCount := change.oldCount + 1 }
    else { change with newCount := change.newCount + 1 }
  match changes with
  | change :: rest =>
    if change.oldStart + change.oldCount = old && change.newStart + change.newCount = new then
      step change :: rest
    else step ⟨old, 0, new, 0⟩ :: changes
  | [] => [step ⟨old, 0, new, 0⟩]

/-- Goes through both lists along the table of lengths. -/
def walk : (fuel : Nat) → (old new : Nat) → List String → List String → List (List Nat) →
    List LineChange → List LineChange
  | 0, _, _, _, _, _, changes => changes
  | _, _, _, [], [], _, changes => changes
  | fuel + 1, i, j, a, b, rows, changes =>
    match a, b with
    | [], _ :: b => walk fuel i (j + 1) [] b (rows.map (·.drop 1)) (extend changes i j false)
    | _ :: a, [] => walk fuel (i + 1) j a [] (rows.drop 1) (extend changes i j true)
    | x :: a', y :: b' =>
      if x = y then walk fuel (i + 1) (j + 1) a' b' ((rows.drop 1).map (·.drop 1)) changes
      else
        let below := ((rows.drop 1).headD []).headD 0
        let right := ((rows.headD []).drop 1).headD 0
        if right ≤ below then walk fuel (i + 1) j a' b (rows.drop 1) (extend changes i j true)
        else walk fuel i (j + 1) a b' (rows.map (·.drop 1)) (extend changes i j false)
    | [], [] => changes

/-- The changes from one list of lines to another one. -/
def between (old new : List String) : List LineChange :=
  let front := ((old.zip new).takeWhile fun (a, b) => a = b).length
  let oldRest := old.drop front
  let newRest := new.drop front
  let back := ((oldRest.reverse.zip newRest.reverse).takeWhile fun (a, b) => a = b).length
  let a := oldRest.take (oldRest.length - back)
  let b := newRest.take (newRest.length - back)
  (walk (a.length + b.length + 1) front front a b (lengths b a) []).reverse

/-- A range of lines in letters; without lines, the one before it. -/
def rangeText (start count : Nat) : String :=
  if count = 0 then toString start
  else if count = 1 then toString (start + 1) else s!"{start + 1},{start + count}"

def headingRange (start count : Nat) : String :=
  if count = 1 then toString (start + 1)
  else s!"{if count = 0 then start else start + 1},{count}"

end LineChange

/-- The lines of a text, and behind a last one without an end that it has none. -/
def markedLines (text : String) : List String :=
  let lines := linesOf text
  if text = "" || text.endsWith "\n" then lines
  else lines.dropLast ++ [lines.getLast?.getD "" ++ "\n\\ No newline at end of file"]

/-- Changes one after another, each with its lines. -/
def changeTexts (old new : List String) (changes : List LineChange) : String :=
  String.join (changes.map fun change =>
    let oldLines := (old.drop change.oldStart).take change.oldCount
    let newLines := (new.drop change.newStart).take change.newCount
    let kind := if change.oldCount = 0 then "a" else if change.newCount = 0 then "d" else "c"
    let heading := LineChange.rangeText change.oldStart change.oldCount ++ kind ++
      LineChange.rangeText change.newStart change.newCount
    let divider := if change.oldCount ≠ 0 && change.newCount ≠ 0 then ["---"] else []
    Process.unlines
      (heading :: oldLines.map ("< " ++ ·) ++ divider ++ newLines.map ("> " ++ ·)))

/-- Changes that are shown together because few lines lie between them. -/
def changeGroups (around : Nat) : List LineChange → List (List LineChange)
  | [] => []
  | change :: rest =>
    match changeGroups around rest with
    | (next :: more) :: groups =>
      if next.oldStart ≤ change.oldStart + change.oldCount + 2 * around then
        (change :: next :: more) :: groups
      else [change] :: (next :: more) :: groups
    | groups => [change] :: groups

/-- Changes with the lines around them. -/
def unifiedText (around : Nat) (old new : List String) (changes : List LineChange) : String :=
  String.join ((changeGroups around changes).map fun group =>
    match group.head?, group.getLast? with
    | some first, some last =>
      let before := min around first.oldStart
      let behind := min around (old.length - (last.oldStart + last.oldCount))
      let start := first.oldStart - before
      let newStart := first.newStart - before
      let stop := last.oldStart + last.oldCount + behind
      let newStop := last.newStart + last.newCount + behind
      let kept (first last : Nat) : List String := ((old.drop first).take (last - first)).map (" " ++ ·)
      let (lines, place) := group.foldl (fun (lines, place) change =>
        (lines ++ kept place change.oldStart ++
          ((old.drop change.oldStart).take change.oldCount).map ("-" ++ ·) ++
          ((new.drop change.newStart).take change.newCount).map ("+" ++ ·),
          change.oldStart + change.oldCount)) (([] : List String), start)
      let heading := s!"@@ -{LineChange.headingRange start (stop - start)} " ++
        s!"+{LineChange.headingRange newStart (newStop - newStart)} @@"
      Process.unlines (heading :: lines ++ kept place stop)
    | _, _ => "")

namespace Process

structure CompareStyle where
  brief : Bool := false
  recursive : Bool := false
  /-- What is missing counts as empty. -/
  lenient : Bool := false
  identical : Bool := false
  around : Option Nat := none
  /-- What counts of a line. -/
  key : String → String := id
  /-- The words of the call that name no files. -/
  words : List String := []

/-- Compares two texts; what is shown, and whether they differ. -/
def compareTexts (style : CompareStyle) (first second old new : String) : String × Bool :=
  let a := markedLines old
  let b := markedLines new
  let changes := LineChange.between (a.map style.key) (b.map style.key)
  if changes.isEmpty then
    (if style.identical then s!"Files {first} and {second} are identical\n" else "", false)
  else if style.brief then (s!"Files {first} and {second} differ\n", true)
  else match style.around with
    | some around =>
      let stamp := (CalendarTime.ofSeconds startTime).format 0 "%F %T.%N %z".toList
      (s!"--- {first}\t{stamp}\n+++ {second}\t{stamp}\n" ++ unifiedText around a b changes, true)
    | none => (changeTexts a b changes, true)

/-- Compares what two paths lead to. -/
def comparePaths (style : CompareStyle) : (fuel : Nat) → (nested : Bool) →
    (first second : String) → Process → Process
  | 0, _, _, _, p => p
  | fuel + 1, nested, first, second, p =>
    let differing (p : Process) : Process := p.exit (max p.status 1)
    match p.isDirectory first, p.isDirectory second with
    | true, true =>
      let names := (p.namesIn first ++ p.namesIn second).eraseDups.mergeSort fun a b => a ≤ b
      names.foldl (fun p name =>
        let a := FilePath.join first name
        let b := FilePath.join second name
        let has (directory : String) : Bool := (p.namesIn directory).contains name
        if !has first && !style.lenient then (differing p).print s!"Only in {second}: {name}\n"
        else if !has second && !style.lenient then (differing p).print s!"Only in {first}: {name}\n"
        else if p.isDirectory a && p.isDirectory b && !style.recursive then
          p.print s!"Common subdirectories: {a} and {b}\n"
        else comparePaths style fuel true a b p) p
    | true, false =>
      if nested then (differing p).print
        s!"File {first} is a directory while file {second} is a regular file\n"
      else comparePaths style fuel nested (FilePath.join first (FilePath.base second)) second p
    | false, true =>
      if nested then (differing p).print
        s!"File {first} is a regular file while file {second} is a directory\n"
      else comparePaths style fuel nested first (FilePath.join second (FilePath.base first)) p
    | false, false =>
      let read (p : Process) (path : String) : String × Process :=
        match p.source path with
        | .ok (text, p) => (text, p)
        | .error fault =>
          if style.lenient && fault = .noSuchFile then ("", p)
          else ("", p.fault s!"{path}: {faultText fault}" 2)
      let before := p.status
      let (old, q) := read (p.exit 0) first
      let (new, q) := read q second
      if q.status = 2 then q
      else
        let (text, differs) := compareTexts style first second old new
        let heading := if nested && differs && !style.brief then
            " ".intercalate ("diff" :: style.words ++ [first, second]) ++ "\n"
          else ""
        (q.exit (if differs then max before 1 else before)).print (heading ++ text)

/-- Refuses a call that names too few files. -/
def withoutOperand (p : Process) (last : String) : Process :=
  (p.report s!"missing operand after {shown last}").fault
    s!"Try '{p.name} --help' for more information." 2

def compareLines (p : Process) : Process :=
  p.withCall ["q,brief", "r,recursive", "N,new-file", "s,report-identical-files", "u", "unified?",
      "U=", "i,ignore-case", "w,ignore-all-space", "b,ignore-space-change", "Z,ignore-trailing-space",
      "B,ignore-blank-lines", "a,text", "normal", "strip-trailing-cr", "c", "y,side-by-side",
      "d,minimal", "color?", "label=", "x,exclude=", "t,expand-tabs", "no-dereference"]
    (fun call =>
    let blank (c : Char) : Bool := c = ' ' || c = '\t'
    let key (line : String) : String :=
      let chars := if call.has "i" then line.toList.map Char.toLower else line.toList
      let chars := if call.has "w" then chars.filter (!blank ·)
        else if call.has "b" then
          " ".intercalate ((String.ofList chars).split blank |>.toList.map toString |>.filter (· ≠ ""))
            |>.toList
        else if call.has "Z" then (chars.reverse.dropWhile blank).reverse
        else chars
      String.ofList chars
    let around := match call.value? "U", call.value? "unified" with
      | some n, _ => some ((whole? n).getD 3)
      | none, some n => some ((whole? n).getD 3)
      | none, none => if call.has "u" then some 3 else none
    let style : CompareStyle := {
      brief := call.has "q", recursive := call.has "r", lenient := call.has "N"
      identical := call.has "s", around, key
      words := p.arguments.filter fun word => word.startsWith "-" && word ≠ "-" }
    match call.operands with
    | [] => p.withoutOperand p.name
    | [only] => p.withoutOperand only
    | [first, second] => comparePaths style p.files.nodes.size.succ false first second p
    | _ :: _ :: extra :: _ => p.misuse s!"extra operand {shown extra}" 2) true 2

def octalOctet (c : Char) : String := atRight 3 (String.ofList (Nat.toDigits 8 c.toNat))

def compareOctets (p : Process) : Process :=
  p.withCall ["s,quiet,silent", "l,verbose", "b,print-bytes", "i,ignore-initial=", "n,bytes="]
    (fun call =>
    let run (first second : String) : Process :=
      let limit (text : String) : String :=
        match (call.value? "n").bind sizeOf? with
        | some n => (text.take n).toString
        | none => text
      let complain (p : Process) (path : String) (fault : OsFault) : Process :=
        if call.has "s" then p.exit 2 else p.fault s!"{path}: {faultText fault}" 2
      match p.source first with
      | .error fault => complain p first fault
      | .ok (old, p) =>
        match p.source second with
        | .error fault => complain p second fault
        | .ok (new, p) =>
          let a := (limit old).toList
          let b := (limit new).toList
          let pairs := (List.range (min a.length b.length)).zip (a.zip b)
          let different := pairs.filter fun (_, x, y) => x ≠ y
          let unequal := a.length ≠ b.length
          let p := if different.isEmpty && !unequal then p else p.exit 1
          let shorter := if a.length < b.length then first else second
          let length := min a.length b.length
          let line (n : Nat) : Nat := ((a.take n).filter (· = '\n')).length + 1
          let ending (p : Process) : Process :=
            if !unequal then p
            else if call.has "l" then p.report s!"EOF on {shorter} after byte {length}"
            else if length = 0 then p.report s!"EOF on {shorter} which is empty"
            else
              let lines := line length
              let position := if (a.getD (length - 1) ' ') = '\n' then s!"line {lines - 1}"
                else s!"in line {lines}"
              p.report s!"EOF on {shorter} after byte {length}, {position}"
          if call.has "s" then p
          else if call.has "l" then
            let width := (toString (max a.length b.length)).length
            ending (p.print (unlines (different.map fun (i, x, y) =>
              s!"{atRight width (toString (i + 1))} {octalOctet x} {octalOctet y}")))
          else match different with
            | (i, _) :: _ => p.print s!"{first} {second} differ: char {i + 1}, line {line i}\n"
            | [] => ending p
    match call.operands with
    | [] => p.withoutOperand p.name
    | [first] => run first "-"
    | first :: second :: _ => run first second) true 2

end Process

end ColdBuild
