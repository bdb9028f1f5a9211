import ColdBuild.Machine.Utility.Lines

/-!
# Utilities for columns

Lines of two files are joined where a field of them agrees; tabs are made into blanks and back.
-/

namespace ColdBuild

/-! ## Joining -/

structure Joining where
  /-- The fields that have to agree, of either file. -/
  keys : Nat × Nat := (0, 0)
  /-- What stands between fields; blanks if nothing is said. -/
  separator : Option Char := none
  /-- The files whose lines without a partner are shown. -/
  alone : List Nat := []
  /-- Lines with a partner are shown. -/
  together : Bool := true
  /-- What is shown for a field that is not there. -/
  missing : String := ""
  /-- The fields that are shown, each with its file; the field agreed on is in file 0. -/
  format : Option (List (Nat × Nat)) := none
  folded : Bool := false

namespace Joining

def fieldsOf (j : Joining) (line : String) : List String :=
  match j.separator with
  | some c => line.splitOn (String.ofList [c])
  | none =>
    let spaced := line.map fun c => if c = '\t' then ' ' else c
    (spaced.splitOn " ").filter (· ≠ "")

/-- The field of a line that has to agree. -/
def keyOf (j : Joining) (field : Nat) (fields : List String) : String :=
  let key := fields.getD field ""
  if j.folded then key.map Char.toLower else key

/-- A line that is shown, made of the fields of lines of both files. -/
def shown (j : Joining) (first second : Option (List String)) : String :=
  let between := String.ofList [j.separator.getD ' ']
  let key := match first, second with
    | some fields, _ => fields.getD j.keys.1 ""
    | none, some fields => fields.getD j.keys.2 ""
    | none, none => ""
  let filled (text : String) : String := if text = "" then j.missing else text
  let others (field : Nat) (fields : Option (List String)) : List String :=
    ((fields.getD []).eraseIdx field)
  let fields := match j.format with
    | none => key :: others j.keys.1 first ++ others j.keys.2 second
    | some format => format.map fun (file, field) =>
      match file with
      | 0 => key
      | 1 => (first.getD []).getD field ""
      | _ => (second.getD []).getD field ""
  between.intercalate (fields.map filled) ++ "\n"

def run (j : Joining) : (fuel : Nat) → List (List String) → List (List String) → List String
  | 0, _, _ => []
  | _, [], bs => if j.alone.contains 2 then bs.map fun b => j.shown none (some b) else []
  | _, as, [] => if j.alone.contains 1 then as.map fun a => j.shown (some a) none else []
  | fuel + 1, a :: as, b :: bs =>
    let key := j.keyOf j.keys.1 a
    let other := j.keyOf j.keys.2 b
    if key < other then
      (if j.alone.contains 1 then [j.shown (some a) none] else []) ++ j.run fuel as (b :: bs)
    else if other < key then
      (if j.alone.contains 2 then [j.shown none (some b)] else []) ++ j.run fuel (a :: as) bs
    else
      let firsts := (a :: as).takeWhile fun a => j.keyOf j.keys.1 a = key
      let seconds := (b :: bs).takeWhile fun b => j.keyOf j.keys.2 b = key
      let pairs := firsts.flatMap fun a => seconds.map fun b => j.shown (some a) (some b)
      (if j.together then pairs else []) ++
        j.run fuel ((a :: as).drop firsts.length) ((b :: bs).drop seconds.length)

/-- Reads which fields are shown. -/
def format? (text : String) : Option (List (Nat × Nat)) :=
  ((text.map fun c => if c = ' ' || c = '\t' then ',' else c).splitOn ",").mapM fun word =>
    match word.splitOn "." with
    | ["0"] => some (0, 0)
    | [file, field] => do
      let file ← Process.whole? file
      let field ← Process.whole? field
      if (file = 1 || file = 2) && 0 < field then return (file, field - 1) else none
    | _ => none

end Joining

namespace Process

def joinLines (p : Process) : Process :=
  p.withCall ["1=", "2=", "a=", "e=", "i,ignore-case", "j=", "o=", "t=", "v=", "z,zero-terminated",
      "check-order", "nocheck-order", "header"] fun call =>
    match call.operands with
    | [first, second] =>
      let field (key : String) : Except String Nat :=
        match call.value? key <|> call.value? "j" with
        | none => .ok 0
        | some text =>
          match whole? text with
          | some (n + 1) => .ok n
          | _ => .error ("invalid field number: " ++ shown text)
      let format : Except String (Option (List (Nat × Nat))) := match call.value? "o" with
        | none | some "auto" => .ok none
        | some text => match Joining.format? text with
          | some format => .ok (some format)
          | none => .error s!"invalid field specifier: {shown text}"
      let read := do
        let one ← field "1"
        let two ← field "2"
        return (one, two, ← format)
      match read, p.source first with
      | .error message, _ => p.fault message
      | _, .error fault => p.faultAbout first fault
      | .ok (one, two, format), .ok (a, p) =>
        match p.source second with
        | .error fault => p.faultAbout second fault
        | .ok (b, p) =>
          let files (key : String) : List Nat := (call.values key).filterMap whole?
          let j : Joining := {
            keys := (one, two)
            separator := (call.value? "t").bind fun text => text.toList.head?
            alone := files "a" ++ files "v"
            together := !call.has "v"
            missing := (call.value? "e").getD ""
            format
            folded := call.has "i" }
          let as := (linesOf a).map j.fieldsOf
          let bs := (linesOf b).map j.fieldsOf
          p.print (String.join (j.run (as.length + bs.length + 1) as bs))
    | [] => p.misuse "missing operand"
    | [operand] => p.misuse s!"missing operand after {shown operand}"
    | _ :: _ :: extra :: _ => p.misuse s!"extra operand {shown extra}"

/-! ## Tabs -/

def nextStop (stops : List Nat) (column : Nat) : Nat :=
  match stops with
  | [size] => column + size - column % max size 1
  | stops => (stops.find? (column < ·)).getD (column + 1)

/-- The tab stops that a call names. -/
def stopsOf (call : Call) : List Nat :=
  let texts := (call.values "t").flatMap fun text => (text.map fun c =>
    if c = ' ' then ',' else c).splitOn ","
  match texts.filterMap whole? with
  | [] => [8]
  | stops => stops

/-- Makes the tabs of a line into blanks. -/
def expandedLine (stops : List Nat) (leading : Bool) (line : String) : String :=
  let (chars, _, _) := line.toList.foldl (fun (chars, column, start) c =>
    let start := start && (c = ' ' || c = '\t')
    if c = '\t' && (start || !leading) then
      let next := nextStop stops column
      (List.replicate (next - column) ' ' ++ chars, next, start)
    else (c :: chars, if c = '\x08' then column - 1 else column + 1, start))
    (([] : List Char), 0, true)
  String.ofList chars.reverse

def expand (p : Process) : Process :=
  p.withCall ["i,initial", "t,tabs="] fun call =>
    p.forSources call.operands fun p _ text =>
      let lines := (linesOf text).map (expandedLine (stopsOf call) (call.has "i"))
      p.print (if text.endsWith "\n" || text = "" then unlines lines else "\n".intercalate lines)

/-- What is known in the middle of a line whose blanks are made into tabs. -/
structure Unexpansion where
  /-- What has been written, in reverse. -/
  written : List Char := []
  column : Nat := 0
  /-- Blanks that may still become a tab, in reverse. -/
  held : List Char := []
  /-- The character before was a blank. -/
  afterBlank : Bool := false
  /-- The first blank that is held reaches a tab stop by itself. -/
  reaching : Bool := false
  converting : Bool := true

namespace Unexpansion

/-- Writes the blanks that are held, and a character. -/
def put (u : Unexpansion) (c : Char) (blank everywhere : Bool) : Unexpansion :=
  let held := if 1 < u.held.length && u.reaching then u.held.dropLast ++ ['\t'] else u.held
  { u with
    written := c :: held ++ u.written
    held := []
    reaching := if u.held.isEmpty then u.reaching else false
    afterBlank := blank
    converting := u.converting && (everywhere || blank) }

def step (stops : List Nat) (everywhere : Bool) (u : Unexpansion) (c : Char) : Unexpansion :=
  if !u.converting then { u with written := c :: u.written }
  else if c = ' ' || c = '\t' then
    let next := nextStop stops u.column
    -- A single blank before a tab stop is kept, or becomes a tab of its own.
    let kept (held : List Char) : List Char := if u.reaching then held.drop (held.length - 1) else []
    let replaced (held : List Char) : List Char :=
      if held.isEmpty then [] else held.dropLast ++ ['\t']
    if c = '\t' then
      { u with column := next, held := kept (replaced u.held) }.put '\t' true everywhere
    else if u.afterBlank && u.column + 1 = next then
      { u with column := next, held := kept (replaced u.held) }.put '\t' true everywhere
    else
      { u with
        column := u.column + 1
        held := c :: u.held
        afterBlank := true
        reaching := u.reaching || u.column + 1 = next }
  else { u with column := u.column + 1 }.put c false everywhere

end Unexpansion

/-- Makes the blanks of a line into tabs, as far as they reach a tab stop. -/
def unexpandedLine (stops : List Nat) (everywhere : Bool) (line : String) : String :=
  let u := line.toList.foldl (Unexpansion.step stops everywhere) {}
  let held := if 1 < u.held.length && u.reaching then u.held.dropLast ++ ['\t'] else u.held
  String.ofList (held ++ u.written).reverse

def unexpand (p : Process) : Process :=
  p.withCall ["a,all", "first-only", "t,tabs="] fun call =>
    let everywhere := (call.has "a" || call.has "t") && !call.has "first-only"
    p.forSources call.operands fun p _ text =>
      let lines := (linesOf text).map (unexpandedLine (stopsOf call) everywhere)
      p.print (if text.endsWith "\n" || text = "" then unlines lines else "\n".intercalate lines)

/-! ## Factors -/

/-- The prime factors of a number, from some divisor on. -/
def primeFactors : (fuel : Nat) → (divisor n : Nat) → List Nat
  | 0, _, n => if 1 < n then [n] else []
  | fuel + 1, divisor, n =>
    if n < divisor * divisor then if 1 < n then [n] else []
    else if n % divisor = 0 then divisor :: primeFactors fuel divisor (n / divisor)
    else primeFactors fuel (if divisor = 2 then 3 else divisor + 2) n

def factor (p : Process) : Process :=
  p.withCall ["h,exponents"] fun call =>
    let tell (p : Process) (word : String) : Process :=
      match whole? word with
      | some n =>
        let factors := primeFactors 1000000 2 n
        p.print (String.join (s!"{n}:" :: factors.map fun n => s!" {n}") ++ "\n")
      | none => p.fault s!"{shown word} is not a valid positive integer"
    if !call.operands.isEmpty then call.operands.foldl tell p
    else match p.readAll 0 with
      | .error fault => p.faultAbout "error reading input" fault
      | .ok (text, p) =>
        let words := ((text.map fun c => if c = '\n' || c = '\t' then ' ' else c).splitOn " ").filter
          (· ≠ "")
        words.foldl tell p

end Process

end ColdBuild
