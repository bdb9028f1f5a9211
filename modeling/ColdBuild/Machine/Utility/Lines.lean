import ColdBuild.Machine.Loading
import ColdBuild.Machine.Utility.Files
import ColdBuild.Regex.Syntax

/-!
# Utilities for lines of text

Each reads files, or its input if none is named, and writes lines to its output. A last line
without an end counts as a line.
-/

namespace ColdBuild

namespace Process

open ColdBuild.Regex (AsciiClass)

/-- A text in a field of a width, at its right end. -/
def atRight (width : Nat) (text : String) : String :=
  String.ofList (List.replicate (width - text.length) ' ') ++ text

def unlines (lines : List String) : String := String.join (lines.map (· ++ "\n"))

def whole? (text : String) : Option Nat :=
  let chars := text.toList
  if !chars.isEmpty && chars.all Char.isDigit then some (Nat.ofDigitChars 10 chars 0) else none

/-! ## Whole texts -/

/-- A character as it is shown if it cannot be seen. -/
def visible (tabs : Bool) (c : Char) : List Char :=
  let n := c.toNat
  let low (n : Nat) : List Char :=
    if n < 32 then ['^', Char.ofNat (n + 64)] else if n = 127 then ['^', '?'] else [Char.ofNat n]
  if c = '\n' || (c = '\t' && !tabs) then [c]
  else if n < 128 then low n
  else 'M' :: '-' :: low (n - 128)

/-- What has been done of a text with numbered lines. -/
structure Numbering where
  text : List String := []
  number : Nat := 1
  blank : Bool := false

/-- Shows a text as its options say. -/
def catText (call : Call) (state : Numbering) (text : String) : Numbering :=
  let squeezed := call.has "s"
  let all := call.has "A"
  let odd := call.has "v" || all || call.has "e" || call.has "t"
  let ends := call.has "E" || all || call.has "e"
  let tabs := call.has "T" || all || call.has "t"
  let lines := linesOf text
  let whole := text.endsWith "\n"
  lines.zipIdx.foldl (fun state (line, i) =>
    let isBlank := line = ""
    if squeezed && isBlank && state.blank then state
    else
      let chars := line.toList.flatMap fun c =>
        if c = '\t' && tabs then ['^', 'I'] else if odd then visible tabs c else [c]
      let numbered := call.has "b" && !isBlank || call.has "n" && !call.has "b"
      let front := if numbered then atRight 6 (toString state.number) ++ "\t" else ""
      let last := i + 1 = lines.length && !whole
      { text := (front ++ String.ofList chars ++
          (if last then "" else if ends then "$\n" else "\n")) :: state.text
        number := if numbered then state.number + 1 else state.number
        blank := isBlank }) state

/-- The node of the file that is open under a descriptor, if it is a file. -/
def openNode? (p : Process) (descriptor : Nat) : Option Nat :=
  (p.openFile? descriptor).bind fun (_, file) =>
    match p.files.at? file.node with
    | some (.file ..) => some file.node
    | _ => none

def cat (p : Process) : Process :=
  p.withCall ["A,show-all", "b,number-nonblank", "e", "E,show-ends", "n,number",
      "s,squeeze-blank", "t", "T,show-tabs", "u", "v,show-nonprinting"] fun call =>
    let plain := call.options.all (·.1 = "u")
    (((if call.operands.isEmpty then ["-"] else call.operands).foldl
      (fun (p, state) operand =>
        match p.source operand with
        | .error fault => (p.faultAbout operand fault, state)
        | .ok (after, p') => Id.run do
          let node := if operand = "-" then p.openNode? 0 else (p.find operand).toOption
          if after ≠ "" && node.isSome && node = p.openNode? 1 && !(p.openFile? 1).any (·.2.isPipe) then
            (p.fault s!"{operand}: input file is output file", state)
          else if plain then ((p'.print after).flush, state)
          else
            let next := catText call { state with text := [] } after
            ((p'.print (String.join next.text.reverse)).flush, next))
      (p, ({} : Numbering)))).1

/-- Goes through what operands name as `forSources` does, with another message for what cannot be
read, which comes before all that is printed. -/
def forSourcesFirst (p : Process) (message : String → OsFault → String) (operands : List String)
    (use : Process → String → Process) : Process :=
  (if operands.isEmpty then ["-"] else operands).foldl (fun p operand =>
    match p.source operand with
    | .ok (text, p) => use p text
    | .error fault => (p.mutter (message operand fault)).exit 1) p

def tac (p : Process) : Process :=
  p.withCall ["b,before", "r,regex", "s,separator="] fun call =>
    let message (operand : String) (fault : OsFault) : String :=
      if fault = .isADirectory then s!"{operand}: read error: {faultText fault}"
      else s!"failed to open {shown operand} for reading: {faultText fault}"
    p.forSourcesFirst message call.operands fun p text =>
      let lines := linesOf text
      -- A last line without an end is joined to the line that comes behind it then.
      let lines := if text.endsWith "\n" || text = "" then lines.map (· ++ "\n")
        else lines.dropLast.map (· ++ "\n") ++ [lines.getLastD ""]
      p.print (String.join lines.reverse)

def reverseLines (p : Process) : Process :=
  p.withCall ["0,zero"] fun call =>
    let message (operand : String) (fault : OsFault) : String :=
      if fault = .isADirectory then s!"{operand}: {faultText fault}"
      else s!"cannot open {operand}: {faultText fault}"
    p.forSourcesFirst message call.operands fun p text =>
      let lines := (linesOf text).map fun line => String.ofList line.toList.reverse
      p.print (if text.endsWith "\n" || text = "" then unlines lines else "\n".intercalate lines)

def teeOff (p : Process) : Process :=
  p.withCall ["a,append", "i,ignore-interrupts", "p", "output-error?"] fun call =>
    let (p, outputs) := call.operands.foldl (fun ((p, outputs) : Process × List (String × Nat)) path =>
      match p.openPath (if call.has "a" then .appending else .writing) path with
      | .error fault => (p.faultAbout path fault, outputs)
      | .ok (p, place) => (p, outputs ++ [(path, place)])) (p, [])
    match p.readAll 0 with
    | .error fault => p.faultAbout "read error" fault
    | .ok (text, p) =>
      outputs.foldl (fun p (path, place) =>
        match ({ p with descriptors := [(3, place)] }).write 3 text with
        | .ok after => p.adopt after
        | .error fault => p.faultAbout path fault) (p.print text).flush

/-! ## Beginnings and ends -/

/-- A count with a sign in front, and a unit behind it. -/
def signedCount? (text : String) : Option (Option Char × Nat) :=
  match text.toList with
  | '-' :: rest => (sizeOf? (String.ofList rest)).map (some '-', ·)
  | '+' :: rest => (sizeOf? (String.ofList rest)).map (some '+', ·)
  | _ => (sizeOf? text).map (none, ·)

/-- Words in which a count that is an option by itself has been spelt out. -/
def spelledOut (words : List String) : List String :=
  match words with
  | word :: rest =>
    match word.toList with
    | '-' :: c :: more =>
      if c.isDigit then
        let digits := (c :: more).takeWhile Char.isDigit
        let letters := (c :: more).drop digits.length
        (if letters.contains 'c' then "-c" else "-n") :: String.ofList digits :: rest
      else words
    | _ => words
  | [] => []

/-- The heading above the part of a source that is shown. -/
def heading (isFirst : Bool) (name : String) : String :=
  (if isFirst then "" else "\n") ++ s!"==> {name} <==\n"

/-- Why a count cannot be used. -/
def countFault (key text : String) : String :=
  (if key = "c" then "invalid number of bytes: " else "invalid number of lines: ") ++ shown text

/-- Shows a part of each source, with its name above if there are several. -/
def showParts (p : Process) (call : Call) (part : String → String) : Process :=
  let named := call.last? ["q", "v"] = some "v" || (1 < call.operands.length && !call.has "q")
  let operands := if call.operands.isEmpty then ["-"] else call.operands
  (operands.foldl (fun (p, first) operand =>
    match p.source operand with
    | .error .isADirectory =>
      let p := if named then p.print (heading first operand) else p
      (p.faultAbout s!"error reading {shown operand}" .isADirectory, false)
    | .error fault => (p.faultAbout s!"cannot open {shown operand} for reading" fault, first)
    | .ok (text, p) =>
      let name := if operand = "-" then "standard input" else operand
      let p := if named then p.print (heading first name) else p
      (p.print (part text), false)) (p, true)).1

def firstLines (n : Nat) (text : String) : String :=
  let lines := text.splitOn "\n"
  if lines.length ≤ n then text
  else String.join ((lines.take n).map (· ++ "\n"))

def head (p : Process) : Process :=
  { p with words := p.name :: spelledOut p.arguments }.withCall
      ["c,bytes=", "n,lines=", "q,quiet,silent", "v,verbose", "z,zero-terminated"] fun call =>
    let key := (call.last? ["c", "n"]).getD "n"
    let text := (call.value? key).getD "10"
    match signedCount? text with
    | none =>
      p.fault (countFault key text)
    | some (sign, n) =>
      if key = "c" && sign ≠ some '-' && call.operands = ["/dev/zero"] then
        p.print (String.ofList (List.replicate n (Char.ofNat 0)))
      else p.showParts call fun text =>
        if key = "c" then
          (text.take (if sign = some '-' then text.length - n else n)).toString
        else firstLines (if sign = some '-' then (linesOf text).length - n else n) text

def lastLines (n : Nat) (text : String) : String :=
  let lines := linesOf text
  let skipped := (lines.take (lines.length - n)).foldl (fun m line => m + line.length + 1) 0
  (text.drop skipped).toString

def tail (p : Process) : Process :=
  let words := match p.arguments with
    | word :: rest =>
      match word.toList with
      | '+' :: c :: more => if c.isDigit then "-n" :: String.ofList ('+' :: c :: more) :: rest
        else p.arguments
      | _ => spelledOut p.arguments
    | [] => []
  { p with words := p.name :: words }.withCall
      ["c,bytes=", "n,lines=", "q,quiet,silent", "v,verbose", "f,follow?", "F", "s=", "pid=",
        "retry", "z,zero-terminated"] fun call =>
    let key := (call.last? ["c", "n"]).getD "n"
    let text := (call.value? key).getD "10"
    match signedCount? text with
    | none =>
      p.fault (countFault key text)
    | some (sign, n) =>
      p.showParts call fun text =>
        match key, sign with
        | "c", some '+' => (text.drop (n - 1)).toString
        | "c", _ => (text.drop (text.length - n)).toString
        | _, some '+' => lastLines ((linesOf text).length - (n - 1)) text
        | _, _ => lastLines n text

/-! ## Counting -/

def wordCount (text : String) : Nat :=
  (text.toList.foldl (fun (count, inside) c =>
    let blank := c = ' ' || ('\t' ≤ c && c ≤ '\x0d')
    (if !blank && !inside then count + 1 else count, !blank)) (0, false)).1

/-- The greatest length of a line, tabs filled up. -/
def greatestLength (text : String) : Nat :=
  (linesOf text).foldl (fun most line =>
    max most (line.toList.foldl (fun n c => if c = '\t' then (n / 8 + 1) * 8 else n + 1) 0)) 0

/-- The number of characters that octets encode. -/
def characterCount (text : String) : Nat := text.length

def wordCounts (p : Process) : Process :=
  p.withCall ["c,bytes", "m,chars", "l,lines", "w,words", "L,max-line-length", "files0-from=",
      "total="] fun call =>
    let chosen := ["l", "w", "m", "c", "L"].filter call.has
    let chosen := if chosen.isEmpty then ["l", "w", "c"] else chosen
    let operands := if call.operands.isEmpty then ["-"] else call.operands
    let sizeOf (operand : String) : Option Nat :=
      let node := if operand = "-" then (p.openFile? 0).bind fun (_, file) =>
          if file.isPipe then none else p.files.at? file.node
        else p.node? operand
      match node with
      | some (.file content _) => some content.length
      | _ => none
    let missing (operand : String) : Bool := operand ≠ "-" && (p.node? operand).isNone
    let width :=
      if operands.length = 1 && chosen.length = 1 || missing (operands.headD "-") then 1
      else
        let present := operands.filter fun operand => !missing operand
        let total := present.foldl (fun n operand => n + (sizeOf operand).getD 0) 0
        let least := if present.all fun operand => (sizeOf operand).isSome then 1 else 7
        max least (toString total).length
    let counts (text : String) : List Nat := chosen.map fun
      | "l" => text.toList.count '\n'
      | "w" => wordCount text
      | "m" => characterCount text
      | "L" => greatestLength text
      | _ => text.length
    let line (counts : List Nat) (name : String) : String :=
      " ".intercalate (counts.map fun n => atRight width (toString n)) ++
        (if name = "" then "" else s!" {name}") ++ "\n"
    let (p, totals) := operands.foldl (fun (p, totals) operand =>
      match p.source operand with
      | .error fault =>
        let p := p.faultAbout operand fault
        (if fault = .isADirectory then p.print (line (chosen.map fun _ => 0) operand) else p, totals)
      | .ok (text, p) =>
        let counts := counts text
        (p.print (line counts (if call.operands.isEmpty then "" else operand)),
          (totals.zip chosen |>.zip counts).map fun ((a, key), b) =>
            if key = "L" then max a b else a + b)) (p, chosen.map fun _ => 0)
    if 1 < operands.length then p.print (line totals "total") else p

def numberLines (p : Process) : Process :=
  p.withCall ["b,body-numbering=", "d,section-delimiter=", "f,footer-numbering=",
      "h,header-numbering=", "i,line-increment=", "l,join-blank-lines=", "n,number-format=",
      "p,no-renumber", "s,number-separator=", "v,starting-line-number=", "w,number-width="]
    fun call =>
      let style := (call.value? "b").getD "t"
      let width := ((call.value? "w").bind whole?).getD 6
      let separator := (call.value? "s").getD "\t"
      let step := ((call.value? "i").bind whole?).getD 1
      let first := ((call.value? "v").bind whole?).getD 1
      let shown (n : Nat) : String := match call.value? "n" with
        | some "ln" =>
          toString n ++ String.ofList (List.replicate (width - (toString n).length) ' ')
        | some "rz" => String.ofList (List.replicate (width - (toString n).length) '0') ++ toString n
        | _ => atRight width (toString n)
      let operands := if call.operands.isEmpty then ["-"] else call.operands
      (operands.foldl (fun (p, n) operand =>
        match p.source operand with
        | .error fault => (p.faultAbout operand fault, n)
        | .ok (text, p) =>
          let (lines, n) := (linesOf text).foldl (fun (lines, n) line =>
            if style = "a" || (style = "t" && line ≠ "") then
              (s!"{shown n}{separator}{line}" :: lines, n + step)
            else
              ((String.ofList (List.replicate (width + separator.length) ' ') ++ line) :: lines, n))
            ([], n)
          (p.print (unlines lines.reverse), n)) (p, first)).1

/-! ## Cutting and joining -/

/-- Positions from one on: ranges that may be open at their end. -/
abbrev Positions := List (Nat × Option Nat)

/-- Reads ranges of positions; the flag says whether they are those of fields. -/
def positions (fields : Bool) (text : String) : Except String Positions :=
  let number (text : String) : Except String Nat :=
    match whole? text with
    | some 0 => .error (if fields then "fields are numbered from 1"
        else "byte/character positions are numbered from 1")
    | some n => .ok n
    | none =>
      let rest := String.ofList (text.toList.dropWhile Char.isDigit)
      .error ((if fields then "invalid field value " else "invalid byte/character position ") ++
        shown rest)
  (text.splitOn ",").mapM fun part => do
    match part.splitOn "-" with
    | [""] => throw (if fields then "fields are numbered from 1"
        else "byte/character positions are numbered from 1")
    | [n] =>
      let n ← number n
      return (n, some n)
    | ["", ""] => throw "invalid range with no endpoint: -"
    | ["", last] => return (1, some (← number last))
    | [first, ""] => return (← number first, none)
    | [first, last] =>
      let first ← number first
      let last ← number last
      if last < first then throw "invalid decreasing range" else return (first, some last)
    | _ => throw (if fields then "invalid field range" else "invalid byte or character range")

def Positions.has (positions : Positions) (n : Nat) : Bool :=
  List.any positions fun (first, last) => first ≤ n && last.all fun last => n ≤ last

def cut (p : Process) : Process :=
  p.withCall ["b,bytes=", "c,characters=", "d,delimiter=", "f,fields=", "n", "complement",
      "s,only-delimited", "output-delimiter=", "z,zero-terminated"] fun call =>
    let kinds := ["b", "c", "f"].filter call.has
    match kinds with
    | [] => p.misuse "you must specify a list of bytes, characters, or fields"
    | _ :: _ :: _ => p.misuse "only one type of list may be specified"
    | [kind] =>
      let delimiter := (call.value? "d").getD "\t"
      if 1 < delimiter.length then p.misuse "the delimiter must be a single character"
      else if kind ≠ "f" && call.has "d" then
        p.misuse "an input delimiter may be specified only when operating on fields"
      else if kind ≠ "f" && call.has "s" then
        p.misuse "suppressing non-delimited lines makes sense\n\tonly when operating on fields"
      else match positions (kind = "f") ((call.value? kind).getD "") with
        | .error message => p.misuse message
        | .ok positions =>
          let wanted (i : Nat) : Bool := positions.has (i + 1) != call.has "complement"
          let between := (call.value? "output-delimiter").getD (if kind = "f" then delimiter else "")
          p.forSources call.operands fun p _ text =>
            p.print (String.join ((linesOf text).filterMap fun line =>
              if kind = "f" then
                let delimiter := if delimiter = "" then "\x00" else delimiter
                let fields := line.splitOn delimiter
                if fields.length = 1 then if call.has "s" then none else some (line ++ "\n")
                else
                  let kept := fields.zipIdx.filter fun (_, i) => wanted i
                  some (between.intercalate (kept.map Prod.fst) ++ "\n")
              else
                let kept := line.toList.zipIdx.filter fun (_, i) => wanted i
                some (String.ofList (kept.map Prod.fst) ++ "\n")))

def paste (p : Process) : Process :=
  p.withCall ["d,delimiters=", "s,serial", "z,zero-terminated"] fun call =>
    let delimiters := ((call.value? "d").getD "\t").replace "\\n" "\n" |>.replace "\\t" "\t"
      |>.replace "\\0" "\x00"
    let chars := if delimiters = "" then [Char.ofNat 0] else delimiters.toList
    let delimiter (i : Nat) : String :=
      let c := chars.getD (i % chars.length) '\t'
      if c = Char.ofNat 0 then "" else String.ofList [c]
    let joined (texts : List String) : String :=
      String.join (texts.zipIdx.map fun (text, i) =>
        if i + 1 = texts.length then text else text ++ delimiter i)
    let operands := if call.operands.isEmpty then ["-"] else call.operands
    let read := operands.foldl (fun (found : Option (List (List String)) × Process) operand =>
      match found with
      | (none, p) => (none, p)
      | (some sources, p) =>
        match p.source operand with
        | .error fault => (none, p.faultAbout operand fault)
        | .ok (text, p) => (some (sources ++ [linesOf text]), p)) (some [], p)
    match read with
    | (none, p) => p
    | (some sources, p) =>
      if call.has "s" then p.print (unlines (sources.map joined))
      else
        -- The input is read one line at a time by all operands that mean it.
        let shared := operands.count "-"
        let sources := if shared ≤ 1 then sources
          else
            let lines := (sources.zip operands).findSome? fun (lines, operand) =>
              if operand = "-" then some lines else none
            (operands.zipIdx.foldl (fun (done, k) (operand, i) =>
              if operand = "-" then
                (done ++ [((lines.getD []).zipIdx.filter fun (_, j) => j % shared = k).map Prod.fst],
                  k + 1)
              else (done ++ [sources.getD i []], k)) (([] : List (List String)), 0)).1
        let count := sources.foldl (fun n lines => max n lines.length) 0
        p.print (unlines ((List.range count).map fun i =>
          joined (sources.map fun lines => lines.getD i "")))

/-- The column behind a character. -/
def columnBehind (octets : Bool) (column : Nat) (c : Char) : Nat :=
  if octets then column + 1
  else if c = '\x08' then column - 1
  else if c = '\r' then 0
  else if c = '\t' then column + 8 - column % 8
  else column + 1

/-- Breaks a line into pieces of a width; what is held of the next piece is in reverse. -/
def broken (octets atBlanks : Bool) (width : Nat) : (held : List Char) → (column : Nat) →
    List Char → List String
  | held, _, [] => [String.ofList held.reverse]
  | held, column, c :: rest =>
    let next := columnBehind octets column c
    if next ≤ width || held.isEmpty then broken octets atBlanks width (c :: held) next rest
    else
      let isBlank (c : Char) : Bool := c = ' ' || c = '\t'
      let behind := if atBlanks then held.takeWhile fun c => !isBlank c else []
      let behind := if behind.length = held.length then [] else behind
      let column := behind.reverse.foldl (columnBehind octets) 0
      let front := String.ofList (held.drop behind.length).reverse
      front :: broken octets atBlanks width (c :: behind) (columnBehind octets column c) rest

def fold (p : Process) : Process :=
  p.withCall ["b,bytes", "s,spaces", "w,width="] fun call =>
    let width := ((call.value? "w").bind whole?).getD 80
    if (call.value? "w").any fun text => whole? text = none || whole? text = some 0 then
      p.fault ("invalid number of columns: " ++ shown ((call.value? "w").getD "") ++
        if width = 0 then ": Numerical result out of range" else "")
    else
      p.forSources call.operands fun p _ text =>
        let pieces := (linesOf text).flatMap fun line =>
          broken (call.has "b") (call.has "s") width [] 0 line.toList
        p.print (if text = "" then "" else if text.endsWith "\n" then unlines pieces
          else "\n".intercalate pieces)

/-! ## Sorting and comparing lines -/

structure SortOrder where
  numeric : Bool := false
  folded : Bool := false
  reversed : Bool := false
  blanks : Bool := false
  dictionary : Bool := false
  sized : Bool := false
  version : Bool := false
  deriving DecidableEq

namespace SortOrder

def ofLetters (letters : List Char) : SortOrder where
  numeric := letters.contains 'n' || letters.contains 'g'
  folded := letters.contains 'f'
  reversed := letters.contains 'r'
  blanks := letters.contains 'b'
  dictionary := letters.contains 'd'
  sized := letters.contains 'h'
  version := letters.contains 'V'

/-- A number at the beginning of a text, in units of a thousand-millionth. -/
def number (text : List Char) : Int :=
  let text := text.dropWhile fun c => c = ' ' || c = '\t'
  let negative := text.head? = some '-'
  let text := if negative then text.drop 1 else text
  let whole := text.takeWhile Char.isDigit
  let fraction := match text.drop whole.length with
    | '.' :: rest => rest.takeWhile Char.isDigit
    | _ => []
  let digits := whole ++ (fraction ++ List.replicate 9 '0').take 9
  let n : Int := Nat.ofDigitChars 10 digits 0
  if negative then -n else n

/-- A number with a letter for a power of 1024 behind it. -/
def sizedNumber (text : List Char) : Int × Int :=
  let trimmed := text.dropWhile fun c => c = ' ' || c = '\t' || c = '-'
  let unit := (trimmed.dropWhile fun c => c.isDigit || c = '.').head?
  let power : Int := match unit with
    | some 'K' | some 'k' => 1
    | some 'M' => 2
    | some 'G' => 3
    | some 'T' => 4
    | _ => 0
  let n := number text
  (if n < 0 then -power else power, n)

/-- Compares texts by their characters. -/
def compareChars : List Char → List Char → Ordering
  | [], [] => .eq
  | [], _ => .lt
  | _, [] => .gt
  | a :: as, b :: bs => if a < b then .lt else if b < a then .gt else compareChars as bs

/-- Compares texts in which numbers count as such. -/
def compareVersions : (fuel : Nat) → List Char → List Char → Ordering
  | 0, a, b => compareChars a b
  | fuel + 1, a, b =>
    let wordA := a.takeWhile (!·.isDigit)
    let wordB := b.takeWhile (!·.isDigit)
    match compareChars wordA wordB with
    | .eq =>
      let digitsA := (a.drop wordA.length).takeWhile Char.isDigit
      let digitsB := (b.drop wordB.length).takeWhile Char.isDigit
      if digitsA.isEmpty && digitsB.isEmpty then .eq
      else match compare (Nat.ofDigitChars 10 digitsA 0) (Nat.ofDigitChars 10 digitsB 0) with
        | .eq => compareVersions fuel (a.drop (wordA.length + digitsA.length))
          (b.drop (wordB.length + digitsB.length))
        | order => order
    | order => order

def compareKeys (order : SortOrder) (a b : List Char) : Ordering :=
  let prepared (text : List Char) : List Char :=
    let text := if order.blanks then text.dropWhile fun c => c = ' ' || c = '\t' else text
    let text := if order.dictionary then
        text.filter fun c => c.isAlphanum || c = ' ' || c = '\t'
      else text
    if order.folded then text.map Char.toUpper else text
  let result :=
    if order.numeric then compare (number a) (number b)
    else if order.sized then
      let (powerA, numberA) := sizedNumber a
      let (powerB, numberB) := sizedNumber b
      (compare powerA powerB).then (compare numberA numberB)
    else if order.version then compareVersions (a.length + b.length) (prepared a) (prepared b)
    else compareChars (prepared a) (prepared b)
  if order.reversed then result.swap else result

end SortOrder

/-- A key: where it begins and ends in a line, and how it is compared. -/
structure SortKey where
  firstField : Nat
  firstChar : Nat
  lastField : Option Nat
  lastChar : Nat
  order : Option SortOrder

namespace SortKey

/-- Reads a position: a field, a character and letters. -/
def position? (text : List Char) : Option (Nat × Nat × List Char) :=
  let field := text.takeWhile Char.isDigit
  let behind := text.drop field.length
  let (char, letters) := match behind with
    | '.' :: rest => (rest.takeWhile Char.isDigit, rest.dropWhile Char.isDigit)
    | _ => (['0'], behind)
  if field.isEmpty || Nat.ofDigitChars 10 field 0 = 0 ||
      !letters.all fun c => "bdfgiMhnRrV".toList.contains c then none
  else some (Nat.ofDigitChars 10 field 0, Nat.ofDigitChars 10 char 0, letters)

def ofText? (text : String) : Option SortKey := do
  let parts := text.splitOn ","
  let (firstField, firstChar, letters) ← position? (parts.headD "").toList
  match parts with
  | [_] =>
    return ⟨firstField, firstChar, none, 0,
      if letters.isEmpty then none else some (.ofLetters letters)⟩
  | [_, last] =>
    let (lastField, lastChar, more) ← position? last.toList
    let letters := letters ++ more
    return ⟨firstField, firstChar, some lastField, lastChar,
      if letters.isEmpty then none else some (.ofLetters letters)⟩
  | _ => none

/-- The fields of a line: between separators, or each with the blanks before it. -/
def fields (separator : Option Char) (line : List Char) : List (List Char) :=
  match separator with
  | some c => line.splitOn c
  | none =>
    let isBlank (c : Char) : Bool := c = ' ' || c = '\t'
    let rec go (fuel : Nat) (line : List Char) : List (List Char) :=
      match fuel with
      | 0 => [line]
      | fuel + 1 =>
        let blanks := line.takeWhile isBlank
        let word := (line.drop blanks.length).takeWhile (!isBlank ·)
        let rest := line.drop (blanks.length + word.length)
        if rest.isEmpty then [line] else (blanks ++ word) :: go fuel rest
    go line.length line

/-- The part of a line that the key is. -/
def part (key : SortKey) (separator : Option Char) (line : List Char) : List Char :=
  let fields := fields separator line
  let width := if separator.isSome then 1 else 0
  let startOf (n : Nat) : Nat :=
    ((fields.take (n - 1)).foldl (fun m field => m + field.length + width) 0)
  let first := startOf key.firstField + (key.firstChar - 1)
  match key.lastField with
  | none => line.drop first
  | some last =>
    let stop := if key.lastChar = 0 then startOf last + (fields.getD (last - 1) []).length
      else startOf last + key.lastChar
    (line.take stop).drop first

end SortKey

/-- Takes lists of lines together by taking the least of their first lines again and again. -/
def mergedLines (inOrder : String → String → Bool) : (fuel : Nat) → List (List String) →
    List String
  | 0, _ => []
  | fuel + 1, parts =>
    let least := parts.foldl (fun (least : Option String) part =>
      match least, part with
      | some found, line :: _ => if inOrder found line then some found else some line
      | none, line :: _ => some line
      | least, [] => least) none
    match least with
    | none => []
    | some line =>
      let place := (parts.findIdx? fun part => part.head? = some line).getD 0
      line :: mergedLines inOrder fuel (parts.modify place (·.drop 1))

def sort (p : Process) : Process :=
  p.withCall ["b,ignore-leading-blanks", "d,dictionary-order", "f,ignore-case",
      "g,general-numeric-sort", "i,ignore-nonprinting", "M,month-sort", "h,human-numeric-sort",
      "n,numeric-sort", "R,random-sort", "random-source=", "r,reverse", "sort=", "V,version-sort",
      "batch-size=", "c,check?", "C", "compress-program=", "debug", "files0-from=", "k,key=",
      "m,merge", "o,output=", "s,stable", "S,buffer-size=", "t,field-separator=",
      "T,temporary-directory=", "parallel=", "u,unique", "z,zero-terminated"] (fun call =>
    let letters := ["b", "d", "f", "g", "h", "n", "r", "V"].filter call.has
      |>.flatMap String.toList
    let overall := SortOrder.ofLetters letters
    let separator := (call.value? "t").bind fun text =>
      if text = "\\0" then some (Char.ofNat 0) else text.toList.head?
    match (call.values "k").mapM SortKey.ofText? with
    | none => p.fault "invalid key" 2
    | some keys =>
      let compareByKeys (a b : String) : Ordering :=
        if keys.isEmpty then
          overall.compareKeys a.toList b.toList
        else keys.foldl (fun order key =>
          order.then ((key.order.getD overall).compareKeys (key.part separator a.toList)
            (key.part separator b.toList))) .eq
      let whole (a b : String) : Ordering :=
        if call.has "s" || call.has "u" then .eq
        else
          let order := SortOrder.compareChars a.toList b.toList
          if overall.reversed then order.swap else order
      let compareLines (a b : String) : Ordering := (compareByKeys a b).then (whole a b)
      let operands := if call.operands.isEmpty then ["-"] else call.operands
      let read := operands.foldl (fun (found : Option (List (List String)) × Process) operand =>
        match found with
        | (none, p) => (none, p)
        | (some parts, p) =>
          match p.source operand with
          | .error .isADirectory => (none, p.fault s!"read failed: {operand}: Is a directory" 2)
          | .error fault =>
            (none, p.fault s!"cannot read: {operand}: {faultText fault}" 2)
          | .ok (text, p) => (some (parts ++ [linesOf text]), p)) (some [], p)
      match read with
      | (none, p) => p
      | (some parts, p) =>
        let lines := parts.flatten
        if call.has "c" || call.has "C" then
          let wrong (a b : String) : Bool :=
            if call.has "u" then compareByKeys a b ≠ .lt else compareLines a b = .gt
          match (lines.zip (lines.drop 1)).findIdx? fun (a, b) => wrong a b with
          | none => p
          | some i =>
            if call.has "C" then p.exit 1
            else p.fault (operands.headD "-" ++ s!":{i + 2}: disorder: " ++ lines.getD (i + 1) "")
        else
          let inOrder (a b : String) : Bool := compareLines a b ≠ .gt
          let sorted := if call.has "m" then mergedLines inOrder (lines.length + 1) parts
            else lines.mergeSort inOrder
          let unique := if call.has "u" then
              (sorted.foldl (fun (kept : List String) line =>
                match kept with
                | last :: _ => if compareByKeys last line = .eq then kept else line :: kept
                | [] => [line]) []).reverse
            else sorted
          match call.value? "o" with
          | none => p.print (unlines unique)
          | some path =>
            match p.openPath .writing path with
            | .error fault => p.fault s!"open failed: {path}: {faultText fault}" 2
            | .ok (opened, place) =>
              match ({ opened with descriptors := [(3, place)] }).write 3 (unlines unique) with
              | .ok after => opened.adopt after
              | .error fault => opened.fault s!"write failed: {path}: {faultText fault}" 2)
    true 2

def unique (p : Process) : Process :=
  p.withCall ["c,count", "d,repeated", "D", "all-repeated?", "f,skip-fields=", "group?",
      "i,ignore-case", "s,skip-chars=", "u,unique", "w,check-chars=", "z,zero-terminated"] fun call =>
    match call.operands with
    | _ :: _ :: extra :: _ => p.misuse s!"extra operand {shown extra}"
    | operands =>
      let key (line : String) : String :=
        let isBlank (c : Char) : Bool := c = ' ' || c = '\t'
        let skipped := ((call.value? "f").bind whole?).getD 0
        let chars := (List.range skipped).foldl (fun chars _ =>
          (chars.dropWhile isBlank).dropWhile (!isBlank ·)) line.toList
        let chars := chars.drop (((call.value? "s").bind whole?).getD 0)
        let chars := match (call.value? "w").bind whole? with
          | some n => chars.take n
          | none => chars
        String.ofList (if call.has "i" then chars.map Char.toLower else chars)
      match p.source (operands.headD "-") with
      | .error fault => p.faultAbout (operands.headD "-") fault
      | .ok (text, p) =>
        let groups := (linesOf text).foldl (fun (groups : List (List String)) line =>
          match groups with
          | (last :: more) :: rest =>
            if key last = key line then (line :: last :: more) :: rest else [line] :: groups
          | _ => [line] :: groups) []
        let lines := groups.reverse.flatMap fun group =>
          let line := group.getLastD ""
          if call.has "D" then if 1 < group.length then group.reverse else []
          else if call.has "d" && group.length = 1 then []
          else if call.has "u" && 1 < group.length then []
          else if call.has "c" then [s!"{atRight 7 (toString group.length)} {line}"]
          else [line]
        match operands.drop 1 with
        | [] => p.print (unlines lines)
        | path :: _ =>
          if path = "-" then p.print (unlines lines)
          else match p.openPath .writing path with
            | .error fault => p.faultAbout path fault
            | .ok (opened, place) =>
              match ({ opened with descriptors := [(3, place)] }).write 3 (unlines lines) with
              | .ok after => opened.adopt after
              | .error fault => opened.faultAbout path fault

/-- Two sorted lists of lines that are gone through together. -/
structure Merge where
  process : Process
  /-- Shows a line of the first list, of the second one or of both. -/
  rendered : Nat → String → String
  /-- Whether lines have to be in order: always, or only once a line was without a partner. -/
  strict : Option Bool := some false
  unpaired : Bool := false
  /-- The lists that have been reported as not in order. -/
  disordered : List Nat := []
  /-- The line of each list before the one that is looked at. -/
  before : List (Nat × String) := []
  /-- How many lines have been in the first list only, in the second one only, and in both. -/
  counts : List Nat := [0, 0, 0]

namespace Merge

/-- Looks at the order of a line and the one behind it; at the end of a list, at the order of its
last two lines. Whether to go on. -/
def check (m : Merge) (which : Nat) (line : String) (rest : List String) : Bool × Merge :=
  let (earlier, later) := match rest, m.before.lookup which with
    | next :: _, _ => (line, next)
    | [], some before => (before, line)
    | [], none => (line, line)
  let m := { m with before := (which, line) :: m.before.filter (·.1 ≠ which) }
  match m.strict with
  | some strict =>
    if (strict || m.unpaired) && !m.disordered.contains which && later < earlier then
      let p := m.process.fault s!"file {which} is not in sorted order"
      (!strict, { m with process := p, disordered := which :: m.disordered })
    else (true, m)
  | none => (true, m)

def put (m : Merge) (column : Nat) (line : String) : Merge :=
  { m with
    process := m.process.print (m.rendered column line)
    unpaired := m.unpaired || column ≠ 3
    counts := m.counts.set (column - 1) (m.counts.getD (column - 1) 0 + 1) }

def run : (fuel : Nat) → Merge → List String → List String → Merge
  | 0, m, _, _ => m
  | _, m, [], [] => m
  | fuel + 1, m, a :: as, [] =>
    let (goOn, m) := (m.put 1 a).check 1 a as
    if goOn then run fuel m as [] else m
  | fuel + 1, m, [], b :: bs =>
    let (goOn, m) := (m.put 2 b).check 2 b bs
    if goOn then run fuel m [] bs else m
  | fuel + 1, m, a :: as, b :: bs =>
    let column := if a = b then 3 else if a < b then 1 else 2
    let m := m.put column (if column = 2 then b else a)
    let (goOn, m) := if column = 2 then (true, m) else m.check 1 a as
    let (goOn', m) := if column = 1 || !goOn then (true, m) else m.check 2 b bs
    if goOn && goOn' then
      run fuel m (if column = 2 then a :: as else as) (if column = 1 then b :: bs else bs)
    else m

end Merge

def common (p : Process) : Process :=
  p.withCall ["1", "2", "3", "check-order", "nocheck-order", "output-delimiter=", "total",
      "z,zero-terminated"] fun call =>
    match call.operands with
    | [first, second] =>
      match p.source first with
      | .error fault => p.faultAbout first fault
      | .ok (a, p) =>
        match p.source second with
        | .error fault => p.faultAbout second fault
        | .ok (b, p) =>
          let mark := if call.has "z" then String.ofList [Loaded.nul] else "\n"
          let pieces (text : String) : List String :=
            match (text.splitOn mark).reverse with
            | "" :: rest => rest.reverse
            | pieces => pieces.reverse
          let as := pieces a
          let bs := pieces b
          let columns := [1, 2, 3].filter fun n => !call.has (toString n)
          let delimiter := (call.value? "output-delimiter").getD "\t"
          let m : Merge := {
            process := p
            rendered column line :=
              if columns.contains column then
                let before := (columns.takeWhile (· ≠ column)).length
                String.join (List.replicate before delimiter) ++ line ++ mark
              else ""
            strict := (call.last? ["check-order", "nocheck-order"]).elim (some false) fun key =>
              if key = "check-order" then some true else none }
          let m := Merge.run (as.length + bs.length + 1) m as bs
          let stopped := m.strict = some true && m.process.status ≠ 0
          let p := if call.has "total" && !stopped then
              m.process.print (delimiter.intercalate (m.counts.map toString ++ ["total"]) ++ mark)
            else m.process
          if m.disordered.isEmpty || stopped then p else p.fault "input is not in sorted order"
    | [] => p.misuse "missing operand"
    | [first] => p.misuse s!"missing operand after {shown first}"
    | _ :: _ :: extra :: _ => p.misuse s!"extra operand {shown extra}"

/-! ## Translating characters -/

/-- A part of a set of characters. -/
inductive CharPart where
  | chars (chars : List Char)
  /-- A character so many times; without a number, as often as there is room. -/
  | times (c : Char) (count : Option Nat)
  deriving DecidableEq

/-- Reads a character of a set, which may be escaped. -/
def setChar (chars : List Char) : Option (Char × List Char) :=
  match chars with
  | [] => none
  | '\\' :: c :: rest =>
    let digits := ((c :: rest).take 3).takeWhile fun c => '0' ≤ c && c ≤ '7'
    if !digits.isEmpty then
      some (Char.ofNat (Nat.ofDigitChars 8 digits 0 % 256), (c :: rest).drop digits.length)
    else
      some (match c with
        | 'a' => '\x07' | 'b' => '\x08' | 'f' => '\x0c' | 'n' => '\n' | 'r' => '\r'
        | 't' => '\t' | 'v' => '\x0b' | c => c, rest)
  | c :: rest => some (c, rest)

def charParts : (fuel : Nat) → List Char → Except String (List CharPart)
  | 0, _ | _, [] => .ok []
  | fuel + 1, '[' :: ':' :: rest => do
    let name := rest.takeWhile (· ≠ ':')
    match rest.drop name.length with
    | ':' :: ']' :: behind =>
      match AsciiClass.ofName? (String.ofList name) with
      | some kind =>
        let chars := ((List.range 256).map Char.ofNat).filter fun c =>
          kind.ranges.any fun (first, last) => first ≤ c.toNat && c.toNat ≤ last
        return .chars chars :: (← charParts fuel behind)
      | none => throw s!"invalid character class '{String.ofList name}'"
    | _ => return .chars ['['] :: (← charParts fuel (':' :: rest))
  | fuel + 1, '[' :: '=' :: c :: '=' :: ']' :: rest => do
    return .chars [c] :: (← charParts fuel rest)
  | fuel + 1, chars => do
    let repeated : Option (CharPart × List Char) := match chars with
      | '[' :: rest =>
        (setChar rest).bind fun (c, behind) =>
          match behind with
          | '*' :: rest =>
            let digits := rest.takeWhile Char.isDigit
            match rest.drop digits.length with
            | ']' :: behind =>
              let base := if digits.head? = some '0' then 8 else 10
              let n := Nat.ofDigitChars base digits 0
              some (.times c (if n = 0 then none else some n), behind)
            | _ => none
          | _ => none
      | _ => none
    match repeated with
    | some (part, behind) => return part :: (← charParts fuel behind)
    | none =>
      match setChar chars with
      | none => return []
      | some (first, '-' :: behind) =>
        match setChar behind with
        | some (last, rest) =>
          if last < first then
            throw s!"range-endpoints of '{first}-{last}' are in reverse collating sequence order"
          else
            let chars := (List.range (last.toNat - first.toNat + 1)).map fun n =>
              Char.ofNat (first.toNat + n)
            return .chars chars :: (← charParts fuel rest)
        | none => return .chars [first] :: (← charParts fuel ['-'])
      | some (c, rest) => return .chars [c] :: (← charParts fuel rest)

/-- The characters of a set, of which one part may fill up what is missing to a count. -/
def charsOf (count : Nat) (parts : List CharPart) : List Char :=
  let fixed := parts.foldl (fun n part => n + match part with
    | .chars chars => chars.length
    | .times _ k => k.getD 0) 0
  parts.flatMap fun
    | .chars chars => chars
    | .times c k => List.replicate (k.getD (count - fixed)) c

/-- Takes away repetitions of characters that pass a test. -/
def squeezed (test : Char → Bool) : List Char → List Char
  | a :: b :: rest =>
    if a = b && test a then squeezed test (b :: rest) else a :: squeezed test (b :: rest)
  | chars => chars

def translate (p : Process) : Process :=
  p.withCall ["c,C,complement", "d,delete", "s,squeeze-repeats", "t,truncate-set1"] (fun call =>
      let deleting := call.has "d"
      let squeezing := call.has "s"
      let most := if deleting && !squeezing then 1 else 2
      let least := if deleting == squeezing then 2 else 1
      let least := if deleting && !squeezing then 1 else if squeezing && !deleting then 1 else least
      match call.operands with
      | [] => p.misuse "missing operand"
      | operands =>
        if operands.length < least then
          p.misuse ("missing operand after " ++ shown (operands.headD "") ++
            (if deleting then "\nTwo strings must be given when both deleting and squeezing repeats."
              else "\nTwo strings must be given when translating."))
        else if most < operands.length then
          p.misuse ("extra operand " ++ shown (operands.getD most "") ++
            (if deleting && !squeezing && operands.length = 2 then
              "\nOnly one string may be given when deleting without squeezing repeats." else ""))
        else
          let sets := operands.mapM fun text => charParts (text.length + 1) text.toList
          match sets with
          | .error message => p.fault message
          | .ok sets =>
            let first := charsOf 0 (sets.headD [])
            let source := if call.has "c" then
                ((List.range 256).map Char.ofNat).filter (!first.contains ·)
              else first
            let targets := (sets.drop 1).head?.map (charsOf source.length)
            match p.readAll 0 with
            | .error fault => p.faultAbout "read error" fault
            | .ok (text, p) =>
              let chars := text.toList
              let result := match deleting, targets with
                | true, some targets => squeezed targets.contains (chars.filter (!source.contains ·))
                | true, none => chars.filter (!source.contains ·)
                | false, none => squeezed source.contains chars
                | false, some targets =>
                  let source := if call.has "t" then source.take targets.length else source
                  let missing := source.length - targets.length
                  let full := targets ++ List.replicate missing (targets.getLastD ' ')
                  let table := (source.zip full).reverse
                  let mapped := chars.map fun c => (table.lookup c).getD c
                  if squeezing then squeezed targets.contains mapped else mapped
              p.print (String.ofList result)) false

end Process

end ColdBuild
