import ColdBuild.Machine.Utility.Dumping

/-!
# Utilities for pieces of files

One copies blocks of octets from some place to another one, one cuts a file into files.
-/

namespace ColdBuild

structure BlockCopy where
  input : Option String := none
  output : Option String := none
  readSize : Nat := 512
  writeSize : Nat := 512
  /-- How many blocks are copied at most. -/
  count : Option Nat := none
  /-- How many blocks of the input are left out. -/
  skip : Nat := 0
  /-- How many blocks of the output are left as they are. -/
  seek : Nat := 0
  conversions : List String := []
  flags : List String := []
  status : String := ""

namespace BlockCopy

/-- A number of octets, which may be a product. -/
def number? (text : String) : Option Nat :=
  (text.splitOn "x").foldl (fun n part => do
    let part := match part.toList.reverse with
      | 'c' :: rest => Process.sizeOf? (String.ofList rest.reverse)
      | 'w' :: rest => (Process.sizeOf? (String.ofList rest.reverse)).map (· * 2)
      | 'B' :: rest => (Process.sizeOf? part) <|> (Process.sizeOf? (String.ofList rest.reverse))
      | _ => Process.sizeOf? part
    return (← n) * (← part)) (some 1)

def conversionNames : List String :=
  ["ascii", "ebcdic", "ibm", "block", "unblock", "lcase", "ucase", "sparse", "swab", "sync", "excl",
    "nocreat", "notrunc", "noerror", "fdatasync", "fsync"]

def withOperand (c : BlockCopy) (word : String) : Except String BlockCopy :=
  let unknown := s!"unrecognized operand {Process.shown word}\nTry 'dd --help' for more information."
  match word.splitOn "=" with
  | key :: first :: more =>
    let value := "=".intercalate (first :: more)
    let number (positive : Bool) (use : Nat → BlockCopy) : Except String BlockCopy :=
      match number? value with
      | some n =>
        if n = 0 && positive then .error s!"invalid number: {Process.shown value}" else .ok (use n)
      | none => .error s!"invalid number: {Process.shown value}"
    match key with
    | "if" => .ok { c with input := some value }
    | "of" => .ok { c with output := some value }
    | "bs" => number true fun n => { c with readSize := n, writeSize := n }
    | "ibs" => number true fun n => { c with readSize := n }
    | "obs" => number true fun n => { c with writeSize := n }
    | "cbs" => number true fun _ => c
    | "count" => number false fun n => { c with count := some n }
    | "skip" | "iseek" => number false fun n => { c with skip := n }
    | "seek" | "oseek" => number false fun n => { c with seek := n }
    | "status" => .ok { c with status := value }
    | "iflag" | "oflag" =>
      .ok { c with flags := c.flags ++ (value.splitOn ",").map fun flag => s!"{key}={flag}" }
    | "conv" =>
      match (value.splitOn ",").find? fun name => !conversionNames.contains name with
      | some name =>
        .error s!"invalid conversion: {Process.shown name}\nTry 'dd --help' for more information."
      | none => .ok { c with conversions := c.conversions ++ value.splitOn "," }
    | _ => .error unknown
  | _ => .error unknown

/-- Every two octets, the other way round. -/
def swapped : List Char → List Char
  | a :: b :: rest => b :: a :: swapped rest
  | rest => rest

/-- What is written of what has been read. -/
def converted (c : BlockCopy) (text : String) : String :=
  let has (name : String) : Bool := c.conversions.contains name
  let missing := (c.readSize - text.length % c.readSize) % c.readSize
  let text := if has "sync" then text ++ String.ofList (List.replicate missing Loaded.nul) else text
  let chars := if has "swab" then swapped text.toList else text.toList
  String.ofList (if has "ucase" then chars.map Char.toUpper
    else if has "lcase" then chars.map Char.toLower else chars)

/-- Opens the output: the place among the open files, and the place in it. -/
def openOutput (c : BlockCopy) (p : Process) (path : String) : Except OsFault (Process × Nat) := do
  let isThere := (p.node? path).isSome
  if c.conversions.contains "excl" && isThere then throw .fileExists
  else if c.conversions.contains "nocreat" && !isThere then throw .noSuchFile
  else
    let start := c.seek * c.writeSize
    let kept := c.conversions.contains "notrunc"
    let appended := c.flags.contains "oflag=append"
    let mode : OpenMode := if appended && kept then .appending
      else if kept || start ≠ 0 then .both else .writing
    let (p, place) ← p.openPath mode path
    match (p.system.opened[place]?).bind fun file => (p.files.at? file.node).map (file, ·) with
    | some (file, .file content mode) =>
      let zeros := String.ofList (List.replicate (start - content.length) Loaded.nul)
      let content := if kept then content else (content.take start).toString ++ zeros
      return ((p.withFiles (p.files.set file.node (.file content mode))).setOpen place
        { file with offset := start }, place)
    | _ => return (p, place)

/-- How many whole and partial blocks some octets are. -/
def records (length size : Nat) : String :=
  toString (length / size) ++ "+" ++ (if length % size = 0 then "0" else "1")

def run (c : BlockCopy) (p : Process) : Process :=
  let opened : Except OsFault (Process × Option Nat) := match c.input with
    | none => .ok (p, p.descriptors.lookup 0)
    | some path => (p.openPath .reading path).map fun (p, place) => (p, some place)
  match opened with
  | .error fault => p.faultAbout ("failed to open " ++ Process.shown (c.input.getD "")) fault
  | .ok (p, source) =>
    let outputs : Except OsFault (Process × Option Nat) := match c.output with
      | none => .ok (p, p.descriptors.lookup 1)
      | some path => (c.openOutput p path).map fun (p, place) => (p, some place)
    match outputs with
    | .error fault => p.faultAbout ("failed to open " ++ Process.shown (c.output.getD "")) fault
    | .ok (p, goal) =>
      let descriptors := p.descriptors
      let under (place : Option Nat) (p : Process) : Process :=
        { p with descriptors := (place.map fun place => (9, place)).toList ++ descriptors }
      let given := (c.input.map Process.shown).getD "'standard input'"
      let most := c.count.map (· * c.readSize)
      let skipped := c.skip * c.readSize
      let read : Except OsFault (String × Process) :=
        match (under source p).readSome 9 (if (under source p).givesZeros 9 then 0 else skipped) with
        | .error fault => .error fault
        | .ok (_, p) => match most with
          | some most => p.readSome 9 most
          | none => if p.givesZeros 9 then p.readSome 9 (1 <<< 20) else p.readAll 9
      let ending (p : Process) (text written : String) : Process :=
        if c.status = "none" then p
        else
          let p := p.complain (s!"{records text.length c.readSize} records in\n" ++
            s!"{records written.length c.writeSize} records out\n")
          if c.status = "noxfer" then p
          else p.complain (s!"{written.length} bytes copied, 0.0001 s, " ++
            s!"{written.length / 100}.0 MB/s\n")
      match read with
      | .error fault => ending (p.faultAbout s!"error reading {given}" fault) "" ""
      | .ok (text, after) =>
        let left := match (under source p).unread 9 with
          | .ok (_, _, text) => text.length
          | .error _ => skipped
        let isShort := left < skipped && !(under source p).givesZeros 9
        let p := p.adopt after
        let p := if isShort && c.status ≠ "none" then
            p.report s!"{given}: cannot skip to specified offset"
          else p
        let written := c.converted text
        match (under goal p).write 9 written with
        | .ok after => ending (p.adopt after) text written
        | .error fault =>
          let about := (c.output.map Process.shown).getD "'standard output'"
          ending (p.faultAbout s!"error writing {about}" fault) text ""

end BlockCopy

namespace Process

def copyBlocks (p : Process) : Process :=
  p.withCall [] fun call =>
    let read := call.operands.foldl (fun (c : Except String BlockCopy) word =>
      c.bind fun c => c.withOperand word) (.ok {})
    match read with
    | .error message => p.fault message
    | .ok c => c.run p

/-! ## Cutting a file into files -/

def pieceName (digits : List Char) : (length : Nat) → Nat → List Char
  | 0, _ => []
  | length + 1, n =>
    pieceName digits length (n / digits.length) ++ [digits.getD (n % digits.length) 'a']

def splitFile (p : Process) : Process :=
  p.withCall ["a,suffix-length=", "additional-suffix=", "b,bytes=", "C,line-bytes=", "d",
      "numeric-suffixes?", "x", "hex-suffixes?", "e,elide-empty-files", "l,lines=", "n,number=",
      "t,separator=", "u,unbuffered", "verbose"] fun call =>
    match call.operands with
    | _ :: _ :: extra :: _ => p.misuse s!"extra operand {shown extra}"
    | operands =>
      let operand := operands.headD "-"
      let front := operands.getD 1 "x"
      match p.source operand with
      | .error .isADirectory => p.fault s!"{operand}: read error: Is a directory"
      | .error fault => p.faultAbout s!"cannot open {shown operand} for reading" fault
      | .ok (text, p) =>
        let number (key : String) : Option Nat := (call.value? key).bind sizeOf?
        let chars := text.toList
        let pieces : Except String (List String) :=
          match call.last? ["l", "b", "n"] with
          | some "b" =>
            match number "b" with
            | some size =>
              if size = 0 then .error "invalid number of bytes: '0'"
              else .ok ((Digest.pieces size chars.length chars).map String.ofList)
            | none => .error ("invalid number of bytes: " ++ shown ((call.value? "b").getD ""))
          | some "n" =>
            match number "n" with
            | some (count + 1) =>
              let size := chars.length / (count + 1)
              .ok ((List.range (count + 1)).map fun i =>
                let rest := chars.drop (size * i)
                String.ofList (if i = count then rest else rest.take size))
            | _ => .error ("invalid number of chunks: " ++ shown ((call.value? "n").getD ""))
          | _ =>
            let size := if call.has "l" then number "l" else some 1000
            match size with
            | some (size + 1) =>
              let lines := (linesOf text).map (· ++ "\n")
              let lines := if text.endsWith "\n" || text = "" then lines
                else lines.dropLast ++ [(lines.getLastD "\n").dropEnd 1 |>.toString]
              .ok ((Digest.pieces (size + 1) lines.length lines).map String.join)
            | _ => .error ("invalid number of lines: " ++ shown ((call.value? "l").getD ""))
        match pieces with
        | .error message => p.fault message
        | .ok pieces =>
          let digits := if call.has "x" || call.has "hex-suffixes" then "0123456789abcdef".toList
            else if call.has "d" || call.has "numeric-suffixes" then "0123456789".toList
            else Alphabet.letters.map Char.toLower
          let first := ((call.value? "numeric-suffixes").bind whole?).getD 0
          let length := ((call.value? "a").bind whole?).getD 2
          let behind := (call.value? "additional-suffix").getD ""
          let pieces := if call.has "e" then pieces.filter (· ≠ "") else pieces
          (pieces.zipIdx.foldl (fun ((p, goOn) : Process × Bool) (piece, i) =>
            if !goOn then (p, false)
            else if Nat.pow digits.length length ≤ first + i then
              (p.fault "output file suffixes exhausted", false)
            else
              let name := front ++ String.ofList (pieceName digits length (first + i)) ++ behind
              let p := if call.has "verbose" then p.print s!"creating file {shown name}\n" else p
              match p.openPath .writing name with
              | .error fault => (p.faultAbout name fault, false)
              | .ok (opened, place) =>
                match ({ opened with descriptors := [(3, place)] }).write 3 piece with
                | .ok after => (opened.adopt after, true)
                | .error fault => (opened.faultAbout name fault, false)) (p, true)).1

end Process

end ColdBuild
