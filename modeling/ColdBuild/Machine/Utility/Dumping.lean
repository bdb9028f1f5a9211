import ColdBuild.Machine.Digest
import ColdBuild.Machine.Utility.Lines

/-!
# Utilities for octets

Octets are shown as numbers or characters, written with letters and digits only, or summed up.
-/

namespace ColdBuild

namespace Process

def octetsIn (text : String) : List Nat := text.toList.map Char.toNat

def ofOctets (octets : List Nat) : String := String.ofList (octets.map Char.ofNat)

def zeroFilled (width : Nat) (digits : List Char) : String :=
  String.ofList (List.replicate (width - digits.length) '0' ++ digits)

end Process

namespace Dump

/-- A way to show octets. -/
structure Shape where
  /-- The letter of the way: `a`, `c`, `d`, `o`, `u` or `x`. -/
  letter : Char
  /-- How many octets stand together. -/
  size : Nat
  /-- The characters stand behind the line, too. -/
  shown : Bool := false
  deriving DecidableEq

namespace Shape

/-- How many characters are needed. -/
def width (shape : Shape) : Nat :=
  match shape.letter with
  | 'o' => (shape.size * 8 + 2) / 3
  | 'x' => shape.size * 2
  | 'd' => (Nat.toDigits 10 ((1 <<< (shape.size * 8 - 1)) - 1)).length + 1
  | 'u' => (Nat.toDigits 10 ((1 <<< (shape.size * 8)) - 1)).length
  | _ => 3

def controlNames : List String :=
  ["nul", "soh", "stx", "etx", "eot", "enq", "ack", "bel", "bs", "ht", "nl", "vt", "ff", "cr", "so",
    "si", "dle", "dc1", "dc2", "dc3", "dc4", "nak", "syn", "etb", "can", "em", "sub", "esc", "fs",
    "gs", "rs", "us", "sp"]

def isPrintable (n : Nat) : Bool := 32 ≤ n && n < 127

def item (shape : Shape) (octets : List Nat) : String :=
  let n := Digest.ofOctets (octets ++ List.replicate (shape.size - octets.length) 0)
  match shape.letter with
  | 'a' =>
    let n := n % 128
    if n = 127 then "del"
    else (controlNames[n]?).getD (String.ofList [Char.ofNat n])
  | 'c' =>
    match n with
    | 0 => "\\0" | 7 => "\\a" | 8 => "\\b" | 9 => "\\t" | 10 => "\\n" | 11 => "\\v" | 12 => "\\f"
    | 13 => "\\r"
    | n => if isPrintable n then String.ofList [Char.ofNat n]
      else Process.zeroFilled 3 (Nat.toDigits 8 n)
  | 'o' => Process.zeroFilled shape.width (Nat.toDigits 8 n)
  | 'x' => Process.zeroFilled shape.width (Nat.toDigits 16 n)
  | 'd' =>
    let half := 1 <<< (shape.size * 8 - 1)
    toString (if n < half then (n : Int) else (n : Int) - (half * 2 : Nat))
  | _ => toString n

/-- The values of a line, each in a field; some blanks are spread over the fields. -/
def items (shape : Shape) (octets : List Nat) (extra fields : Nat) : String :=
  let pieces := Digest.pieces shape.size octets.length octets
  String.join (pieces.zipIdx.map fun (piece, i) =>
    let left := extra * (fields - i) / fields
    let behind := extra * (fields - i - 1) / fields
    " " ++ Process.atRight (shape.width + left - behind) (shape.item piece))

/-- The sizes that letters stand for. -/
def sizes : List (Char × Nat) := [('C', 1), ('S', 2), ('I', 4), ('L', 8)]

def readAll (whole : String) : (fuel : Nat) → List Char → Except String (List Shape)
  | 0, _ | _, [] => .ok []
  | fuel + 1, letter :: rest => do
    let take (size : Nat) (rest : List Char) : Except String (List Shape) := do
      let shown := rest.head? = some 'z'
      let more ← readAll whole fuel (if shown then rest.drop 1 else rest)
      return { letter, size, shown } :: more
    if letter = 'a' || letter = 'c' then take 1 rest
    else if "doux".toList.contains letter then
      let digits := rest.takeWhile Char.isDigit
      match (rest.head?).bind fun c => sizes.lookup c with
      | some size => take size (rest.drop 1)
      | none =>
        let size := if digits.isEmpty then 4 else Nat.ofDigitChars 10 digits 0
        if [1, 2, 4, 8].contains size then take size (rest.drop digits.length)
        else throw (s!"invalid type string {Process.shown whole};\nthis system doesn't provide a " ++
          s!"{size}-byte integral type")
    else
      throw (s!"invalid character " ++ Process.shown (String.ofList [letter]) ++
        s!" in type string {Process.shown whole}")

end Shape

/-- How a place is written in front of a line. -/
def address (base : Char) (place : Nat) : String :=
  match base with
  | 'd' => Process.zeroFilled 7 (Nat.toDigits 10 place)
  | 'x' => Process.zeroFilled 6 (Nat.toDigits 16 place)
  | 'n' => ""
  | _ => Process.zeroFilled 7 (Nat.toDigits 8 place)

/-- The lines for some octets. -/
def block (base : Char) (shapes : List Shape) (width place : Nat) (octets : List Nat) : String :=
  let wide := (shapes.map fun shape => (shape.width + 1) * (width / shape.size)).foldl max 0
  let front := address base place
  String.join (shapes.zipIdx.map fun (shape, i) =>
    let fields := width / shape.size
    let extra := wide - (shape.width + 1) * fields
    let text := shape.items octets extra fields
    let missing := wide - text.length
    let behind := if shape.shown then
        String.ofList (List.replicate missing ' ') ++ "  >" ++ String.ofList (octets.map fun n =>
          if Shape.isPrintable n then Char.ofNat n else '.') ++ "<"
      else ""
    (if i = 0 then front else String.ofList (List.replicate front.length ' ')) ++ text ++ behind ++
      "\n")

/-- Shows octets line by line; lines like the one before are left out. -/
def lines (base : Char) (shapes : List Shape) (width start : Nat) (all : Bool)
    (octets : List Nat) : String :=
  let pieces := Digest.pieces width octets.length octets
  let (texts, _, _) := pieces.zipIdx.foldl (fun (texts, last, starred) (piece, i) =>
    if !all && some piece = last && piece.length = width && 0 < i then
      (if starred then texts else "*\n" :: texts, last, true)
    else (block base shapes width (start + i * width) piece :: texts, some piece, false))
    (([] : List String), (none : Option (List Nat)), false)
  let ending := if base = 'n' then "" else address base (start + octets.length) ++ "\n"
  String.join texts.reverse ++ ending

/-- Options that stand for a way to show octets. -/
def shortcuts : List (String × String) :=
  [("a", "a"), ("b", "o1"), ("c", "c"), ("d", "u2"), ("i", "d4"), ("l", "d8"), ("o", "o2"),
    ("s", "d2"), ("x", "x2")]

end Dump

namespace Process

def dump (p : Process) : Process :=
  p.withCall ["A,address-radix=", "endian=", "j,skip-bytes=", "N,read-bytes=", "S,strings?",
      "t,format=", "v,output-duplicates", "w,width?", "a", "b", "c", "d", "f", "i", "l", "o", "s",
      "x"] fun call =>
    let texts := call.options.filterMap fun (key, value) =>
      if key = "t" then some value else Dump.shortcuts.lookup key
    let shapes := texts.foldl (fun (found : Except String (List Dump.Shape)) text => do
      return (← found) ++ (← Dump.Shape.readAll text text.length text.toList)) (.ok [])
    let base := ((call.value? "A").bind fun text => text.toList.head?).getD 'o'
    match shapes with
    | .error message => p.fault message
    | .ok shapes =>
      let shapes := if shapes.isEmpty then [⟨'o', 2, false⟩] else shapes
      let unit := (shapes.map Dump.Shape.size).foldl max 1
      let width := match call.value? "w" with
        | some text => (whole? text).getD 32
        | none => 16
      let fits := width % unit = 0 && width ≠ 0
      let p := if fits then p
        else p.report s!"warning: invalid width {width}; using {unit} instead"
      let width := if fits then width else unit
      let (p, octets) := (if call.operands.isEmpty then ["-"] else call.operands).foldl
        (fun ((p, octets) : Process × List Nat) operand =>
          match p.source operand with
          | .error fault => (p.faultAbout operand fault, octets)
          | .ok (text, p) => (p, octets ++ octetsIn text)) (p, [])
      let skipped := ((call.value? "j").bind sizeOf?).getD 0
      if octets.length < skipped then p.fault "cannot skip past end of combined input"
      else
        let octets := octets.drop skipped
        let octets := match (call.value? "N").bind sizeOf? with
          | some most => octets.take most
          | none => octets
        let text := Dump.lines base shapes width skipped (call.has "v") octets
        { p.print text with status := p.status }

/-! ## Octets in letters and digits -/

/-- An alphabet of which each character stands for some bits, and how many stand together. -/
structure Alphabet where
  chars : List Char
  bits : Nat
  group : Nat

namespace Alphabet

def letters : List Char := (List.range 26).map fun n => Char.ofNat (n + 65)

def digits (first count : Nat) : List Char := (List.range count).map fun n => Char.ofNat (n + first + 48)

def base64 : Alphabet :=
  ⟨letters ++ letters.map Char.toLower ++ digits 0 10 ++ ['+', '/'], 6, 4⟩

def base32 : Alphabet := ⟨letters ++ digits 2 6, 5, 8⟩

def octets (alphabet : Alphabet) : Nat := alphabet.group * alphabet.bits / 8

/-- The characters for octets that stand together; marks fill up what is missing. -/
def encodePiece (alphabet : Alphabet) (piece : List Nat) : List Char :=
  let n := (piece ++ List.replicate (alphabet.octets - piece.length) 0).foldl
    (fun n octet => n * 256 + octet) 0
  let used := (piece.length * 8 + alphabet.bits - 1) / alphabet.bits
  (List.range alphabet.group).map fun i =>
    if used ≤ i then '='
    else alphabet.chars.getD
      (Digest.low alphabet.bits (n >>> ((alphabet.group - 1 - i) * alphabet.bits))) '='

def encode (alphabet : Alphabet) (octets : List Nat) : List Char :=
  (Digest.pieces alphabet.octets octets.length octets).flatMap alphabet.encodePiece

/-- Reads octets, and whether they were well written. -/
def decode (alphabet : Alphabet) : (fuel : Nat) → List Char → List Nat × Bool
  | 0, _ | _, [] => ([], true)
  | fuel + 1, chars =>
    let piece := chars.take alphabet.group
    let used := piece.takeWhile fun c => alphabet.chars.contains c
    let n := (used.map fun c => alphabet.chars.idxOf c).foldl
      (fun n value => (n <<< alphabet.bits) + value) 0
    let count := used.length * alphabet.bits / 8
    let n := n >>> (used.length * alphabet.bits - count * 8)
    let octets := (Digest.octetsOf count n).reverse
    let marks := piece.drop used.length
    let whole := piece.length = alphabet.group && marks.all (· = '=') &&
      (used.length * alphabet.bits - count * 8) < alphabet.bits && (0 < count)
    if !whole then (octets, false)
    else if marks.isEmpty then
      let (more, fine) := decode alphabet fuel (chars.drop alphabet.group)
      (octets ++ more, fine)
    else (octets, (chars.drop alphabet.group).isEmpty)

end Alphabet

/-- Writes octets in an alphabet, or reads them. -/
def recode (alphabet : Alphabet) (p : Process) : Process :=
  p.withCall ["d,D,decode", "i,ignore-garbage", "w,wrap="] fun call =>
    match call.operands with
    | _ :: extra :: _ => p.misuse s!"extra operand {shown extra}"
    | operands =>
      match (call.value? "w").filter fun text => whole? text = none with
      | some text => p.fault s!"invalid wrap size: {shown text}"
      | none =>
        match p.source (operands.headD "-") with
        | .error fault => p.faultAbout (operands.headD "-") fault
        | .ok (text, p) =>
          if call.has "d" then
            let kept (c : Char) : Bool := if call.has "i" then alphabet.chars.contains c || c = '='
              else c ≠ '\n'
            let (octets, fine) := alphabet.decode (text.length + 1) (text.toList.filter kept)
            let p := p.print (ofOctets octets)
            if fine then p else p.fault "invalid input"
          else
            let width := ((call.value? "w").bind whole?).getD 76
            let encoded := alphabet.encode (octetsIn text)
            if width = 0 then p.print (String.ofList encoded)
            else p.print (unlines ((Digest.pieces width encoded.length encoded).map String.ofList))

/-! ## Checksums -/

/-- Shows the checks of files, with their sizes. -/
def showCheck (check : List Nat → String) (size : Nat → String) (named : Bool) (p : Process) :
    Process :=
  p.withCall ["r", "s,sysv", "a,algorithm=", "c,check", "tag", "untagged"] fun call =>
    p.forSources call.operands fun p operand text =>
      let octets := octetsIn text
      let isShown := if named then !call.operands.isEmpty else 1 < call.operands.length
      let name := if isShown then s!" {operand}" else ""
      p.print s!"{check octets} {size octets.length}{name}\n"

def cyclicCheck : Process → Process :=
  showCheck (fun octets => toString (Digest.crc octets)) toString true

def sumCheck : Process → Process :=
  showCheck (fun octets => zeroFilled 5 (Nat.toDigits 10 (Digest.turningSum octets)))
    (fun size => atRight 5 (toString ((size + 1023) / 1024))) false

/-- A line of a list of digests: the digest and the file. -/
def digestLine? (title : String) (length : Nat) (line : String) : Option (String × String) :=
  let isHex (c : Char) : Bool := c.isDigit || ('a' ≤ c.toLower && c.toLower ≤ 'f')
  let digits := line.toList.takeWhile isHex
  let behind := line.toList.drop digits.length
  let tagged := s!"{title} ("
  if line.startsWith tagged then
    match ((line.drop tagged.length).toString.splitOn ") = ").reverse with
    | digest :: first :: more =>
      some (digest.toLower, ") = ".intercalate (first :: more).reverse)
    | _ => none
  else match behind with
    | ' ' :: c :: name =>
      if digits.length = length && (c = ' ' || c = '*') && !name.isEmpty then
        some ((String.ofList digits).toLower, String.ofList name)
      else none
    | _ => none

/-- What has been found while digests were compared. -/
structure Findings where
  lines : Nat := 0
  malformed : Nat := 0
  unreadable : Nat := 0
  wrong : Nat := 0

/-- Compares the digests in a list with those of the files. -/
def compareDigests (title : String) (digest : List Nat → String) (call : Call) (list : String)
    (p : Process) (text : String) : Process :=
  let length := (digest []).length
  let quiet := call.has "status"
  let (p, found) := (linesOf text).foldl (fun ((p, found) : Process × Findings) line =>
    if line.startsWith "#" then (p, found)
    else match digestLine? title length line with
      | none => (p, { found with malformed := found.malformed + 1 })
      | some (expected, name) =>
        let found := { found with lines := found.lines + 1 }
        match p.source name with
        | .error fault =>
          if call.has "ignore-missing" then (p, found)
          else
            let p := p.report s!"{name}: {faultText fault}"
            (if quiet then p else p.print s!"{name}: FAILED open or read\n",
              { found with unreadable := found.unreadable + 1 })
        | .ok (content, p) =>
          if digest (octetsIn content) = expected then
            (if quiet || call.has "quiet" then p else p.print s!"{name}: OK\n", found)
          else
            (if quiet then p else p.print s!"{name}: FAILED\n",
              { found with wrong := found.wrong + 1 })) (p, {})
  let counted (n : Nat) (one many : String) : String := if n = 1 then s!"1 {one}" else s!"{n} {many}"
  if found.lines = 0 then
    let list := if list = "-" then shown "standard input" else list
    p.fault s!"{list}: no properly formatted checksum lines found"
  else
    let warn (p : Process) (n : Nat) (one many : String) (counts : Bool) : Process :=
      if n = 0 then p
      else
        let p := if quiet then p else p.report ("WARNING: " ++ counted n one many)
        if counts then p.exit 1 else p
    let p := warn p found.malformed "line is improperly formatted" "lines are improperly formatted"
      (call.has "strict")
    let p := warn p found.unreadable "listed file could not be read"
      "listed files could not be read" true
    warn p found.wrong "computed checksum did NOT match" "computed checksums did NOT match" true

/-- Shows the digests of files, or compares them with a list. -/
def showDigests (title : String) (digest : List Nat → String) (p : Process) : Process :=
  p.withCall ["b,binary", "c,check", "tag", "t,text", "z,zero", "ignore-missing", "quiet", "status",
      "strict", "w,warn"] fun call =>
    p.forSources call.operands fun p operand text =>
      if call.has "c" then compareDigests title digest call operand p text
      else
        let hex := digest (octetsIn text)
        let ending := if call.has "z" then String.ofList [Loaded.nul] else "\n"
        if call.has "tag" then p.print s!"{title} ({operand}) = {hex}{ending}"
        else
          let mark := if call.last? ["b", "t"] = some "b" then "*" else " "
          p.print s!"{hex} {mark}{operand}{ending}"

end Process

end ColdBuild
