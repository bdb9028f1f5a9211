import ColdBuild.Regex.Syntax
import ColdBuild.Text.Blank

/-!
# Reading the parts of a pattern

A cursor is what is left of a pattern and the place where it begins. Blanks and comments between
the parts are skipped where a flag asks for it. Every reader gives back the cursor behind what it
has read; those that repeat a step are bounded by the number of characters that are left.
-/

namespace ColdBuild.Regex

/-- What is left of a pattern, and where it begins. -/
structure Cursor where
  rest : List Char
  position : Position := {}
  /-- Blanks and comments between the parts are skipped. -/
  ignoreBlanks : Bool := false
  deriving DecidableEq, Repr

namespace Cursor

def atEnd (cursor : Cursor) : Bool := cursor.rest.isEmpty

def isAt (cursor : Cursor) (c : Char) : Bool := cursor.rest.head? = some c

/-- The cursor behind the next character. -/
def bump (cursor : Cursor) : Cursor :=
  match cursor.rest with
  | [] => cursor
  | c :: rest => { cursor with rest, position := cursor.position.after c }

def bumpBy (cursor : Cursor) : Nat → Cursor
  | 0 => cursor
  | n + 1 => cursor.bump.bumpBy n

/-- What is left behind blanks and comments, and where it begins. -/
def skipFrom (inComment : Bool) : List Char → Position → List Char × Position
  | [], position => ([], position)
  | c :: rest, position =>
    if inComment then skipFrom (c ≠ '\n') rest (position.after c)
    else if isBlank c then skipFrom false rest (position.after c)
    else if c = '#' then skipFrom true rest (position.after c)
    else (c :: rest, position)

/-- The cursor behind blanks and comments, where these are skipped. -/
def skip (cursor : Cursor) : Cursor :=
  if cursor.ignoreBlanks then
    let (rest, position) := skipFrom false cursor.rest cursor.position
    { cursor with rest, position }
  else cursor

/-- The cursor at the part after the next character. -/
def advance (cursor : Cursor) : Cursor := cursor.bump.skip

/-- The cursor behind a text, if that comes next. -/
def after? (cursor : Cursor) (text : String) : Option Cursor :=
  if text.toList.isPrefixOf cursor.rest then some (cursor.bumpBy text.length) else none

def here (cursor : Cursor) : Extent :=
  match cursor.rest with
  | [] => cursor.position.extent
  | c :: _ => ⟨cursor.position, cursor.position.after c⟩

def second? (cursor : Cursor) : Option Char := (cursor.rest.drop 1).head?

/-- The character after the next one, blanks and the mark of a comment between them left out
where these are skipped. -/
def secondPart? (cursor : Cursor) : Option Char :=
  let rec find (inComment : Bool) : List Char → Option Char
    | [] => none
    | c :: rest =>
      if isBlank c && !(inComment && c = '\n') then find inComment rest
      else if !inComment && c = '#' then find true rest
      else if inComment && c = '\n' then find false rest
      else some c
  if cursor.ignoreBlanks then find false (cursor.rest.drop 1) else cursor.second?

def fail {α : Type} (kind : FaultKind) (extent : Extent) : Except Fault (α × Cursor) := .error ⟨kind, extent, none⟩

def digits : (fuel : Nat) → (found : List Char) → Cursor → List Char × Cursor
  | 0, found, cursor => (found.reverse, cursor)
  | fuel + 1, found, cursor =>
    match cursor.rest with
    | c :: _ => if c.isDigit then digits fuel (c :: found) cursor.advance else (found.reverse, cursor)
    | [] => (found.reverse, cursor)

/-- Skips blanks, whether or not these are skipped between parts. -/
def skipBlanks : (fuel : Nat) → Cursor → Cursor
  | 0, cursor => cursor
  | fuel + 1, cursor =>
    match cursor.rest with
    | c :: _ => if isBlank c then skipBlanks fuel cursor.bump else cursor
    | [] => cursor

/-- Reads a number that fits into 32 bits, with blanks around it; what is wrong with it if there
is none. -/
def decimal (cursor : Cursor) : Except Fault Nat × Cursor :=
  let start := skipBlanks cursor.rest.length cursor
  let (found, stop) := digits start.rest.length [] start
  let extent : Extent := ⟨start.position, stop.position⟩
  let behind := skipBlanks stop.rest.length stop
  let value := Nat.ofDigitChars 10 found 0
  if found.isEmpty then (.error ⟨.repetitionCountEmpty, extent, none⟩, behind)
  else if 4294967296 ≤ value then (.error ⟨.decimalInvalid, extent, none⟩, behind)
  else (.ok value, behind)

def hexDigit? (c : Char) : Option Nat :=
  if '0' ≤ c && c ≤ '9' then some (c.toNat - '0'.toNat)
  else if 'a' ≤ c && c ≤ 'f' then some (c.toNat - 'a'.toNat + 10)
  else if 'A' ≤ c && c ≤ 'F' then some (c.toNat - 'A'.toNat + 10)
  else none

def charOf? (code : Nat) : Option Char := if code.isValidChar then some (Char.ofNat code) else none

/-- Reads so many hexadecimal digits; the cursor stays at the last of them. -/
def hexDigits : (count : Nat) → (code : Nat) → Cursor → Except Fault (Nat × Cursor)
  | 0, code, cursor => .ok (code, cursor)
  | count + 1, code, cursor =>
    match cursor.rest with
    | [] => fail .escapeUnexpectedEnd cursor.position.extent
    | c :: _ =>
      match hexDigit? c with
      | none => fail .escapeHexInvalidDigit cursor.here
      | some digit =>
        if count = 0 then .ok (code * 16 + digit, cursor)
        else hexDigits count (code * 16 + digit) cursor.advance

/-- Reads hexadecimal digits up to a closing brace; the cursor stays at the brace. -/
def bracedDigits (brace : Position) : (fuel : Nat) → (count code : Nat) → Cursor →
    Except Fault ((Nat × Nat) × Cursor)
  | 0, _, _, cursor => fail .escapeUnexpectedEnd ⟨brace, cursor.position⟩
  | fuel + 1, count, code, cursor =>
    let cursor := cursor.advance
    match cursor.rest with
    | [] => fail .escapeUnexpectedEnd ⟨brace, cursor.position⟩
    | c :: _ =>
      if c = '\x7d' then .ok ((count, code), cursor)
      else match hexDigit? c with
        | none => fail .escapeHexInvalidDigit cursor.here
        | some digit => bracedDigits brace fuel (count + 1) (min (code * 16 + digit) 4294967296) cursor

/-- Reads a character given by its code; the cursor is at the letter that says how. -/
def hexadecimal (start : Position) (letter : Char) (cursor : Cursor) : Except Fault (Literal × Cursor) := do
  let cursor := cursor.advance
  if cursor.atEnd then fail .escapeUnexpectedEnd cursor.position.extent
  else if cursor.isAt '\x7b' then
    let ((count, code), closing) ← bracedDigits cursor.position cursor.rest.length 0 0 cursor
    let behind := closing.advance
    if count = 0 then fail .escapeHexEmpty ⟨cursor.position, behind.position⟩
    else match charOf? code with
      | none => fail .escapeHexInvalid ⟨cursor.bump.position, closing.position⟩
      | some c => return (⟨⟨start, behind.position⟩, c, false⟩, behind)
  else
    let count := if letter = 'x' then 2 else if letter = 'u' then 4 else 8
    let (code, last) ← hexDigits count 0 cursor
    let behind := last.advance
    match charOf? code with
    | none => fail .escapeHexInvalid ⟨cursor.position, behind.position⟩
    | some c => return (⟨⟨start, behind.position⟩, c, letter = 'x'⟩, behind)

/-- Reads the name of a property up to a closing brace; the cursor stays at the brace. -/
def propertyName : (fuel : Nat) → (name : List Char) → Cursor → Except Fault (List Char × Cursor)
  | 0, _, cursor => fail .escapeUnexpectedEnd cursor.position.extent
  | fuel + 1, name, cursor =>
    let cursor := cursor.advance
    match cursor.rest with
    | [] => fail .escapeUnexpectedEnd cursor.position.extent
    | c :: _ =>
      if c = '\x7d' then .ok (name.reverse, cursor) else propertyName fuel (c :: name) cursor

/-- Reads a property; the cursor is at the letter that begins it. -/
def property (start : Position) (negated : Bool) (cursor : Cursor) : Except Fault (Escaped × Cursor) := do
  let cursor := cursor.advance
  match cursor.rest with
  | [] => fail .escapeUnexpectedEnd cursor.position.extent
  | c :: _ =>
    if c = '\x7b' then
      let (name, closing) ← propertyName cursor.rest.length [] cursor
      let behind := closing.bump
      return (.property ⟨start, behind.position⟩ negated (String.ofList name)
        (name.contains ':' || name.contains '='), behind)
    else if c = '\\' then fail .propertyInvalid cursor.here
    else
      let behind := cursor.advance
      return (.property ⟨start, behind.position⟩ negated (String.ofList [c]) false, behind)

def boundaryLetters : (fuel : Nat) → (found : List Char) → Cursor → List Char × Cursor
  | 0, found, cursor => (found.reverse, cursor)
  | fuel + 1, found, cursor =>
    match cursor.rest with
    | c :: _ =>
      if c.isAlpha || c = '-' then boundaryLetters fuel (c :: found) cursor.advance
      else (found.reverse, cursor)
    | [] => (found.reverse, cursor)

/-- Reads what may follow a word boundary in braces; nothing if it is a repetition. -/
def specialBoundary? (start : Position) (cursor : Cursor) :
    Except Fault (Option (Assertion × Cursor)) :=
  if !cursor.isAt '\x7b' then .ok none
  else
    let inside := cursor.advance
    match inside.rest with
    | [] => .error ⟨.specialBoundaryUnexpectedEnd, ⟨start, inside.position⟩, none⟩
    | c :: _ =>
      if !(c.isAlpha || c = '-') then .ok none
      else
        let (name, closing) := boundaryLetters inside.rest.length [] inside
        if !closing.isAt '\x7d' then
          .error ⟨.specialBoundaryUnclosed, ⟨cursor.position, closing.position⟩, none⟩
        else match String.ofList name with
          | "start" => .ok (some (.wordStart, closing.bump))
          | "end" => .ok (some (.wordEnd, closing.bump))
          | "start-half" => .ok (some (.wordStartHalf, closing.bump))
          | "end-half" => .ok (some (.wordEndHalf, closing.bump))
          | _ => .error ⟨.specialBoundaryUnrecognized, ⟨inside.position, closing.position⟩, none⟩

/-- Characters that stand for themselves after a backslash: all of ASCII but letters, digits and
angle brackets. -/
def standsForItself (c : Char) : Bool :=
  c.toNat < 0x80 && !c.isAlphanum && c ≠ '<' && c ≠ '>'

def escaped (cursor : Cursor) : Except Fault (Escaped × Cursor) := do
  let start := cursor.position
  let letter := cursor.bump
  match letter.rest with
  | [] => fail .escapeUnexpectedEnd ⟨start, letter.position⟩
  | c :: _ =>
    let behind := letter.bump
    let extent : Extent := ⟨start, behind.position⟩
    let char (c : Char) : Except Fault (Escaped × Cursor) := .ok (.literal ⟨extent, c, false⟩, behind)
    let assertion (kind : Assertion) : Except Fault (Escaped × Cursor) := .ok (.assertion extent kind, behind)
    let perl (kind : AsciiClass) (negated : Bool) : Except Fault (Escaped × Cursor) :=
      .ok (.perl extent kind negated, behind)
    if c.isDigit then fail .backreference extent
    else if standsForItself c then char c
    else match c with
      | 'x' | 'u' | 'U' => do
        let (literal, behind) ← hexadecimal start c letter
        return (.literal literal, behind)
      | 'p' => property start false letter
      | 'P' => property start true letter
      | 'd' => perl .digit false
      | 'D' => perl .digit true
      | 's' => perl .space false
      | 'S' => perl .space true
      | 'w' => perl .word false
      | 'W' => perl .word true
      | 'a' => char '\x07'
      | 'f' => char '\x0c'
      | 't' => char '\t'
      | 'n' => char '\n'
      | 'r' => char '\r'
      | 'v' => char '\x0b'
      | 'A' => assertion .startText
      | 'z' => assertion .endText
      | 'b' => do
        match ← specialBoundary? start behind with
        | none => assertion .wordBoundary
        | some (kind, behind) => return (.assertion ⟨start, behind.position⟩ kind, behind)
      | 'B' => assertion .notWordBoundary
      | '<' => assertion .wordStart
      | '>' => assertion .wordEnd
      | _ => fail .escapeUnrecognized extent

end Cursor

end ColdBuild.Regex
