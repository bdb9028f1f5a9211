import ColdBuild.Decimal.Reading
import ColdBuild.Decimal.Numeral

/-!
# Formats

A format is a text with escapes and directives. An escape begins with a backslash and is one
octet; a directive begins with a percent sign and is replaced by an argument. If arguments are
left, the format begins anew; if none is left, an empty one is taken.

What could not be read as a number is reported, but the beginning that could is used.
-/

namespace ColdBuild

structure Formatted where
  text : String := ""
  /-- What is reported, one message each. -/
  complaints : List String := []
  /-- The rest is left out because an escape says so. -/
  stopped : Bool := false
  /-- The format itself is wrong, and nothing follows. -/
  fault : Option String := none
  deriving DecidableEq, Repr

namespace Format

/-- How escapes are read. -/
structure EscapeStyle where
  /-- An octal number begins with a zero that does not count. -/
  leadingZero : Bool := false
  /-- One escape leaves out the rest. -/
  stopping : Bool := false
  /-- Numbers may be hexadecimal, and a quotation mark may be escaped. -/
  extended : Bool := false
  deriving DecidableEq, Repr

def isOctal (c : Char) : Bool := '0' ≤ c && c ≤ '7'

/-- The octet that octal digits say. -/
def octal (digits : List Char) : Char := Char.ofNat (Nat.ofDigitChars 8 digits 0 % 256)

/-- The octet that a hexadecimal number of one or two digits says, and what is behind it. -/
def hexadecimal? (chars : List Char) : Option (Char × List Char) :=
  let digits := (chars.take 2).takeWhile fun c =>
    c.isDigit || ('a' ≤ c && c ≤ 'f') || ('A' ≤ c && c ≤ 'F')
  let value (c : Char) : Nat :=
    if c.isDigit then c.toNat - '0'.toNat else c.toLower.toNat - 'a'.toNat + 10
  if digits.isEmpty then none
  else some (Char.ofNat (digits.foldl (fun n c => n * 16 + value c) 0), chars.drop digits.length)

/-- What an escape stands for, the backslash before it left out; nothing if it leaves out the
rest. -/
def escape (style : EscapeStyle) (chars : List Char) : Option (Char × List Char) :=
  match chars with
  | [] => some ('\\', [])
  | c :: rest =>
    match c with
    | 'a' => some ('\x07', rest)
    | 'b' => some ('\x08', rest)
    | 'e' => some ('\x1b', rest)
    | 'f' => some ('\x0c', rest)
    | 'n' => some ('\n', rest)
    | 'r' => some ('\r', rest)
    | 't' => some ('\t', rest)
    | 'v' => some ('\x0b', rest)
    | '\\' => some ('\\', rest)
    | _ =>
      if c = 'c' && style.stopping then none
      else if c = '0' && style.leadingZero then
        let digits := (rest.take 3).takeWhile isOctal
        some (octal digits, rest.drop digits.length)
      else if isOctal c then
        let digits := (chars.take 3).takeWhile isOctal
        some (octal digits, chars.drop digits.length)
      else if style.extended && c = '"' then some ('"', rest)
      else if style.extended && c = 'x' then some ((hexadecimal? rest).getD ('\\', chars))
      else some ('\\', chars)

/-- A text with its escapes replaced, and whether the rest is left out. -/
def unescape (style : EscapeStyle) : (fuel : Nat) → List Char → List Char × Bool
  | 0, _ | _, [] => ([], false)
  | fuel + 1, '\\' :: rest =>
    match escape style rest with
    | none => ([], true)
    | some (c, rest) =>
      let (chars, stopped) := unescape style fuel rest
      (c :: chars, stopped)
  | fuel + 1, c :: rest =>
    let (chars, stopped) := unescape style fuel rest
    (c :: chars, stopped)

structure Directive where
  flags : List Char
  width : Nat
  precision : Option Nat
  conversion : Char
  deriving DecidableEq, Repr

namespace Directive

def has (d : Directive) (flag : Char) : Bool := d.flags.contains flag

def padded (d : Directive) (text : List Char) : List Char :=
  let blanks := List.replicate (d.width - text.length) ' '
  if d.has '-' then text ++ blanks else blanks ++ text

/-- A number in its field: a sign or a mark of its base, then digits. -/
def number (d : Directive) (front digits : List Char) (zeros : Bool) : List Char :=
  if zeros && d.has '0' && !d.has '-' then
    front ++ List.replicate (d.width - front.length - digits.length) '0' ++ digits
  else d.padded (front ++ digits)

def sign (d : Directive) (negative : Bool) : List Char :=
  if negative then ['-'] else if d.has '+' then ['+'] else if d.has ' ' then [' '] else []

/-- Digits, with zeros in front as the precision asks for. -/
def precise (d : Directive) (digits : List Char) : List Char :=
  match d.precision with
  | none => digits
  | some 0 => if digits = ['0'] then [] else digits
  | some n => List.replicate (n - digits.length) '0' ++ digits

def signed (d : Directive) (n : Int) : List Char :=
  d.number (d.sign (n < 0)) (d.precise (Nat.toDigits 10 n.natAbs)) d.precision.isNone

def unsigned (d : Directive) (n : Nat) : List Char :=
  let digits := match d.conversion with
    | 'o' => Nat.toDigits 8 n
    | 'x' => Nat.toDigits 16 n
    | 'X' => (Nat.toDigits 16 n).map Char.toUpper
    | _ => Nat.toDigits 10 n
  let digits := d.precise digits
  let digits := if d.has '#' && d.conversion = 'o' && digits.head? ≠ some '0' then '0' :: digits
    else digits
  let front := if d.has '#' && n ≠ 0 then
      match d.conversion with
      | 'x' => ['0', 'x']
      | 'X' => ['0', 'X']
      | _ => []
    else []
  d.number front digits d.precision.isNone

/-- The magnitude of a number in units of a power of ten, rounded. -/
def inUnits (x : Binary64) (exponent : Int) : Nat :=
  roundHalfEven (Binary64.units x.code * Nat.pow 10 (-exponent).toNat)
    (Binary64.one * Nat.pow 10 exponent.toNat)

/-- The position of the first digit of a number that is not zero. -/
def firstPosition (x : Binary64) : Int :=
  (decimalLength (Binary64.units x.code * Nat.pow 10 400 / Binary64.one) : Int) - 401

/-- So many digits of a number, and the position of the first one. -/
def scientificDigits (x : Binary64) (count : Nat) : Nat × Int :=
  if x.code = 0 then (0, 0)
  else
    let position := firstPosition x
    let digits := inUnits x (position - (count - 1 : Nat))
    if Nat.pow 10 count ≤ digits then (digits / 10, position + 1) else (digits, position)

/-- Digits of which so many are behind the point. -/
def withPoint (d : Directive) (digits : List Char) (places : Nat) : List Char :=
  let digits := List.replicate (places + 1 - digits.length) '0' ++ digits
  let whole := digits.take (digits.length - places)
  let fraction := digits.drop (digits.length - places)
  if fraction.isEmpty && !d.has '#' then whole else whole ++ '.' :: fraction

def scientific (d : Directive) (digits : List Char) (position : Int) (mark : Char) : List Char :=
  d.withPoint digits (digits.length - 1) ++ mark :: (if position < 0 then '-' else '+') ::
    paddedDigits 2 position.natAbs

/-- Digits without the zeros at their end, of which some have to stay. -/
def trimmed (keep : Nat) (digits : List Char) : List Char :=
  digits.take keep ++ ((digits.drop keep).reverse.dropWhile (· = '0')).reverse

def float (d : Directive) (x : Binary64) : List Char :=
  let upper := d.conversion.isUpper
  let special (text : String) : List Char :=
    d.padded (d.sign x.negative ++ (if upper then text.toList.map Char.toUpper else text.toList))
  if x.isNaN then special "nan"
  else if x.isInfinite then special "inf"
  else
    let precision := d.precision.getD 6
    let mark := if upper then 'E' else 'e'
    let text := match d.conversion.toLower with
      | 'f' => d.withPoint (Nat.toDigits 10 (inUnits x (-(precision : Int)))) precision
      | 'e' =>
        let (digits, position) := scientificDigits x (precision + 1)
        d.scientific (paddedDigits (precision + 1) digits) position mark
      | _ =>
        let count := max precision 1
        let (digits, position) := scientificDigits x count
        let chars := paddedDigits count digits
        if -4 ≤ position && position < count then
          let places := count - 1 - position
          let whole := (position + 1).toNat
          let chars := List.replicate (-position).toNat '0' ++ chars
          let chars := if d.has '#' then chars else trimmed (max whole 1) chars
          d.withPoint chars (if d.has '#' then places.toNat else chars.length - max whole 1)
        else d.scientific (if d.has '#' then chars else trimmed 1 chars) position mark
    d.number (d.sign x.negative) text true

end Directive

def isBlank (c : Char) : Bool := c = ' ' || ('\t' ≤ c && c ≤ '\x0d')

/-- What is reported about an argument that is read as a number. -/
def complaint? (text : String) (rest all : List Char) : Option String :=
  if rest.isEmpty then none
  else if rest.length = all.length then some s!"{text}: expected numeric value"
  else some s!"{text}: not completely converted"

/-- The integer at the beginning of a text in one of three bases, and what is behind it. -/
def leadingInteger (chars : List Char) : Int × List Char :=
  let trimmed := chars.dropWhile isBlank
  let (negative, body) := match trimmed with
    | '-' :: rest => (true, rest)
    | '+' :: rest => (false, rest)
    | _ => (false, trimmed)
  let hex := match body with
    | '0' :: x :: rest =>
      if (x = 'x' || x = 'X') && (hexadecimal? rest).isSome then some rest else none
    | _ => none
  let value (c : Char) : Nat :=
    if c.isDigit then c.toNat - '0'.toNat else c.toLower.toNat - 'a'.toNat + 10
  let (n, rest, any) : Nat × List Char × Bool := match hex with
    | some rest =>
      let digits := rest.takeWhile fun c => (hexadecimal? [c]).isSome
      (digits.foldl (fun n c => n * 16 + value c) 0, rest.drop digits.length, true)
    | none =>
      let isDigit (c : Char) : Bool := if body.head? = some '0' then isOctal c else c.isDigit
      let digits := body.takeWhile isDigit
      let base := if body.head? = some '0' then 8 else 10
      (Nat.ofDigitChars base digits 0, body.drop digits.length, !digits.isEmpty)
  (if negative then -n else n, if any then rest else chars)

/-- An argument as an integer: a quotation mark gives the code of the character behind it. -/
def integerOf (text : String) : Int × Option String :=
  match text.toList with
  | '"' :: c :: _ | '\'' :: c :: _ => (c.toNat, none)
  | chars =>
    let (n, rest) := leadingInteger chars
    (n, complaint? text rest chars)

def outOfRange (text : String) : String := s!"{text}: Numerical result out of range"

/-- An argument as a signed word. -/
def signedOf (text : String) : Int × Option String :=
  let (n, complaint) := integerOf text
  let least := Int64.minValue.toInt
  let most := Int64.maxValue.toInt
  if n < least then (least, some (outOfRange text))
  else if most < n then (most, some (outOfRange text))
  else (n, complaint)

/-- An argument as an unsigned word; a negative number is taken modulo their count. -/
def unsignedOf (text : String) : Nat × Option String :=
  let (n, complaint) := integerOf text
  let count : Int := ((1 <<< 64 : Nat) : Int)
  if count ≤ n ∨ n ≤ -count then ((count - 1).toNat, some (outOfRange text))
  else ((if n < 0 then n + count else n).toNat, complaint)

/-- The number with a point or an exponent at the beginning of a text, and what is behind it. -/
def leadingFloat (chars : List Char) : Binary64 × List Char :=
  let trimmed := chars.dropWhile isBlank
  let (negative, body) := match trimmed with
    | '-' :: rest => (true, rest)
    | '+' :: rest => (false, rest)
    | _ => (false, trimmed)
  let whole := body.takeWhile Char.isDigit
  let behind := body.drop whole.length
  let (fraction, behind) := match behind with
    | '.' :: rest => (rest.takeWhile Char.isDigit, rest.dropWhile Char.isDigit)
    | _ => ([], behind)
  if whole.isEmpty && fraction.isEmpty then
    let lower := (body.take 3).map Char.toLower
    if lower = ['i', 'n', 'f'] then (.infinity negative, body.drop 3)
    else if lower = ['n', 'a', 'n'] then (.nan, body.drop 3)
    else (.zero, chars)
  else
    let exponent : Int × List Char := match behind with
      | e :: rest =>
        if e = 'e' || e = 'E' then
          let (sign, digits) := match rest with
            | '-' :: rest => (true, rest)
            | '+' :: rest => (false, rest)
            | _ => (false, rest)
          let found := digits.takeWhile Char.isDigit
          if found.isEmpty then (0, behind)
          else
            let n : Int := min (Nat.ofDigitChars 10 found 0) 5000
            (if sign then -n else n, digits.drop found.length)
        else (0, behind)
      | [] => (0, [])
    let decimal : Decimal :=
      ⟨Nat.ofDigitChars 10 (whole ++ fraction) 0, exponent.1 - fraction.length⟩
    (⟨negative, decimal.code, Binary64.nearestCode_lt _ _⟩, exponent.2)

/-- An argument as a number with a point or an exponent. -/
def floatOf (text : String) : Binary64 × Option String :=
  match text.toList with
  | '"' :: c :: _ | '\'' :: c :: _ => (.ofNat c.toNat, none)
  | chars =>
    let (x, rest) := leadingFloat chars
    (x, complaint? text rest chars)

structure Progress where
  done : List Char := []
  arguments : List String
  complaints : List String := []
  /-- Arguments have been used. -/
  used : Bool := false
  stopped : Bool := false
  fault : Option String := none

namespace Progress

def next (p : Progress) : String × Progress :=
  (p.arguments.headD "", { p with arguments := p.arguments.drop 1, used := true })

def add (p : Progress) (text : List Char) : Progress := { p with done := p.done ++ text }

def complain (p : Progress) (complaint : Option String) : Progress :=
  { p with complaints := p.complaints ++ complaint.toList }

/-- A number that stands in a directive, or an argument in its place. -/
def count (p : Progress) (chars : List Char) : Option Int × List Char × Progress :=
  match chars with
  | '*' :: rest =>
    let (text, p) := p.next
    let (n, complaint) := signedOf text
    (some n, rest, p.complain complaint)
  | _ =>
    let digits := chars.takeWhile Char.isDigit
    (if digits.isEmpty then none else some (Nat.ofDigitChars 10 digits 0), chars.drop digits.length,
      p)

/-- Formats the next argument. -/
def convert (p : Progress) (d : Directive) (shown : String) : Progress :=
  let unknown : Progress := { p with fault := some s!"{shown}: invalid directive" }
  let cut (text : List Char) : List Char := match d.precision with
    | some n => text.take n
    | none => text
  match d.conversion with
  | 's' => let (text, p) := p.next; p.add (d.padded (cut text.toList))
  | 'c' => let (text, p) := p.next; p.add (d.padded [text.toList.headD (Char.ofNat 0)])
  | 'b' =>
    let (text, p) := p.next
    let style : EscapeStyle := { leadingZero := true, stopping := true }
    let (chars, stopped) := unescape style text.length text.toList
    { p.add (d.padded (cut chars)) with stopped }
  | 'd' | 'i' =>
    let (text, p) := p.next
    let (n, complaint) := signedOf text
    (p.add (d.signed n)).complain complaint
  | 'o' | 'u' | 'x' | 'X' =>
    let (text, p) := p.next
    let (n, complaint) := unsignedOf text
    (p.add (d.unsigned n)).complain complaint
  | 'e' | 'E' | 'f' | 'F' | 'g' | 'G' =>
    let (text, p) := p.next
    let (x, complaint) := floatOf text
    (p.add (d.float x)).complain complaint
  | _ => unknown

end Progress

/-- Goes through a format once. -/
def pass (extended : Bool) : (fuel : Nat) → List Char → Progress → Progress
  | 0, _, p | _, [], p => p
  | fuel + 1, '\\' :: rest, p =>
    match escape { extended, stopping := extended } rest with
    | some (c, rest) => pass extended fuel rest (p.add [c])
    | none => { p with stopped := true }
  | fuel + 1, '%' :: '%' :: rest, p => pass extended fuel rest (p.add ['%'])
  | fuel + 1, '%' :: rest, p =>
    let flags := rest.takeWhile fun c => "#-+ 0".toList.contains c
    let (width, behind, p) := p.count (rest.drop flags.length)
    let (precision, behind, p) := match behind with
      | '.' :: inside =>
        let (precision, behind, p) := p.count inside
        (some (precision.getD 0), behind, p)
      | _ => (none, behind, p)
    match behind with
    | [] => { p with fault := some "missing format character" }
    | conversion :: behind =>
      let width := width.getD 0
      let d : Directive := {
        flags := if width < 0 then '-' :: flags else flags
        width := width.natAbs
        precision := precision.bind fun n => if n < 0 then none else some n.toNat
        conversion }
      let shown := '%' :: rest.take (rest.length - behind.length)
      let p := p.convert d (String.ofList shown)
      if p.stopped || p.fault.isSome then p else pass extended fuel behind p
  | fuel + 1, c :: rest, p => pass extended fuel rest (p.add [c])

/-- Goes through a format as long as there are arguments. -/
def passes (extended : Bool) (format : List Char) : (fuel : Nat) → Progress → Progress
  | 0, p => p
  | fuel + 1, p =>
    let p := pass extended (format.length + 1) format { p with used := false }
    if p.stopped || p.fault.isSome || !p.used || p.arguments.isEmpty then p
    else passes extended format fuel p

def apply (extended : Bool) (format : String) (arguments : List String) : Formatted :=
  let p := passes extended format.toList (arguments.length + 1) { arguments }
  { text := String.ofList p.done, complaints := p.complaints, stopped := p.stopped, fault := p.fault }

/-- Texts with blanks between them, with escapes and a line end or without. -/
def line (escapes : Option EscapeStyle) (ended : Bool) (texts : List String) : String :=
  let text := " ".intercalate texts
  match escapes with
  | none => if ended then text ++ "\n" else text
  | some style =>
    let (chars, stopped) := unescape style text.length text.toList
    let text := String.ofList chars
    if ended && !stopped then text ++ "\n" else text

end Format

end ColdBuild
