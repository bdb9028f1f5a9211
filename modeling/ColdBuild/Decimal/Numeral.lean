import ColdBuild.Decimal.Shortest

/-!
# Numerals of binary64 numbers

A style fixes everything about a float's text that is not its digits: which numbers are written
positionally, how the exponent is marked, how non-finite numbers are spelled and which of two
equally near digit strings is written. Positional numerals always have a digit after the point.

`fixed` is the other numeral: a fixed number of decimal places, rounded half to even from the
exact value.
-/

namespace ColdBuild

structure NumeralStyle where
  /-- The least position of the first digit that is still written positionally. -/
  leastPositional : Int
  /-- The greatest position of the first digit that is still written positionally. -/
  mostPositional : Int
  /-- The sign written before an exponent that is not negative. -/
  exponentPlus : String
  tie : Tie
  nan : String
  infinity : String
  negativeInfinity : String
  deriving DecidableEq, Repr

namespace NumeralStyle

/-- Digits with the point in its place; the first digit stands at `position`. -/
def positional (digits : List Char) (position : Int) : List Char :=
  if position < 0 then
    '0' :: '.' :: (List.replicate ((-position).toNat - 1) '0' ++ digits)
  else
    let whole := position.toNat + 1
    let fraction := digits.drop whole
    digits.take whole ++ List.replicate (whole - digits.length) '0' ++
      '.' :: (if fraction.isEmpty then ['0'] else fraction)

def scientific (plus : String) (digits : List Char) (position : Int) : List Char :=
  let fraction := digits.drop 1
  digits.take 1 ++ (if fraction.isEmpty then [] else '.' :: fraction) ++
    'e' :: ((if position < 0 then ['-'] else plus.toList) ++ Nat.toDigits 10 position.natAbs)

def magnitude (style : NumeralStyle) (code : Nat) : List Char :=
  if code = 0 then ['0', '.', '0']
  else
    let d := Decimal.shortest style.tie code
    if style.leastPositional ≤ d.leading && d.leading ≤ style.mostPositional then
      positional d.digits d.leading
    else scientific style.exponentPlus d.digits d.leading

def write (style : NumeralStyle) (x : Binary64) : String :=
  if x.isNaN then style.nan
  else if x.isInfinite then if x.negative then style.negativeInfinity else style.infinity
  else String.ofList ((if x.negative then ['-'] else []) ++ style.magnitude x.code)

/-- Text for people: positional from `0.0001` up to sixteen digits before the point. -/
def display : NumeralStyle where
  leastPositional := -4
  mostPositional := 15
  exponentPlus := ""
  tie := .awayFromZero
  nan := "NaN"
  infinity := "inf"
  negativeInfinity := "-inf"

/-- Numbers of a JSON document: positional from `0.00001`, and `null` for what is no number. -/
def json : NumeralStyle where
  leastPositional := -5
  mostPositional := 15
  exponentPlus := "+"
  tie := .evenDigit
  nan := "null"
  infinity := "null"
  negativeInfinity := "null"

end NumeralStyle

/-- The digits of `n`, with zeros in front up to the given width. -/
def paddedDigits (width n : Nat) : List Char :=
  let digits := Nat.toDigits 10 n
  List.replicate (width - digits.length) '0' ++ digits

namespace Binary64

/-- The magnitude in units of `10 ^ -places`, rounded half to even from the exact value. -/
def inPlaces (places : Nat) (x : Binary64) : Nat :=
  roundHalfEven (units x.code * Nat.pow 10 places) one

def fixed (places : Nat) (x : Binary64) : String :=
  if x.isFinite then
    let scaled := x.inPlaces places
    let whole := Nat.toDigits 10 (scaled / Nat.pow 10 places)
    String.ofList ((if x.negative then ['-'] else []) ++ whole ++
      '.' :: paddedDigits places (scaled % Nat.pow 10 places))
  else NumeralStyle.display.write x

end Binary64

end ColdBuild
