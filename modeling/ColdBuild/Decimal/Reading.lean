import ColdBuild.Decimal.Shortest

/-!
# Reading numerals

A numeral is an optional minus sign, digits without a superfluous zero in front, and then perhaps
a point with further digits, and perhaps an exponent. Its value is the binary64 number nearest to
what it says, so it can be read without knowing how it was written.

A numeral keeps its digits. So it can also be said how many of them are significant, and whether
it was written as an integer.
-/

namespace ColdBuild

/-- A decimal numeral as it is written. -/
structure Numeral where
  negative : Bool
  whole : List Char
  /-- The digits after the point, if there is one. -/
  fraction : Option (List Char) := none
  exponent : Option Int := none
  deriving DecidableEq, Repr

namespace Numeral

/-- Reads one digit or more. -/
def digits? (chars : List Char) : Option (List Char × List Char) :=
  let digits := chars.takeWhile Char.isDigit
  if digits.isEmpty then none else some (digits, chars.drop digits.length)

def fraction? : List Char → Option (Option (List Char) × List Char)
  | '.' :: rest => (digits? rest).map fun (digits, rest) => (some digits, rest)
  | rest => some (none, rest)

def exponent? : List Char → Option (Option Int × List Char)
  | [] => some (none, [])
  | c :: rest =>
    if c = 'e' ∨ c = 'E' then
      match rest with
      | '-' :: rest => (digits? rest).map fun (digits, rest) =>
        (some (-(Nat.ofDigitChars 10 digits 0 : Int)), rest)
      | '+' :: rest => (digits? rest).map fun (digits, rest) =>
        (some (Nat.ofDigitChars 10 digits 0 : Int), rest)
      | _ => (digits? rest).map fun (digits, rest) =>
        (some (Nat.ofDigitChars 10 digits 0 : Int), rest)
    else some (none, c :: rest)

/-- Reads a numeral, and what follows it. -/
def read? (chars : List Char) : Option (Numeral × List Char) := do
  let negative := chars.head? = some '-'
  let (whole, rest) ← digits? (if negative then chars.drop 1 else chars)
  if whole.head? = some '0' ∧ whole.length ≠ 1 then none
  let (fraction, rest) ← fraction? rest
  let (exponent, rest) ← exponent? rest
  return ({ negative, whole, fraction, exponent }, rest)

def digits (n : Numeral) : List Char := n.whole ++ n.fraction.getD []

/-- What the numeral says, less its sign. -/
def magnitude (n : Numeral) : Decimal where
  significand := Nat.ofDigitChars 10 n.digits 0
  exponent := n.exponent.getD 0 - (n.fraction.getD []).length

/-- The binary64 number nearest to what the numeral says. -/
def value (n : Numeral) : Binary64 :=
  ⟨n.negative, n.magnitude.code, Binary64.nearestCode_lt _ _⟩

/-- How many digits there are between the first and the last that is not zero. -/
def significantDigits (n : Numeral) : Nat :=
  ((n.digits.dropWhile (· = '0')).reverse.dropWhile (· = '0')).length

def natural? (n : Numeral) : Option Nat :=
  if n.negative ∨ n.fraction.isSome ∨ n.exponent.isSome then none
  else some (Nat.ofDigitChars 10 n.whole 0)

end Numeral

def Binary64.read? (text : String) : Option Binary64 :=
  match Numeral.read? text.toList with
  | some (numeral, []) => some numeral.value
  | _ => none

end ColdBuild
