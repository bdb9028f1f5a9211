/-!
# Signed 64-bit integers on the command line

An integer is an optional sign and one or more ASCII digits, nothing else. It is read from the
left, and the first thing that is wrong is what is reported: a character that is no digit, or a
digit after which the value no longer fits.
-/

namespace ColdBuild

inductive IntegerFault where
  | empty
  | badDigit
  | tooLarge
  | tooSmall
  deriving DecidableEq, Repr

namespace IntegerFault

def message : IntegerFault → String
  | .empty => "cannot parse integer from empty string"
  | .badDigit => "invalid digit found in string"
  | .tooLarge => "number too large to fit in target type"
  | .tooSmall => "number too small to fit in target type"

end IntegerFault

namespace SignedInteger

/-- The value of an ASCII digit. -/
def digit? (c : Char) : Option Nat :=
  if '0' ≤ c ∧ c ≤ '9' then some (c.toNat - '0'.toNat) else none

/-- Reads further digits of a magnitude that may be at most `limit`. -/
def digits (limit : Nat) (past : IntegerFault) : Nat → List Char → Except IntegerFault Nat
  | magnitude, [] => .ok magnitude
  | magnitude, c :: rest =>
    match digit? c with
    | none => .error .badDigit
    | some d =>
      let next := magnitude * 10 + d
      if next ≤ limit then digits limit past next rest else .error past

def parse (text : String) : Except IntegerFault Int64 :=
  match text.toList with
  | [] => .error .empty
  | ['+'] | ['-'] => .error .badDigit
  | '-' :: rest => do
    let magnitude ← digits (1 <<< 63) .tooSmall 0 rest
    return Int64.ofInt (-magnitude)
  | '+' :: rest => do return Int64.ofNat (← digits ((1 <<< 63) - 1) .tooLarge 0 rest)
  | all => do return Int64.ofNat (← digits ((1 <<< 63) - 1) .tooLarge 0 all)

end SignedInteger

end ColdBuild
