import ColdBuild.Rounding

/-!
# Binary64 numbers

IEEE 754 double precision with exact integer arithmetic underneath. A number is a sign and a
magnitude code, the 63 lower bits of its encoding. Codes are ordered as the magnitudes they
stand for, so "the next number up" is the next code, and rounding is a choice between two
adjacent codes.

Every finite magnitude is a whole number of units of `2 ^ -1074`; sums and quotients are formed
exactly in these units and rounded once, to nearest, ties to the even code. All operations that
yield a NaN yield the same one: a payload is never observed.
-/

namespace ColdBuild

/-- A binary64 number: the sign bit and the other 63 bits of its encoding. -/
structure Binary64 where
  negative : Bool
  code : Nat
  code_lt : code < 1 <<< 63 := by decide
  deriving DecidableEq, Repr

namespace Binary64

/-- The magnitude code of infinity; larger codes are NaNs, smaller ones finite. -/
def infinityCode : Nat := 2047 <<< 52

theorem infinityCode_lt : infinityCode < 1 <<< 63 := by decide

/-- The magnitude with a given code, in units of `2 ^ -1074`. At `infinityCode` it is the
power of two that would follow the largest finite magnitude, as rounding needs it. -/
def units (code : Nat) : Nat :=
  if code < 1 <<< 52 then code
  else ((1 <<< 52) + code % (1 <<< 52)) <<< (code / (1 <<< 52) - 1)

/-- Units in one. The power is kept from unfolding during elaboration. -/
@[irreducible] def one : Nat := 1 <<< 1074

/-- The code nearest to the magnitude `num / den` units, an exact half going to the even code;
magnitudes from half a step above the largest finite one give infinity. -/
def nearestCode (num den : Nat) : Nat :=
  let exponent := (num / den).log2 - 52
  min infinityCode ((exponent <<< 52) + roundHalfEven num (den <<< exponent))

theorem nearestCode_lt (num den : Nat) : nearestCode num den < 1 <<< 63 :=
  Nat.lt_of_le_of_lt (Nat.min_le_left _ _) infinityCode_lt

/-- The number nearest to `num / den` units with the given sign. -/
def nearest (negative : Bool) (num den : Nat) : Binary64 :=
  ⟨negative, nearestCode num den, nearestCode_lt num den⟩

def zero : Binary64 := ⟨false, 0, by decide⟩

def nan : Binary64 := ⟨false, infinityCode + (1 <<< 51), by decide⟩

def infinity (negative : Bool) : Binary64 := ⟨negative, infinityCode, infinityCode_lt⟩

def isFinite (x : Binary64) : Bool := x.code < infinityCode
def isInfinite (x : Binary64) : Bool := x.code = infinityCode
def isNaN (x : Binary64) : Bool := infinityCode < x.code

def ofBits (bits : UInt64) : Binary64 :=
  ⟨1 <<< 63 ≤ bits.toNat, bits.toNat % (1 <<< 63), Nat.mod_lt _ (by decide)⟩

def toBits (x : Binary64) : UInt64 :=
  UInt64.ofNat (if x.negative then (1 <<< 63) + x.code else x.code)

/-- The exact value of a finite number in units of `2 ^ -1074`. -/
def signedUnits (x : Binary64) : Int :=
  if x.negative then -(units x.code : Int) else units x.code

def ofNat (n : Nat) : Binary64 := nearest false (n * one) 1

/-- The sum, rounded once. A sum of exactly zero is negative only when both terms are. -/
def add (x y : Binary64) : Binary64 :=
  if x.isNaN || y.isNaN then nan
  else if x.isInfinite then
    if y.isInfinite && x.negative != y.negative then nan else x
  else if y.isInfinite then y
  else
    let sum := x.signedUnits + y.signedUnits
    if sum = 0 then ⟨x.negative && y.negative, 0, by decide⟩
    else nearest (sum < 0) sum.natAbs 1

/-- The quotient, rounded once. -/
def div (x y : Binary64) : Binary64 :=
  let negative := x.negative != y.negative
  if x.isNaN || y.isNaN then nan
  else if x.isInfinite then if y.isInfinite then nan else infinity negative
  else if y.isInfinite then ⟨negative, 0, by decide⟩
  else if y.code = 0 then if x.code = 0 then nan else infinity negative
  else nearest negative (units x.code * one) (units y.code)

instance : Add Binary64 := ⟨add⟩
instance : Div Binary64 := ⟨div⟩

/-- Numeric equality: a NaN equals nothing, and the two zeros are equal. -/
def equal (x y : Binary64) : Bool :=
  !x.isNaN && !y.isNaN && x.code = y.code && (x.negative = y.negative || x.code = 0)

end Binary64

end ColdBuild
