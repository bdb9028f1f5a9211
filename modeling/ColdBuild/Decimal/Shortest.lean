import ColdBuild.Binary64

/-!
# The shortest decimal of a binary64 magnitude

A decimal names a binary64 magnitude when rounding it gives that magnitude back. Among the
decimals that do, the shortest have the fewest significant digits, and of those the nearest to
the exact value is chosen. The search goes through the grids `10 ^ p` from the first digit's
position downwards and looks at the two points of each grid around the value: if any point of a
grid names the magnitude, one of these two does, because the decimals that name it form an
interval around the value. Seventeen digits always suffice.

When both points of a grid name the magnitude and are equally near, the caller's `Tie` decides.
-/

namespace ColdBuild

structure Decimal where
  significand : Nat
  exponent : Int
  deriving DecidableEq, Repr

inductive Tie where
  | awayFromZero
  | evenDigit
  deriving DecidableEq, Repr

def decimalLength (n : Nat) : Nat :=
  if n < 10 then 1 else decimalLength (n / 10) + 1
termination_by n
decreasing_by omega

namespace Decimal

/-- The magnitude code that the decimal rounds to: what a reader makes of its text. -/
def code (d : Decimal) : Nat :=
  Binary64.nearestCode (d.significand * Nat.pow 10 d.exponent.toNat * Binary64.one)
    (Nat.pow 10 (-d.exponent).toNat)

/-- The position of the first digit of `units` units: the greatest `e` with `10 ^ e` at most
that value. A positive magnitude is at least `10 ^ -324`. -/
def leadingPosition (units : Nat) : Int :=
  (decimalLength (units * Nat.pow 10 324 / Binary64.one) : Int) - 325

/-- The points of the grid `10 ^ position` around `units` units, the nearer first. -/
def neighbours (tie : Tie) (units : Nat) (position : Int) : Decimal × Decimal :=
  let num := units * Nat.pow 10 (-position).toNat
  let den := Binary64.one * Nat.pow 10 position.toNat
  let below : Decimal := ⟨num / den, position⟩
  let above : Decimal := ⟨num / den + 1, position⟩
  let twice := 2 * (num % den)
  let takeBelow := twice < den ||
    (twice = den && tie = .evenDigit && num / den % 2 = 0)
  if takeBelow then (below, above) else (above, below)

/-- The nearest point of the grid that names the magnitude, if one does. -/
def onGrid (tie : Tie) (code : Nat) (position : Int) : Option Decimal :=
  let (nearer, farther) := neighbours tie (Binary64.units code) position
  if nearer.code = code then some nearer
  else if farther.code = code then some farther
  else none

/-- The first hit on `remaining` grids from `position` downwards. -/
def search (tie : Tie) (code : Nat) : (remaining : Nat) → (position : Int) → Option Decimal
  | 0, _ => none
  | remaining + 1, position =>
    (onGrid tie code position).orElse fun _ => search tie code remaining (position - 1)

/-- The shortest decimal that names a positive finite magnitude, the nearest of those. The
default is never used: with seventeen digits the grid is finer than the magnitudes. -/
def shortest (tie : Tie) (code : Nat) : Decimal :=
  (search tie code 17 (leadingPosition (Binary64.units code))).getD ⟨0, 0⟩

/-- The significant digits, without zeros at the end. -/
def digits (d : Decimal) : List Char :=
  ((Nat.toDigits 10 d.significand).reverse.dropWhile (· = '0')).reverse

/-- The position of the first digit: the exponent in scientific form. -/
def leading (d : Decimal) : Int :=
  d.exponent + decimalLength d.significand - 1

/-- What the search finds does name the magnitude. -/
theorem code_of_search {tie : Tie} {code remaining : Nat} {position : Int} {d : Decimal}
    (h : search tie code remaining position = some d) : d.code = code := by
  induction remaining generalizing position with
  | zero => simp [search] at h
  | succ remaining ih =>
    cases hit : onGrid tie code position with
    | none => rw [search, hit] at h; exact ih h
    | some found =>
      rw [search, hit] at h
      cases h
      simp only [onGrid] at hit
      split at hit
      · cases hit; assumption
      · split at hit
        · cases hit; assumption
        · cases hit

end Decimal

end ColdBuild
