/-!
# Rounding a quotient to the nearest integer

Division on `Nat` cuts towards zero. Both the binary and the decimal numerals of this library
round to the nearest grid point instead, and send an exact half to the even neighbour. The grid
is chosen by the caller, through the denominator.
-/

namespace ColdBuild

/-- The integer nearest to `num / den`; an exact half goes to the even neighbour. -/
def roundHalfEven (num den : Nat) : Nat :=
  if 2 * (num % den) < den then num / den
  else if den < 2 * (num % den) then num / den + 1
  else num / den + num / den % 2

end ColdBuild
