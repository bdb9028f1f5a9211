import ColdBuild.Binary64

/-!
# Durations

Whole nanoseconds, with fewer than `2 ^ 64` seconds. A reading of a clock is the duration since
an origin that is fixed but unknown, so only differences of readings mean anything; a clock that
goes backwards measures zero.
-/

namespace ColdBuild

structure Duration where
  nanoseconds : Nat
  nanoseconds_lt : nanoseconds < (1 <<< 64) * 1000000000 := by decide
  deriving DecidableEq, Repr

namespace Duration

def zero : Duration := ⟨0, by decide⟩

instance : Inhabited Duration := ⟨zero⟩

def second : Nat := 1000000000

/-- The duration of so many nanoseconds, or the longest one. -/
def ofNanoseconds (n : Nat) : Duration :=
  ⟨min n ((1 <<< 64) * 1000000000 - 1), by omega⟩

/-- The duration of so many whole seconds and further nanoseconds. -/
def ofParts (seconds : UInt64) (nanoseconds : Nat) : Duration :=
  ofNanoseconds (seconds.toNat * second + nanoseconds)

/-- The time from `start` to `stop`; zero if `stop` is the earlier reading. -/
def since (stop start : Duration) : Duration :=
  ⟨stop.nanoseconds - start.nanoseconds, by have := stop.nanoseconds_lt; omega⟩

/-- The duration in seconds. Whole seconds and the fraction are converted each on its own, and
the sum is rounded once more. -/
def seconds (d : Duration) : Binary64 :=
  .ofNat (d.nanoseconds / second) + .ofNat (d.nanoseconds % second) / .ofNat second

end Duration

end ColdBuild
