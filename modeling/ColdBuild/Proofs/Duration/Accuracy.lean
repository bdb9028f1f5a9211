import ColdBuild.Duration
import ColdBuild.Proofs.Binary64.Accuracy

/-!
# How exact a mean of durations is

A time is at most two roundings away from its exact length in seconds (`seconds_within`), each of
the `n` additions of a total adds one, and the division by `n` adds the last. So a mean is at most
`n + 3` roundings away from the exact mean (`mean_within`). Neither a sum nor a quotient of times
comes near to infinity or leaves the normal magnitudes.
-/
namespace ColdBuild

open Binary64 (Within)

namespace Duration

/-- The exact length in seconds. -/
def exactSeconds (d : Duration) : ℚ := d.nanoseconds / 1000000000

theorem exactSeconds_nonneg (d : Duration) : 0 ≤ d.exactSeconds := by
  unfold exactSeconds
  positivity

theorem exactSeconds_le (d : Duration) : d.exactSeconds ≤ 2 ^ 64 := by
  have bound : d.nanoseconds ≤ 2 ^ 64 * 1000000000 := d.nanoseconds_lt.le
  rw [exactSeconds, div_le_iff₀ (by norm_num)]
  exact_mod_cast bound

/-- A time that is measured is not shorter than a nanosecond. -/
theorem exactSeconds_eq_zero_or_ge (d : Duration) :
    d.exactSeconds = 0 ∨ 1 / 1000000000 ≤ d.exactSeconds := by
  rcases Nat.eq_zero_or_pos d.nanoseconds with zero | pos
  · exact .inl (by simp [exactSeconds, zero])
  · exact .inr (div_le_div_of_nonneg_right (by exact_mod_cast pos) (by norm_num))

/-- The fraction of a second is converted exactly and divided with one rounding. -/
theorem fraction_within {rest : Nat} (lt : rest < 1000000000) :
    (Binary64.ofNat rest / Binary64.ofNat second).Within 1 (rest / (second : ℕ)) := by
  have whole : (Binary64.ofNat rest).Within 0 rest := Within.exactly_ofNat (by omega)
  have below : (rest : ℚ) < 1000000000 := by exact_mod_cast lt
  refine whole.div_ofNat (by decide) (by decide) ?_ ?_
  · rw [whole.toRat_eq, second, div_le_iff₀ (by norm_num)]
    norm_num
    linarith
  · rw [whole.toRat_eq, second]
    rcases Nat.eq_zero_or_pos rest with zero | pos
    · exact .inl (by exact_mod_cast zero)
    · right
      have least : (1 : ℚ) ≤ rest := by exact_mod_cast pos
      rw [le_div_iff₀ (by norm_num)]
      norm_num
      linarith

/-- Seconds and the fraction are converted with one rounding each and added with another. -/
theorem seconds_within (d : Duration) : d.seconds.Within 2 d.exactSeconds := by
  have bound : d.nanoseconds < 2 ^ 64 * 1000000000 := d.nanoseconds_lt
  obtain ⟨whole, whole_eq⟩ : ∃ whole, whole = d.nanoseconds / second := ⟨_, rfl⟩
  obtain ⟨rest, rest_eq⟩ : ∃ rest, rest = d.nanoseconds % second := ⟨_, rfl⟩
  have parts : d.nanoseconds = whole * 1000000000 + rest := by
    rw [whole_eq, rest_eq]
    exact (Nat.div_add_mod' _ _).symm
  have restBound : rest < 1000000000 := rest_eq ▸ Nat.mod_lt _ (by decide)
  have wholeWithin : (Binary64.ofNat whole).Within 1 whole := Within.ofNat (by omega)
  have fraction := fraction_within restBound
  have total : d.exactSeconds = whole + rest / (second : ℕ) := by
    rw [exactSeconds, parts, second]
    push_cast
    ring
  have wholeCast : (whole : ℚ) ≤ 2 ^ 64 := by exact_mod_cast (by omega : whole ≤ 2 ^ 64)
  have wholeSize := wholeWithin.toRat_le (by norm_num)
  have fractionSize := fraction.toRat_le (by norm_num)
  rw [total, seconds, ← whole_eq, ← rest_eq]
  refine wholeWithin.add fraction ?_
  have below : (rest / (second : ℕ) : ℚ) ≤ 1 := by
    rw [second, div_le_one (by norm_num)]
    exact_mod_cast restBound.le
  linarith

def total (times : List Duration) (sum : Binary64) : Binary64 :=
  times.foldl (fun sum time => sum + time.seconds) sum

def exactTotal (times : List Duration) : ℚ := (times.map exactSeconds).sum

theorem exactTotal_cons (time : Duration) (rest : List Duration) :
    exactTotal (time :: rest) = time.exactSeconds + exactTotal rest := by
  rw [exactTotal, List.map_cons, List.sum_cons, exactTotal]

theorem exactTotal_nonneg (times : List Duration) : 0 ≤ exactTotal times := by
  induction times with
  | nil => exact le_rfl
  | cons time rest ih =>
    rw [exactTotal_cons]
    exact add_nonneg time.exactSeconds_nonneg ih

theorem exactTotal_le (times : List Duration) : exactTotal times ≤ times.length * 2 ^ 64 := by
  induction times with
  | nil => simp [exactTotal]
  | cons time rest ih =>
    rw [exactTotal_cons, List.length_cons]
    push_cast
    linarith [time.exactSeconds_le]

theorem exactTotal_eq_zero_or_ge (times : List Duration) :
    exactTotal times = 0 ∨ 1 / 1000000000 ≤ exactTotal times := by
  induction times with
  | nil => exact .inl rfl
  | cons time rest ih =>
    rw [exactTotal_cons]
    have nonneg := time.exactSeconds_nonneg
    rcases time.exactSeconds_eq_zero_or_ge with zero | large
    · rwa [zero, zero_add]
    · exact .inr (by linarith [exactTotal_nonneg rest])

/-- Each time that is added to a total adds one rounding. -/
theorem total_within (times : List Duration) {sum : Binary64} {k : Nat} {q : ℚ}
    (within : sum.Within k q) (enough : 2 ≤ k) (few : k + times.length ≤ 2 ^ 53)
    (bounded : q + exactTotal times ≤ 2 ^ 190) :
    (total times sum).Within (k + times.length) (q + exactTotal times) := by
  induction times generalizing sum k q with
  | nil => simpa [total, exactTotal] using within
  | cons time rest ih =>
    rw [List.length_cons] at few ⊢
    rw [exactTotal_cons] at bounded ⊢
    have added : (sum + time.seconds).Within (k + 1) (q + time.exactSeconds) := by
      refine within.add (time.seconds_within.mono enough) ?_
      have sumSize := within.toRat_le (by omega)
      have timeSize := time.seconds_within.toRat_le (by norm_num)
      linarith [exactTotal_nonneg rest]
    rw [show k + (rest.length + 1) = k + 1 + rest.length by omega, ← add_assoc]
    exact ih added (by omega) (by omega) (by linarith)

/-- The mean of times is off by as many roundings as there are times, and three. -/
theorem mean_within {times : List Duration} (nonempty : times ≠ []) (few : times.length ≤ 2 ^ 52) :
    (total times .zero / .ofNat times.length).Within (times.length + 3)
      (exactTotal times / times.length) := by
  have pos : 0 < times.length := List.length_pos_iff.mpr nonempty
  have count : (1 : ℚ) ≤ times.length := by exact_mod_cast pos
  have fewCast : (times.length : ℚ) ≤ 2 ^ 52 := by exact_mod_cast few
  have bound := exactTotal_le times
  have sum : (total times .zero).Within (2 + times.length) (exactTotal times) := by
    have := total_within times (Within.zero 2) le_rfl (by omega) (by linarith)
    rwa [zero_add] at this
  have upper := sum.toRat_le (by omega)
  have nonneg := sum.toRat_nonneg
  rw [show times.length + 3 = 2 + times.length + 1 by omega]
  refine sum.div_ofNat pos (by omega) ?_ ?_
  · rw [div_le_iff₀ (by linarith)]
    linarith
  · rcases exactTotal_eq_zero_or_ge times with zero | large
    · exact .inl (by linarith)
    · right
      have least := sum.quarter_le (by omega)
      rw [le_div_iff₀ (by linarith)]
      linarith

end Duration

end ColdBuild
