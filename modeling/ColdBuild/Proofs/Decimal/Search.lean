import ColdBuild.Proofs.Binary64.Order
import ColdBuild.Proofs.Decimal.Digits

/-!
# The search finds the shortest decimal and the nearest of those

The decimals that name a magnitude lie around it without a gap (`code_of_between`). So if any point
of a grid names it, the search finds a point of that grid that is not farther away
(`onGrid_of_named`). A name of `k` digits is a point of the grid `k` digits below the first one, or
it is so small that a power of ten is a better name (`exists_on_grid`). Together: no name has fewer
digits than the shortest decimal, and none with as few is nearer (`shortest_spec`).
-/
namespace ColdBuild

def Binary64.valueOf (code : Nat) : ℚ := units code / one

theorem Binary64.valueOf_pos {code : Nat} (pos : 0 < code) : 0 < valueOf code := by
  have positive : 0 < units code := units_zero ▸ units_strictMono pos
  have scale : (0 : ℚ) < one := by exact_mod_cast one_pos
  exact div_pos (by exact_mod_cast positive) scale

namespace Decimal

open Binary64 (units one infinityCode valueOf)

section

variable {d g : Decimal} {code : Nat}

theorem valueOf_mul_one (code : Nat) : valueOf code * one = (units code / (1 : ℕ) : ℚ) := by
  have scale : (one : ℚ) ≠ 0 := by exact_mod_cast Binary64.one_pos.ne'
  rw [valueOf, div_mul_cancel₀ _ scale, Nat.cast_one, div_one]

/-- A greater decimal is not rounded to a smaller code. -/
theorem code_mono (le : d.toRat ≤ g.toRat) : d.code ≤ g.code := by
  refine Binary64.nearestCode_mono d.den_pos g.den_pos ?_
  rw [code_fraction, code_fraction]
  exact mul_le_mul_of_nonneg_right le (Nat.cast_nonneg one)

/-- Rounding does not pass a magnitude. -/
theorem code_le_of_le (finite : code < infinityCode) (le : d.toRat ≤ valueOf code) :
    d.code ≤ code := by
  rw [← Binary64.nearestCode_units finite.le]
  refine Binary64.nearestCode_mono d.den_pos Nat.one_pos ?_
  rw [code_fraction, ← valueOf_mul_one]
  exact mul_le_mul_of_nonneg_right le (Nat.cast_nonneg one)

theorem le_code_of_le (finite : code < infinityCode) (le : valueOf code ≤ d.toRat) :
    code ≤ d.code := by
  rw [← Binary64.nearestCode_units finite.le]
  refine Binary64.nearestCode_mono Nat.one_pos d.den_pos ?_
  rw [code_fraction, ← valueOf_mul_one]
  exact mul_le_mul_of_nonneg_right le (Nat.cast_nonneg one)

/-- What lies between a magnitude and a name of it is a name of it. -/
theorem code_of_between (finite : code < infinityCode) (named : g.code = code)
    (between : g.toRat ≤ d.toRat ∧ d.toRat ≤ valueOf code ∨
      valueOf code ≤ d.toRat ∧ d.toRat ≤ g.toRat) : d.code = code := by
  rcases between with ⟨lower, upper⟩ | ⟨lower, upper⟩
  · exact Nat.le_antisymm (code_le_of_le finite upper) (named ▸ code_mono lower)
  · exact Nat.le_antisymm (named ▸ code_mono upper) (le_code_of_le finite lower)

/-- A name of a positive magnitude is positive. -/
theorem toRat_pos_of_named (pos : 0 < code) (named : d.code = code) : 0 < d.toRat := by
  refine toRat_pos (Nat.pos_of_ne_zero fun zero => ?_)
  rw [code_zero zero] at named
  omega

end

section

variable {tie : Tie} {code : Nat} {position : Int} {d g : Decimal}

theorem toRat_le_toRat {point other : Nat} :
    toRat ⟨point, position⟩ ≤ toRat ⟨other, position⟩ ↔ point ≤ other := by
  have step : (0 : ℚ) < 10 ^ position := zpow_pos (by norm_num) position
  rw [toRat, toRat, mul_le_mul_iff_of_pos_right step, Nat.cast_le]

/-- The points of a grid that are not above a value are those up to its whole steps. -/
theorem toRat_le_steps_iff {point other : Nat} {rest : ℚ} (atLeast : 0 ≤ rest)
    (lessThan : rest < 1) :
    toRat ⟨other, position⟩ ≤ (point + rest) * 10 ^ position ↔ other ≤ point := by
  have step : (0 : ℚ) < 10 ^ position := zpow_pos (by norm_num) position
  rw [toRat, mul_le_mul_iff_of_pos_right step]
  constructor
  · intro le
    have strict : (other : ℚ) < (point + 1 : ℕ) := by
      push_cast
      linarith
    exact Nat.lt_succ_iff.mp (by exact_mod_cast strict)
  · intro le
    have order : (other : ℚ) ≤ point := by exact_mod_cast le
    linarith

/-- The two points of a grid are the last one that is not above the value and the next. -/
theorem exists_point (tie : Tie) (code : Nat) (position : Int) :
    ∃ point : Nat, (∀ other, toRat ⟨other, position⟩ ≤ valueOf code ↔ other ≤ point) ∧
      ∀ d, (d = (neighbours tie (units code) position).1 ∨
          d = (neighbours tie (units code) position).2) ↔
        d = ⟨point, position⟩ ∨ d = ⟨point + 1, position⟩ := by
  obtain ⟨point, rest, atLeast, lessThan, value, order⟩ :=
    neighbours_cases tie (units code) position
  refine ⟨point, fun other => ?_, fun d => ?_⟩
  · rw [valueOf, value]
    exact toRat_le_steps_iff atLeast lessThan
  · rcases order with ⟨points, -⟩ | ⟨points, -⟩ <;> rw [points]
    exact or_comm

/-- If a point of a grid names the magnitude, so does one of the two points around it, and that
one is not farther away. -/
theorem exists_neighbour (tie : Tie) {other : Nat} (finite : code < infinityCode)
    (named : Decimal.code ⟨other, position⟩ = code) :
    ∃ d, (d = (neighbours tie (units code) position).1 ∨
        d = (neighbours tie (units code) position).2) ∧
      d.code = code ∧ |d.toRat - valueOf code| ≤ |toRat ⟨other, position⟩ - valueOf code| := by
  obtain ⟨point, below, mem⟩ := exists_point tie code position
  obtain ⟨d, is, between⟩ : ∃ d : Decimal, (d = ⟨point, position⟩ ∨ d = ⟨point + 1, position⟩) ∧
      (toRat ⟨other, position⟩ ≤ d.toRat ∧ d.toRat ≤ valueOf code ∨
        valueOf code ≤ d.toRat ∧ d.toRat ≤ toRat ⟨other, position⟩) := by
    rcases Nat.lt_or_ge point other with above | notAbove
    · have next : valueOf code < toRat ⟨point + 1, position⟩ :=
        not_le.mp (mt (below _).mp (Nat.not_succ_le_self point))
      exact ⟨_, .inr rfl, .inr ⟨next.le, toRat_le_toRat.mpr above⟩⟩
    · exact ⟨_, .inl rfl, .inl ⟨toRat_le_toRat.mpr notAbove, (below _).mpr le_rfl⟩⟩
  refine ⟨d, (mem d).mpr is, code_of_between finite named between, ?_⟩
  rcases between with ⟨lower, upper⟩ | ⟨lower, upper⟩
  · rw [abs_of_nonpos (sub_nonpos.mpr upper), abs_of_nonpos (sub_nonpos.mpr (lower.trans upper))]
    linarith
  · rw [abs_of_nonneg (sub_nonneg.mpr lower), abs_of_nonneg (sub_nonneg.mpr (lower.trans upper))]
    linarith

/-- The hit on a grid that has a name is not farther away than this name. -/
theorem onGrid_of_named (tie : Tie) {other : Nat} (finite : code < infinityCode)
    (named : Decimal.code ⟨other, position⟩ = code) :
    ∃ d, onGrid tie code position = some d ∧
      |d.toRat - valueOf code| ≤ |toRat ⟨other, position⟩ - valueOf code| := by
  obtain ⟨d, mem, hit, near⟩ := exists_neighbour tie finite named
  have order := (neighbours_error tie (units code) position).2
  rw [← valueOf] at order
  simp only [onGrid]
  split
  · refine ⟨_, rfl, le_trans ?_ near⟩
    rcases mem with rfl | rfl
    · exact le_rfl
    · exact order
  · next other =>
    rcases mem with rfl | rfl
    · exact absurd hit other
    · exact ⟨_, if_pos hit, near⟩

/-- A hit is one of the two points. -/
theorem significand_of_onGrid (hit : onGrid tie code position = some d) :
    d.exponent = position ∧ ∃ point, d.significand ≤ point + 1 ∧
      toRat ⟨point, position⟩ ≤ valueOf code := by
  obtain ⟨point, below, mem⟩ := exists_point tie code position
  have is : d = (neighbours tie (units code) position).1 ∨
      d = (neighbours tie (units code) position).2 := by
    simp only [onGrid] at hit
    split at hit
    · exact .inl (Option.some.inj hit).symm
    · split at hit
      · exact .inr (Option.some.inj hit).symm
      · cases hit
  rcases (mem d).mp is with rfl | rfl
  · exact ⟨rfl, point, Nat.le_succ point, (below _).mpr le_rfl⟩
  · exact ⟨rfl, point, le_rfl, (below _).mpr le_rfl⟩

end

section

variable {code : Nat}

/-- A hit on the grid `places` below the first digit has one digit more than that. -/
theorem hasDigits_of_onGrid {tie : Tie} {places : Nat} {d : Decimal}
    (hit : onGrid tie code (leadingPosition (units code) - places) = some d) :
    HasDigits (places + 1) d.toRat := by
  obtain ⟨position, point, le, below⟩ := significand_of_onGrid hit
  have scale : (0 : ℚ) < 10 := by norm_num
  have small : (point : ℚ) < (10 ^ (places + 1) : ℕ) := by
    refine lt_of_mul_lt_mul_right ?_ (zpow_pos scale (leadingPosition (units code) - places)).le
    calc (point : ℚ) * 10 ^ (leadingPosition (units code) - places) ≤ valueOf code := below
      _ < 10 ^ (leadingPosition (units code) + 1) := lt_pow_leadingPosition (units code)
      _ = (10 ^ (places + 1) : ℕ) * 10 ^ (leadingPosition (units code) - places) := by
        rw [Nat.cast_pow, Nat.cast_ofNat, ← zpow_natCast, ← zpow_add₀ scale.ne']
        congr 1
        push_cast
        ring
  refine HasDigits.of_le (Nat.succ_pos places) (le.trans ?_)
  exact Nat.succ_le_of_lt (by exact_mod_cast small)

/-- A name of few digits is a point of a coarse grid, or else a power of ten is a better name. -/
theorem exists_on_grid {places : Nat} {g : Decimal} (pos : 0 < code) (finite : code < infinityCode)
    (named : g.code = code) (digits : HasDigits (places + 1) g.toRat) :
    ∃ point, Decimal.code ⟨point, leadingPosition (units code) - places⟩ = code ∧
      |toRat ⟨point, leadingPosition (units code) - places⟩ - valueOf code| ≤
        |g.toRat - valueOf code| := by
  obtain ⟨⟨significand, exponent⟩, lt, value⟩ := digits
  have scale : (10 : ℚ) ≠ 0 := by norm_num
  have positive : 0 < units code := Binary64.units_zero ▸ Binary64.units_strictMono pos
  have first : (10 : ℚ) ^ leadingPosition (units code) ≤ valueOf code :=
    le_leadingPosition positive
  rcases le_or_gt (leadingPosition (units code) - places) exponent with coarser | finer
  · obtain ⟨zeros, distance⟩ := Int.eq_ofNat_of_zero_le (Int.sub_nonneg_of_le coarser)
    have same : toRat ⟨significand * 10 ^ zeros, leadingPosition (units code) - places⟩ =
        g.toRat := by
      rw [← value, toRat, toRat]
      dsimp only
      rw [show exponent = leadingPosition (units code) - places + (zeros : ℕ) by omega,
        zpow_add₀ scale, zpow_natCast]
      push_cast
      ring
    exact ⟨_, (code_congr same).trans named, by rw [same]⟩
  · -- then it is less than the power of ten at the first digit
    have power : toRat ⟨10 ^ places, leadingPosition (units code) - places⟩ =
        10 ^ leadingPosition (units code) := by
      rw [toRat, Nat.cast_pow, Nat.cast_ofNat, ← zpow_natCast, ← zpow_add₀ scale]
      congr 1
      ring
    have small : g.toRat ≤ 10 ^ leadingPosition (units code) := by
      have exponents : exponent + (places + 1 : ℕ) ≤ leadingPosition (units code) := by
        push_cast
        omega
      calc g.toRat = significand * 10 ^ exponent := value.symm
        _ ≤ (10 ^ (places + 1) : ℕ) * 10 ^ exponent :=
          mul_le_mul_of_nonneg_right (by exact_mod_cast lt.le) (zpow_pos (by norm_num) _).le
        _ = 10 ^ (exponent + (places + 1 : ℕ)) := by
          rw [zpow_add₀ scale, zpow_natCast, mul_comm, Nat.cast_pow, Nat.cast_ofNat]
        _ ≤ 10 ^ leadingPosition (units code) := zpow_le_zpow_right₀ (by norm_num) exponents
    refine ⟨10 ^ places, code_of_between finite named (.inl ?_), ?_⟩
    · rw [power]
      exact ⟨small, first⟩
    · rw [power, abs_of_nonpos (sub_nonpos.mpr first),
        abs_of_nonpos (sub_nonpos.mpr (small.trans first))]
      linarith

/-- No name has fewer digits than the shortest decimal, and none with as few is nearer. -/
theorem shortest_spec (tie : Tie) {k : Nat} {g : Decimal} (pos : 0 < code)
    (finite : code < infinityCode) (named : g.code = code) (digits : HasDigits k g.toRat) :
    HasDigits k (shortest tie code).toRat ∧
      ((∀ j, HasDigits j (shortest tie code).toRat → k ≤ j) →
        |(shortest tie code).toRat - valueOf code| ≤ |g.toRat - valueOf code|) := by
  obtain ⟨places, rfl⟩ : ∃ places, k = places + 1 :=
    Nat.exists_eq_succ_of_ne_zero (digits.pos (toRat_pos_of_named pos named)).ne'
  rcases Nat.lt_or_ge places 17 with small | large
  · obtain ⟨point, onGrid, near⟩ := exists_on_grid pos finite named digits
    obtain ⟨d, hit, nearer⟩ := onGrid_of_named tie finite onGrid
    obtain ⟨first, le, found⟩ := exists_shortest small (Option.isSome_of_eq_some hit)
    have fewer := hasDigits_of_onGrid found
    refine ⟨fewer.mono (Nat.succ_le_succ le), fun least => ?_⟩
    -- then the search has gone as far as the grid of the name
    obtain rfl : first = places := Nat.le_antisymm le (Nat.le_of_succ_le_succ (least _ fewer))
    obtain rfl : shortest tie code = d := Option.some.inj (found.symm.trans hit)
    exact nearer.trans near
  · obtain ⟨first, le, found⟩ :=
      exists_shortest (by decide : 16 < 17) (isSome_onGrid (code_nearer tie pos finite))
    have fewer := hasDigits_of_onGrid found
    refine ⟨fewer.mono (by omega), fun least => ?_⟩
    have most := least _ fewer
    omega

/-- A power of ten has one digit, so the shortest decimal is not farther away than a power of ten
that names the magnitude. -/
theorem shortest_le_pow (tie : Tie) {e : Int} (pos : 0 < code) (finite : code < infinityCode)
    (named : Decimal.code ⟨1, e⟩ = code) :
    |(shortest tie code).toRat - valueOf code| ≤ |10 ^ e - valueOf code| := by
  have power : toRat ⟨1, e⟩ = 10 ^ e := by
    rw [toRat, Nat.cast_one, one_mul]
  have digits : HasDigits 1 (toRat ⟨1, e⟩) :=
    ⟨⟨1, e⟩, Nat.one_lt_pow one_ne_zero (by decide), rfl⟩
  obtain ⟨-, near⟩ := shortest_spec tie pos finite named digits
  have positive := toRat_pos_of_named pos (code_shortest tie pos finite)
  rw [← power]
  exact near fun j digits => digits.pos positive

end

end Decimal

end ColdBuild
