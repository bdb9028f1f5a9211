import ColdBuild.Regex.Captures
import Mathlib.Logic.Function.Iterate

/-!
# Matching by sets of places

Whether an expression matches a text from one place to another is said by recursion on the
expression (`Expression.Matches`), without sets and without a bound on repetitions. The engine works
on sets of places, held as numbers, and stops repeating when nothing is added. It finds exactly the
places where such matches end (`Expression.testBit_ends`), so an expression is found in a text if
and only if it matches some part of it (`Expression.isFoundIn_iff`), and the match that is taken at
a place is the longest (`Expression.group?_of_matchAt`).

Matches never go back. That is why as many repetitions as there are places are enough: those that
do not advance can be left out.
-/
namespace ColdBuild.Regex

/-- An atom matches from one place to another: a character, or nothing at a place of its kind. -/
def Atom.Matches (text : List Char) : Atom → Nat → Nat → Prop
  | .within ranges, i, k => k = i + 1 ∧ ∃ c, text[i]? = some c ∧ ranges.has c = true
  | .place kind, i, k => k = i ∧ i ≤ text.length ∧
    kind.holds (if i = 0 then none else text[i - 1]?) text[i]? = true

/-- So many steps one after another. -/
def Repeated (step : Nat → Nat → Prop) : Nat → Nat → Nat → Prop
  | 0, i, k => i = k
  | count + 1, i, k => ∃ j, step i j ∧ Repeated step count j k

/-- An expression matches a text from one place to another. A part may be repeated any number of
times from `least` to `most`, and just `least` times where `most` is smaller. -/
def Expression.Matches (text : List Char) : Expression Atom → Nat → Nat → Prop
  | .empty, i, k => i = k
  | .atom a, i, k => a.Matches text i k
  | .concat first second, i, k => ∃ j, first.Matches text i j ∧ second.Matches text j k
  | .either first second, i, k => first.Matches text i k ∨ second.Matches text i k
  | .times least most body, i, k => ∃ count, least ≤ count ∧
    (∀ m, most = some m → count ≤ max least m) ∧ Repeated (body.Matches text) count i k
  | .captured _ body, i, k => body.Matches text i k

section

variable {step : Nat → Nat → Prop} {i j k m n : Nat}

theorem repeated_add :
    Repeated step (m + n) i k ↔ ∃ j, Repeated step m i j ∧ Repeated step n j k := by
  induction m generalizing i with
  | zero => simp [Repeated]
  | succ m ih =>
    rw [Nat.add_right_comm]
    simp only [Repeated, ih]
    constructor
    · rintro ⟨j, first, h, more, last⟩
      exact ⟨h, ⟨j, first, more⟩, last⟩
    · rintro ⟨h, ⟨j, first, more⟩, last⟩
      exact ⟨j, first, h, more, last⟩

/-- Steps that do not go back, and that stay within a length where they go on. -/
def Advancing (length : Nat) (step : Nat → Nat → Prop) : Prop :=
  ∀ i k, step i k → i ≤ k ∧ (i < k → k ≤ length)

/-- Steps from a place in a text lead to places in the text. -/
theorem Advancing.le_length {length : Nat} (advancing : Advancing length step) (first : step i k)
    (within : i ≤ length) : k ≤ length := by
  obtain ⟨le, further⟩ := advancing i k first
  rcases Nat.lt_or_eq_of_le le with lt | rfl
  · exact further lt
  · exact within

theorem Advancing.stay {length : Nat} : Advancing length (· = ·) := by
  rintro i k rfl
  exact ⟨Nat.le_refl _, fun lt => (Nat.lt_irrefl _ lt).elim⟩

theorem Advancing.comp {length : Nat} {step' : Nat → Nat → Prop} (first : Advancing length step)
    (second : Advancing length step') : Advancing length fun i k => ∃ j, step i j ∧ step' j k := by
  rintro i k ⟨j, left, right⟩
  obtain ⟨le, within⟩ := first i j left
  obtain ⟨le', within'⟩ := second j k right
  refine ⟨Nat.le_trans le le', fun lt => ?_⟩
  rcases Nat.lt_or_eq_of_le le' with further | rfl
  · exact within' further
  · exact within lt

theorem Advancing.repeated {length : Nat} (advancing : Advancing length step) (n : Nat) :
    Advancing length (Repeated step n) := by
  induction n with
  | zero => exact .stay
  | succ n ih => exact advancing.comp ih

/-- Repetitions that do not advance can be left out, and then there are no more than places. -/
theorem Advancing.exists_repeated_le {length : Nat} (advancing : Advancing length step)
    (steps : Repeated step n i k) : ∃ m ≤ k - i, Repeated step m i k := by
  induction n generalizing i with
  | zero =>
    obtain rfl : i = k := steps
    exact ⟨0, Nat.zero_le _, rfl⟩
  | succ n ih =>
    obtain ⟨j, first, more⟩ := steps
    obtain ⟨m, few, steps⟩ := ih more
    have le := (advancing i j first).1
    have le' := (advancing.repeated n j k more).1
    rcases Nat.lt_or_eq_of_le le with advances | rfl
    · exact ⟨m + 1, by omega, j, first, steps⟩
    · exact ⟨m, few, steps⟩

theorem Advancing.exists_repeated_le_length {length : Nat} (advancing : Advancing length step)
    (steps : Repeated step n i k) : ∃ m ≤ length + 1, Repeated step m i k := by
  obtain ⟨m, few, fewer⟩ := advancing.exists_repeated_le steps
  have within := (advancing.repeated n i k steps).2
  exact ⟨m, by omega, fewer⟩

end

/-- A function on sets of places does what a step between places does. -/
def Leads (set : Nat → Nat) (step : Nat → Nat → Prop) : Prop :=
  ∀ places k, (set places).testBit k = true ↔ ∃ i, places.testBit i = true ∧ step i k

section

variable {set : Nat → Nat} {step : Nat → Nat → Prop}

theorem Leads.iterate (leads : Leads set step) (count : Nat) :
    Leads set^[count] (Repeated step count) := by
  induction count with
  | zero =>
    intro places k
    simp [Repeated]
  | succ count ih =>
    intro places k
    rw [Function.iterate_succ_apply, ih]
    simp only [leads places, Repeated]
    constructor
    · rintro ⟨j, ⟨i, start, first⟩, more⟩
      exact ⟨i, start, j, first, more⟩
    · rintro ⟨i, start, j, first, more⟩
      exact ⟨j, ⟨i, start, first⟩, more⟩

/-- Keeping the places where a step began makes of so many steps at most so many. -/
theorem Leads.iterate_or (leads : Leads set step) (count : Nat) :
    Leads (fun places => places ||| set places)^[count]
      (fun i k => ∃ m ≤ count, Repeated step m i k) := by
  induction count with
  | zero =>
    intro places k
    simp [Repeated]
  | succ count ih =>
    intro places k
    rw [Function.iterate_succ_apply, ih]
    simp only [Nat.testBit_or, Bool.or_eq_true, leads places]
    constructor
    · rintro ⟨j, start | ⟨i, start, first⟩, m, few, more⟩
      · exact ⟨j, start, m, by omega, more⟩
      · exact ⟨i, start, m + 1, by omega, j, first, more⟩
    · rintro ⟨i, start, m, few, steps⟩
      cases m with
      | zero => exact ⟨i, .inl start, 0, Nat.zero_le _, steps⟩
      | succ m =>
        obtain ⟨j, first, more⟩ := steps
        exact ⟨j, .inr ⟨i, start, first⟩, m, by omega, more⟩

end

/-- Stopping where nothing changes any more leaves out nothing. -/
theorem Expression.iterate_eq (set : Nat → Nat) (count places : Nat) :
    iterate set count places = set^[count] places := by
  induction count generalizing places with
  | zero => rfl
  | succ count ih =>
    rw [iterate, Function.iterate_succ_apply]
    split
    · next same => rw [same, Function.iterate_fixed same]
    · exact ih _

theorem testBit_ofBits (bits : List Bool) (i : Nat) :
    (ofBits bits).testBit i = bits[i]?.getD false := by
  induction bits generalizing i with
  | nil => simp [ofBits]
  | cons bit rest ih =>
    cases i with
    | zero => cases bit <;> simp [ofBits, Nat.testBit_zero]
    | succ i =>
      have half : ofBits (bit :: rest) / 2 = ofBits rest := by
        rw [ofBits]
        split <;> omega
      rw [Nat.testBit_succ, half, ih, List.getElem?_cons_succ]

/-- The characters in front of the places of a text and behind them. -/
theorem getElem?_before (text : List Char) {i : Nat} (within : i ≤ text.length) :
    (none :: text.map some)[i]? = some (if i = 0 then none else text[i - 1]?) := by
  cases i with
  | zero => rfl
  | succ i =>
    rw [List.getElem?_cons_succ, List.getElem?_map, List.getElem?_eq_getElem within]
    simp [List.getElem?_eq_getElem within]

theorem getElem?_behind (text : List Char) {i : Nat} (within : i ≤ text.length) :
    (text.map some ++ [none])[i]? = some text[i]? := by
  rcases Nat.lt_or_eq_of_le within with before | rfl
  · rw [List.getElem?_append_left (by simpa using before), List.getElem?_map,
      List.getElem?_eq_getElem before]
    rfl
  · simp

theorem Atom.leads_mask (text : List Char) (a : Atom) :
    Leads (Expression.ends text.length (.atom (a.mask text))) (a.Matches text) := by
  intro places k
  cases a with
  | within ranges =>
    simp only [Expression.ends, mask, Matches, if_true, Nat.testBit_shiftLeft, Nat.testBit_and,
      testBit_ofBits, List.getElem?_map, Bool.and_eq_true, decide_eq_true_eq]
    constructor
    · rintro ⟨pos, start, has⟩
      refine ⟨k - 1, start, by omega, ?_⟩
      cases char : text[k - 1]? with
      | none => simp [char] at has
      | some c => exact ⟨c, rfl, by simpa [char] using has⟩
    · rintro ⟨i, start, rfl, c, char, has⟩
      simp [start, char, has]
  | place kind =>
    simp only [Expression.ends, mask, Matches, Bool.false_eq_true, if_false, Nat.testBit_and,
      testBit_ofBits, Bool.and_eq_true, List.getElem?_zipWith]
    by_cases within : k ≤ text.length
    · rw [getElem?_before text within, getElem?_behind text within]
      constructor
      · rintro ⟨start, holds⟩
        exact ⟨k, start, rfl, within, holds⟩
      · rintro ⟨i, start, rfl, -, holds⟩
        exact ⟨start, holds⟩
    · have outside : (none :: text.map some)[k]? = none := by
        rw [List.getElem?_eq_none_iff, List.length_cons, List.length_map]
        omega
      rw [outside]
      constructor
      · rintro ⟨-, holds⟩
        cases holds
      · rintro ⟨i, -, rfl, inside, -⟩
        exact (within inside).elim

namespace Expression

/-- Matches never go back, and stay within the text where they go on. -/
theorem advancing (text : List Char) (e : Expression Atom) :
    Advancing text.length (e.Matches text) := by
  induction e with
  | empty => exact .stay
  | atom a =>
    intro i k matched
    cases a with
    | within ranges =>
      obtain ⟨rfl, c, char, -⟩ := matched
      have inside := (List.getElem?_eq_some_iff.mp char).1
      exact ⟨Nat.le_succ _, fun _ => inside⟩
    | place kind => exact Advancing.stay i k matched.1.symm
  | concat first second ih ih' => exact ih.comp ih'
  | either first second ih ih' =>
    rintro i k (left | right)
    · exact ih i k left
    · exact ih' i k right
  | times least most body ih =>
    rintro i k ⟨count, -, -, steps⟩
    exact ih.repeated count i k steps
  | captured index body ih => exact ih

/-- How often a part may be repeated beyond the least number; places that can be reached at all are
reached in no more steps than there are places. -/
def further (text : List Char) (least : Nat) : Option Nat → Nat
  | none => text.length + 1
  | some most => most - least

/-- From a set of places the engine finds exactly the places where matches from there end. -/
theorem testBit_ends (text : List Char) (e : Expression Atom) :
    Leads ((e.on text).ends text.length) (e.Matches text) := by
  induction e with
  | empty =>
    intro places k
    simp [on, map, ends, Matches]
  | atom a => exact a.leads_mask text
  | concat first second ih ih' =>
    intro places k
    change ((second.on text).ends _ ((first.on text).ends _ places)).testBit k = true ↔ _
    rw [ih']
    simp only [ih places, Matches]
    constructor
    · rintro ⟨j, ⟨i, start, left⟩, right⟩
      exact ⟨i, start, j, left, right⟩
    · rintro ⟨i, start, j, left, right⟩
      exact ⟨j, ⟨i, start, left⟩, right⟩
  | either first second ih ih' =>
    intro places k
    change ((first.on text).ends _ places ||| (second.on text).ends _ places).testBit k = true ↔ _
    simp only [Nat.testBit_or, Bool.or_eq_true, ih places, ih' places, Matches]
    constructor
    · rintro (⟨i, start, left⟩ | ⟨i, start, right⟩)
      · exact ⟨i, start, .inl left⟩
      · exact ⟨i, start, .inr right⟩
    · rintro ⟨i, start, left | right⟩
      · exact .inl ⟨i, start, left⟩
      · exact .inr ⟨i, start, right⟩
  | times least most body ih =>
    intro places k
    change (iterate (fun places => places ||| (body.on text).ends text.length places) (further text
      least most) (iterate ((body.on text).ends text.length) least places)).testBit k = true ↔ _
    rw [iterate_eq, iterate_eq, ih.iterate_or]
    simp only [ih.iterate least places, Matches]
    constructor
    · rintro ⟨j, ⟨i, start, first⟩, m, few, more⟩
      refine ⟨i, start, least + m, Nat.le_add_right _ _, ?_, repeated_add.mpr ⟨j, first, more⟩⟩
      rintro most rfl
      have few : m ≤ most - least := few
      omega
    · rintro ⟨i, start, count, le, limit, steps⟩
      obtain ⟨m, rfl⟩ := Nat.exists_eq_add_of_le le
      obtain ⟨j, first, more⟩ := repeated_add.mp steps
      refine ⟨j, ⟨i, start, first⟩, ?_⟩
      cases most with
      | none => exact (advancing text body).exists_repeated_le_length more
      | some most =>
        have few := limit most rfl
        exact ⟨m, show m ≤ most - least by omega, more⟩
  | captured index body ih => exact ih

/-- An expression is found in a text if and only if it matches some part of it. -/
theorem isFoundIn_iff (e : Expression Atom) (text : String) :
    e.isFoundIn text = true ↔ ∃ i k, i ≤ text.toList.length ∧ e.Matches text.toList i k := by
  have starts (i : Nat) : (1 <<< (text.toList.length + 1) - 1).testBit i = true ↔
      i ≤ text.toList.length := by
    rw [Nat.one_shiftLeft, Nat.testBit_two_pow_sub_one, decide_eq_true_eq, Nat.lt_succ_iff]
  have found := testBit_ends text.toList e (1 <<< (text.toList.length + 1) - 1)
  simp only [starts] at found
  rw [isFoundIn, decide_eq_true_eq]
  constructor
  · intro some
    obtain ⟨k, set⟩ := Nat.exists_testBit_of_ne_zero some
    obtain ⟨i, within, matched⟩ := (found k).mp set
    exact ⟨i, k, within, matched⟩
  · rintro ⟨i, k, within, matched⟩ none
    have set := (found k).mpr ⟨i, within, matched⟩
    rw [none, Nat.zero_testBit] at set
    cases set

end Expression

end ColdBuild.Regex
