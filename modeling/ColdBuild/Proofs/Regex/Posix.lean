import ColdBuild.Proofs.Outcome
import ColdBuild.Proofs.Regex.Longest
import ColdBuild.Regex.Posix

/-!
# The older syntaxes have leftmost longest matches

Counts in braces are read only if they are in order, so no expression that is read has a part whose
greatest number of repetitions is below its least (`Posix.bounded_compile`). What is found with an
expression of these syntaxes is therefore the leftmost longest match, whatever the pattern was
(`Posix.group?_of_findFrom_compile`).
-/
namespace ColdBuild.Regex

theorem Expression.bounded_of_plain? {e : Expression Symbol} {p : Expression Atom}
    (plain : e.plain? = some p) (bounded : e.Bounded) : p.Bounded := by
  induction e generalizing p with
  | empty =>
    cases plain
    trivial
  | atom a =>
    cases a with
    | plain a =>
      cases plain
      trivial
    | back group => cases plain
  | concat first second ih ih' =>
    obtain ⟨p₁, p₂, left, right, rfl⟩ := plain?_concat plain
    exact ⟨ih left bounded.1, ih' right bounded.2⟩
  | either first second ih ih' =>
    obtain ⟨p₁, p₂, left, right, rfl⟩ := plain?_either plain
    exact ⟨ih left bounded.1, ih' right bounded.2⟩
  | times least most body ih =>
    obtain ⟨q, inner, rfl⟩ := plain?_times plain
    exact ⟨bounded.1, ih inner bounded.2⟩
  | captured index body ih =>
    obtain ⟨q, inner, rfl⟩ := plain?_captured plain
    exact @ih q inner bounded

namespace Posix

open Expression (Bounded)

def Level.Bounded (level : Level) : Prop :=
  (∀ e ∈ level.branches, e.Bounded) ∧ ∀ e ∈ level.parts, e.Bounded

theorem Level.Bounded.branch {level : Level} (bounded : level.Bounded) : level.branch.Bounded := by
  obtain ⟨-, parts⟩ := bounded
  unfold Level.branch
  split
  · trivial
  · next last rest same =>
    rw [same, List.forall_mem_cons] at parts
    obtain ⟨start, others⟩ := parts
    clear same
    induction rest generalizing last with
    | nil => exact start
    | cons part rest ih =>
      rw [List.forall_mem_cons] at others
      exact ih (.concat part last) ⟨others.1, start⟩ others.2

theorem Level.Bounded.whole {level : Level} (bounded : level.Bounded) : level.whole.Bounded := by
  have last := bounded.branch
  obtain ⟨branches, -⟩ := bounded
  unfold Level.whole
  generalize level.branch = later at last
  generalize level.branches = rest at branches
  induction rest generalizing later with
  | nil => exact last
  | cons earlier rest ih =>
    rw [List.forall_mem_cons] at branches
    exact ih (.either earlier later) ⟨branches.1, last⟩ branches.2

def Progress.Bounded (progress : Progress) : Prop :=
  progress.level.Bounded ∧ ∀ level ∈ progress.outer, level.Bounded

namespace Progress.Bounded

variable {progress : Progress}

theorem add (bounded : progress.Bounded) {part : Expression Symbol} (one : part.Bounded) :
    (progress.add part).Bounded :=
  ⟨⟨bounded.1.1, List.forall_mem_cons.mpr ⟨one, bounded.1.2⟩⟩, bounded.2⟩

theorem repeatLast (bounded : progress.Bounded) {least : Nat} {most : Option Nat}
    (order : ∀ m, most = some m → least ≤ m) : (progress.repeatLast least most).Bounded := by
  unfold Progress.repeatLast
  split
  · next last rest same =>
    have parts := bounded.1.2
    rw [same, List.forall_mem_cons] at parts
    exact ⟨⟨bounded.1.1, List.forall_mem_cons.mpr ⟨⟨order, parts.1⟩, parts.2⟩⟩, bounded.2⟩
  · exact bounded

/-- A group is opened. -/
theorem nested (bounded : progress.Bounded) (group groups : Nat) (closed : List Nat) :
    (⟨{ group }, progress.level :: progress.outer, groups, closed⟩ : Progress).Bounded := by
  refine ⟨⟨?_, ?_⟩, List.forall_mem_cons.mpr bounded⟩
  · exact fun _ mem => (List.not_mem_nil mem).elim
  · exact fun _ mem => (List.not_mem_nil mem).elim

/-- A group is closed, and is a part of the level that it was opened on. -/
theorem joined (bounded : progress.Bounded) {level : Level} {outer : List Level}
    (levels : progress.outer = level :: outer) (group groups : Nat) (closed : List Nat) :
    (⟨{ level with parts := .captured group progress.level.whole :: level.parts }, outer, groups,
      closed⟩ : Progress).Bounded := by
  obtain ⟨inner, others⟩ := bounded
  rw [levels, List.forall_mem_cons] at others
  have body : (Expression.captured group progress.level.whole).Bounded := inner.whole
  exact ⟨⟨others.1.1, List.forall_mem_cons.mpr ⟨body, others.1.2⟩⟩, others.2⟩

/-- A branch ends, and another one begins. -/
theorem branched (bounded : progress.Bounded) :
    ({ progress with level := { progress.level with
      branches := progress.level.branch :: progress.level.branches, parts := [] } } :
        Progress).Bounded := by
  refine ⟨⟨List.forall_mem_cons.mpr ⟨bounded.1.branch, bounded.1.1⟩, ?_⟩, bounded.2⟩
  exact fun _ mem => (List.not_mem_nil mem).elim

end Progress.Bounded

theorem order_of_counts? {style : Style} {chars rest : List Char} {least : Nat} {most : Option Nat}
    (h : counts? style chars = some ((least, most), rest)) : ∀ m, most = some m → least ≤ m := by
  unfold counts? at h
  dsimp only at h
  split at h
  · obtain ⟨behind, -, h⟩ := Option.bind_eq_some_iff.mp h
    rw [Option.ite_none_left_eq_some, Option.some_inj, Prod.mk.injEq, Prod.mk.injEq] at h
    obtain ⟨order, ⟨rfl, same⟩, -⟩ := h
    intro m is
    rw [same, is] at order
    simpa using order
  · rw [Option.ite_none_left_eq_some] at h
    obtain ⟨behind, -, same⟩ := Option.map_eq_some_iff.mp h.2
    cases same
    rintro m ⟨⟩
    exact Nat.le_refl _

theorem bounded_escapeMeaning {style : Style} {closed : List Nat} {c : Char}
    {e : Expression Symbol} (h : escapeMeaning style closed c = .ok e) : e.Bounded := by
  unfold escapeMeaning at h
  dsimp only at h
  repeat' split at h
  all_goals first | cases h; trivial | cases h

section

variable {style : Style} {fuel : Nat} {progress : Progress} {e : Expression Symbol}

/-- There is more to read, and all counts are in order so far. -/
def GoesOn (style : Style) (fuel : Nat) (e : Expression Symbol) : Prop :=
  ∃ (progress : Progress) (chars : List Char),
    progress.Bounded ∧ read style fuel progress chars = .ok e

theorem goesOn_literal (bounded : progress.Bounded) {c : Char} {rest : List Char}
    (h : read style fuel (progress.add (charOnly style c)) rest = .ok e) : GoesOn style fuel e :=
  ⟨_, rest, bounded.add (show (charOnly style c).Bounded from trivial), h⟩

/-- A sign of repetition repeats the last part, is left out, or stands for itself. -/
theorem goesOn_repetition (bounded : progress.Bounded) {c : Char} {least : Nat}
    {most : Option Nat} {rest : List Char} (order : ∀ m, most = some m → least ≤ m)
    (h : (if progress.isAtStart = true then
        if style.extended = true then
          if progress.level.parts.isEmpty = true then read style fuel progress rest
          else read style fuel (progress.add (charOnly style c)) rest
        else read style fuel (progress.add (charOnly style c)) rest
      else read style fuel (progress.repeatLast least most) rest) = .ok e) :
    GoesOn style fuel e := by
  repeat' split at h
  · exact ⟨_, rest, bounded, h⟩
  · exact goesOn_literal bounded h
  · exact goesOn_literal bounded h
  · exact ⟨_, rest, bounded.repeatLast order, h⟩

theorem read_step (bounded : progress.Bounded) {chars : List Char}
    (h : read style (fuel + 1) progress chars = .ok e) : e.Bounded ∨ GoesOn style fuel e := by
  rw [read] at h
  obtain ⟨_ | ⟨lexeme, rest⟩, -, h⟩ := bind_ok_iff.mp h
  · -- nothing is left
    dsimp only at h
    split at h
    · cases h
      exact .inl bounded.1.whole
    · cases h
  · right
    dsimp only at h
    cases lexeme with
    | opening => exact ⟨_, _, bounded.nested _ _ _, h⟩
    | closing =>
      dsimp only at h
      split at h
      · cases h
      · next level outer levels => exact ⟨_, _, bounded.joined levels _ _ _, h⟩
    | bar => exact ⟨_, _, bounded.branched, h⟩
    | star => exact goesOn_repetition bounded (by simp) h
    | plus => exact goesOn_repetition bounded (by simp) h
    | optional => exact goesOn_repetition bounded (by simp) h
    | brace =>
      dsimp only at h
      split at h
      · next counted =>
        split at h
        · split at h
          · exact goesOn_literal bounded h
          · cases h
        · exact ⟨_, _, bounded.repeatLast (order_of_counts? counted), h⟩
      · split at h
        · exact goesOn_literal bounded h
        · cases h
    | startAnchor =>
      dsimp only at h
      split at h
      · exact ⟨_, _, bounded.add (show (place _).Bounded from trivial), h⟩
      · exact goesOn_literal bounded h
    | endAnchor =>
      dsimp only at h
      split at h
      · exact ⟨_, _, bounded.add (show (place _).Bounded from trivial), h⟩
      · exact goesOn_literal bounded h
    | escaped c =>
      dsimp only at h
      obtain ⟨part, meaning, h⟩ := bind_ok_iff.mp h
      exact ⟨_, _, bounded.add (bounded_escapeMeaning meaning), h⟩
    | plain c =>
      -- The two characters with a meaning of their own come first; the other lexemes are no plain
      -- ones.
      split at h <;> try contradiction
      · exact ⟨_, _, bounded.add (show (Expression.atom _).Bounded from trivial), h⟩
      · obtain ⟨⟨ranges, behind⟩, -, h⟩ := bind_ok_iff.mp h
        exact ⟨_, _, bounded.add (show (within _ _ _).Bounded from trivial), h⟩
      · exact goesOn_literal bounded h

theorem bounded_read (bounded : progress.Bounded) {chars : List Char}
    (h : read style fuel progress chars = .ok e) : e.Bounded := by
  induction fuel generalizing progress chars with
  | zero => cases h
  | succ fuel ih =>
    obtain done | ⟨next, rest, bounded, h⟩ := read_step bounded h
    · exact done
    · exact ih bounded h

end

/-- No expression that is read has counts out of order. -/
theorem bounded_compile {style : Style} {pattern : String} {e : Expression Symbol}
    (h : compile style pattern = .ok e) : e.Bounded := by
  refine bounded_read ⟨⟨?_, ?_⟩, ?_⟩ h
  · exact fun _ mem => (List.not_mem_nil mem).elim
  · exact fun _ mem => (List.not_mem_nil mem).elim
  · exact fun _ mem => (List.not_mem_nil mem).elim

/-- With an expression that was read, and that refers to no group, the leftmost longest match is
found, and something is found if anything matches. -/
theorem group?_of_findFrom_compile {style : Style} {pattern : String} {e : Expression Symbol}
    {p : Expression Atom} (read : compile style pattern = .ok e) (plain : e.plain? = some p)
    (text : Array Char) (start : Nat) :
    match e.findFrom text start with
    | none => ∀ i k, start ≤ i → i ≤ text.size → ¬ p.Matches text.toList i k
    | some captures =>
      ∃ first last, captures.group? 0 = some (first, last) ∧ start ≤ first ∧
        p.Matches text.toList first last ∧ (∀ k, p.Matches text.toList first k → k ≤ last) ∧
        ∀ i k, start ≤ i → p.Matches text.toList i k → first ≤ i := by
  have bounded := Expression.bounded_of_plain? plain (bounded_compile read)
  cases found : e.findFrom text start with
  | none => exact (Expression.findFrom_eq_none_iff plain bounded).mp found
  | some captures => exact Expression.group?_of_findFrom plain bounded found

end Posix

end ColdBuild.Regex
