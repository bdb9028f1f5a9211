import ColdBuild.Regex.Expression
import Mathlib.Tactic.Tauto

/-!
# Sets of codes as ranges

Ranges are in order when each of them holds a code and a gap stands between any two that follow
each other. They are read as the set of the codes in them (`Has`), and the operations on ranges
are the operations on these sets: union, complement up to a greatest code, intersection, both
differences, and the other case of ASCII letters. Each of them leaves ranges in order.
-/

namespace ColdBuild.Regex.Ranges

variable {ranges a b : Ranges} {first last greatest code : Nat}

def Has (ranges : Ranges) (code : Nat) : Prop := ∃ range ∈ ranges, range.1 ≤ code ∧ code ≤ range.2

theorem has_iff {c : Char} : ranges.has c = true ↔ ranges.Has c.toNat := by
  simp [has, Has]

@[simp]
theorem not_has_nil : ¬Has [] code := by
  simp [Has]

@[simp]
theorem has_cons : Has ((first, last) :: ranges) code ↔
    (first ≤ code ∧ code ≤ last) ∨ ranges.Has code := by
  simp [Has]

@[simp]
theorem has_append : Has (a ++ b) code ↔ a.Has code ∨ b.Has code := by
  simp [Has, or_and_right, exists_or]

/-- Each range holds a code, and none above the greatest one. -/
def Within (ranges : Ranges) (greatest : Nat) : Prop :=
  ∀ range ∈ ranges, range.1 ≤ range.2 ∧ range.2 ≤ greatest

/-- The ranges begin at a code or behind it, and a gap stands before each further one. -/
def Ascend (start : Nat) : Ranges → Prop
  | [] => True
  | (first, last) :: rest => start ≤ first ∧ Ascend (last + 2) rest

/-- Ranges in order, up to a greatest code. -/
structure InOrder (ranges : Ranges) (greatest : Nat) : Prop where
  within : ranges.Within greatest
  ascend : Ascend 0 ranges

theorem Ascend.mono {start start' : Nat} (h : Ascend start ranges) (hle : start' ≤ start) :
    Ascend start' ranges := by
  cases ranges with
  | nil => trivial
  | cons => exact ⟨Nat.le_trans hle h.1, h.2⟩

@[simp]
theorem within_nil : Within [] greatest := by
  simp [Within]

@[simp]
theorem within_cons : Within ((first, last) :: ranges) greatest ↔
    (first ≤ last ∧ last ≤ greatest) ∧ ranges.Within greatest := by
  simp [Within]

@[simp]
theorem within_append : Within (a ++ b) greatest ↔ a.Within greatest ∧ b.Within greatest := by
  rw [Within, List.forall_mem_append]
  rfl

theorem Ascend.le {start : Nat} (h : Ascend start ranges) (hwithin : ranges.Within greatest)
    (hcode : ranges.Has code) : start ≤ code := by
  induction ranges generalizing start with
  | nil => exact absurd hcode not_has_nil
  | cons range rest ih =>
    obtain ⟨hfirst, -⟩ := within_cons.mp hwithin
    obtain hhere | hrest := has_cons.mp hcode
    · exact Nat.le_trans h.1 hhere.1
    · have := ih h.2 (within_cons.mp hwithin).2 hrest
      have := h.1
      omega

theorem InOrder.le (h : ranges.InOrder greatest) (hcode : ranges.Has code) : code ≤ greatest := by
  obtain ⟨range, mem, -, hle⟩ := hcode
  exact Nat.le_trans hle (h.within range mem).2

/-! ## Putting ranges in order -/

theorem has_joinedFrom (hle : first ≤ last) (hwithin : ranges.Within greatest)
    (hsorted : ((first, last) :: ranges).Pairwise (·.1 ≤ ·.1)) :
    (joinedFrom first last ranges).Has code ↔ (first ≤ code ∧ code ≤ last) ∨ ranges.Has code := by
  induction ranges generalizing first last with
  | nil => simp [joinedFrom]
  | cons range rest ih =>
    obtain ⟨next, stop⟩ := range
    rw [within_cons] at hwithin
    obtain ⟨hbefore, hrest⟩ := List.pairwise_cons.mp hsorted
    have hnext : first ≤ next := hbefore _ (.head _)
    rw [joinedFrom]
    split
    · have hskip : ((first, max last stop) :: rest).Pairwise (·.1 ≤ ·.1) :=
        List.pairwise_cons.mpr ⟨fun range mem => hbefore range (.tail _ mem), hrest.of_cons⟩
      rw [ih (by omega) hwithin.2 hskip, has_cons, ← or_assoc]
      apply or_congr_left
      omega
    · rw [has_cons, ih hwithin.1.1 hwithin.2 hrest, has_cons]

theorem within_joinedFrom (hle : first ≤ last) (hlast : last ≤ greatest)
    (hwithin : ranges.Within greatest) : (joinedFrom first last ranges).Within greatest := by
  induction ranges generalizing first last with
  | nil => simp [joinedFrom, hle, hlast]
  | cons range rest ih =>
    obtain ⟨next, stop⟩ := range
    rw [within_cons] at hwithin
    obtain ⟨hnext, hrest⟩ := hwithin
    rw [joinedFrom]
    split
    · exact ih (by omega) (by omega) hrest
    · exact within_cons.mpr ⟨⟨hle, hlast⟩, ih hnext.1 hnext.2 hrest⟩

theorem ascend_joinedFrom (start : Nat) (hstart : start ≤ first) :
    Ascend start (joinedFrom first last ranges) := by
  induction ranges generalizing start first last with
  | nil => exact ⟨hstart, trivial⟩
  | cons range rest ih =>
    rw [joinedFrom]
    split
    · exact ih start hstart
    · exact ⟨hstart, ih _ (by omega)⟩

theorem within_mergeSort (h : ranges.Within greatest) :
    Within (ranges.mergeSort fun a b => a.1 ≤ b.1) greatest :=
  fun range mem => h range (List.mem_mergeSort.mp mem)

theorem has_mergeSort : Has (ranges.mergeSort fun a b => a.1 ≤ b.1) code ↔ ranges.Has code := by
  simp [Has]

theorem has_ordered (h : ranges.Within greatest) : (ordered ranges).Has code ↔ ranges.Has code := by
  have hsorted : (ranges.mergeSort fun a b => a.1 ≤ b.1).Pairwise (·.1 ≤ ·.1) := by
    refine (List.pairwise_mergeSort ?_ ?_ ranges).imp of_decide_eq_true
    · intro a b c
      simp only [decide_eq_true_eq]
      exact Nat.le_trans
    · intro a b
      simpa using Nat.le_total a.1 b.1
  have hwithin := within_mergeSort h
  rw [ordered, ← @has_mergeSort ranges]
  generalize (ranges.mergeSort fun a b => a.1 ≤ b.1) = sorted at hsorted hwithin ⊢
  match sorted with
  | [] => rfl
  | (first, last) :: rest =>
    rw [within_cons] at hwithin
    rw [joined, has_joinedFrom hwithin.1.1 hwithin.2 hsorted, has_cons]

theorem inOrder_ordered (h : ranges.Within greatest) : (ordered ranges).InOrder greatest := by
  have hwithin := within_mergeSort h
  rw [ordered]
  generalize (ranges.mergeSort fun a b => a.1 ≤ b.1) = sorted at hwithin ⊢
  match sorted with
  | [] => exact ⟨by simp [joined], trivial⟩
  | (first, last) :: rest =>
    obtain ⟨hfirst, hrest⟩ := within_cons.mp hwithin
    exact ⟨within_joinedFrom hfirst.1 hfirst.2 hrest, ascend_joinedFrom 0 (Nat.zero_le _)⟩

/-! ## Union and complement -/

theorem has_union (ha : a.InOrder greatest) (hb : b.InOrder greatest) :
    (union a b).Has code ↔ a.Has code ∨ b.Has code := by
  rw [union, has_ordered (within_append.mpr ⟨ha.within, hb.within⟩), has_append]

theorem inOrder_union (ha : a.InOrder greatest) (hb : b.InOrder greatest) :
    (union a b).InOrder greatest :=
  inOrder_ordered (within_append.mpr ⟨ha.within, hb.within⟩)

theorem has_complementFrom (hascend : Ascend first ranges) (hwithin : ranges.Within greatest) :
    (complementFrom first greatest ranges).Has code ↔
      first ≤ code ∧ code ≤ greatest ∧ ¬ranges.Has code := by
  induction ranges generalizing first with
  | nil =>
    rw [complementFrom]
    split <;> simp <;> omega
  | cons range rest ih =>
    obtain ⟨start, stop⟩ := range
    obtain ⟨hstart, hrest⟩ := hascend
    obtain ⟨⟨hle, hstop⟩, hwithin⟩ := within_cons.mp hwithin
    have hbehind : Has rest code → stop + 2 ≤ code := hrest.le hwithin
    rw [complementFrom, has_append, ih (hrest.mono (Nat.le_succ _)) hwithin, has_cons]
    by_cases hcode : Has rest code
    · have := hbehind hcode
      split <;> simp [hcode] <;> omega
    · split <;> simp [hcode] <;> omega

theorem within_complementFrom (hwithin : ranges.Within greatest) :
    (complementFrom first greatest ranges).Within greatest := by
  induction ranges generalizing first with
  | nil =>
    rw [complementFrom]
    split <;> simp [*]
  | cons range rest ih =>
    obtain ⟨start, stop⟩ := range
    obtain ⟨⟨hle, hstop⟩, hwithin⟩ := within_cons.mp hwithin
    rw [complementFrom, within_append]
    refine ⟨?_, ih hwithin⟩
    split
    · simp
      omega
    · exact within_nil

theorem ascend_complementFrom (hascend : Ascend first ranges) (hwithin : ranges.Within greatest) :
    Ascend first (complementFrom first greatest ranges) := by
  induction ranges generalizing first with
  | nil =>
    rw [complementFrom]
    split
    · exact ⟨Nat.le_refl _, trivial⟩
    · trivial
  | cons range rest ih =>
    obtain ⟨start, stop⟩ := range
    obtain ⟨hstart, hrest⟩ := hascend
    obtain ⟨⟨hle, hstop⟩, hwithin⟩ := within_cons.mp hwithin
    have hbehind := ih (hrest.mono (Nat.le_succ _)) hwithin
    rw [complementFrom]
    split
    · exact ⟨Nat.le_refl _, hbehind.mono (by omega)⟩
    · exact hbehind.mono (by omega)

theorem has_complement (h : ranges.InOrder greatest) :
    (complement greatest ranges).Has code ↔ code ≤ greatest ∧ ¬ranges.Has code := by
  rw [complement, has_complementFrom h.ascend h.within]
  simp

theorem inOrder_complement (h : ranges.InOrder greatest) :
    (complement greatest ranges).InOrder greatest :=
  ⟨within_complementFrom h.within, ascend_complementFrom h.ascend h.within⟩

/-! ## Intersection and differences -/

theorem inOrder_intersection (ha : a.InOrder greatest) (hb : b.InOrder greatest) :
    (intersection greatest a b).InOrder greatest :=
  inOrder_complement (inOrder_union (inOrder_complement ha) (inOrder_complement hb))

theorem has_intersection (ha : a.InOrder greatest) (hb : b.InOrder greatest) :
    (intersection greatest a b).Has code ↔ a.Has code ∧ b.Has code := by
  have ha' := inOrder_complement ha
  have hb' := inOrder_complement hb
  rw [intersection, has_complement (inOrder_union ha' hb'), has_union ha' hb', has_complement ha,
    has_complement hb]
  have hle : a.Has code → code ≤ greatest := ha.le
  tauto

theorem inOrder_difference (ha : a.InOrder greatest) (hb : b.InOrder greatest) :
    (difference greatest a b).InOrder greatest :=
  inOrder_intersection ha (inOrder_complement hb)

theorem has_difference (ha : a.InOrder greatest) (hb : b.InOrder greatest) :
    (difference greatest a b).Has code ↔ a.Has code ∧ ¬b.Has code := by
  rw [difference, has_intersection ha (inOrder_complement hb), has_complement hb]
  have hle : a.Has code → code ≤ greatest := ha.le
  tauto

theorem inOrder_symmetricDifference (ha : a.InOrder greatest) (hb : b.InOrder greatest) :
    (symmetricDifference greatest a b).InOrder greatest :=
  inOrder_difference (inOrder_union ha hb) (inOrder_intersection ha hb)

theorem has_symmetricDifference (ha : a.InOrder greatest) (hb : b.InOrder greatest) :
    (symmetricDifference greatest a b).Has code ↔
      (a.Has code ∧ ¬b.Has code) ∨ (b.Has code ∧ ¬a.Has code) := by
  rw [symmetricDifference, has_difference (inOrder_union ha hb) (inOrder_intersection ha hb),
    has_union ha hb, has_intersection ha hb]
  tauto

/-! ## The other case -/

/-- The second code is that of the same ASCII letter in the other case. -/
def OtherCase (code other : Nat) : Prop :=
  (0x41 ≤ code ∧ code ≤ 0x5A ∧ other = code + 32) ∨ (0x61 ≤ code ∧ code ≤ 0x7A ∧ other + 32 = code)

theorem has_moved {low high : Nat} {move : Nat → Nat} {shift : Int}
    (hmove : ∀ code, low ≤ code → code ≤ high → (move code : Int) = code + shift) :
    (moved low high move ranges).Has code ↔
      ∃ other, ranges.Has other ∧ low ≤ other ∧ other ≤ high ∧ (code : Int) = other + shift := by
  constructor
  · rintro ⟨range, mem, hfirst, hlast⟩
    obtain ⟨⟨first, last⟩, hin, hrange⟩ := List.mem_filterMap.mp mem
    dsimp only at hrange
    split at hrange
    · next hle =>
      cases hrange
      have hlow := hmove (max first low) (by omega) (by omega)
      have hhigh := hmove (min last high) (by omega) (by omega)
      refine ⟨(code - shift).toNat, ⟨(first, last), hin, ?_⟩, ?_⟩
      all_goals dsimp only at *; omega
    · cases hrange
  · rintro ⟨other, ⟨⟨first, last⟩, hin, hfirst, hlast⟩, hlow, hhigh, hcode⟩
    dsimp only at hfirst hlast
    have hleft := hmove (max first low) (by omega) (by omega)
    have hright := hmove (min last high) (by omega) (by omega)
    refine ⟨(move (max first low), move (min last high)), ?_, ?_⟩
    · refine List.mem_filterMap.mpr ⟨(first, last), hin, if_pos ?_⟩
      omega
    · dsimp only
      omega

theorem within_moved {low high : Nat} {move : Nat → Nat} {shift : Int}
    (hmove : ∀ code, low ≤ code → code ≤ high → (move code : Int) = code + shift)
    (hgreatest : high + shift ≤ greatest) : (moved low high move ranges).Within greatest := by
  intro range mem
  obtain ⟨⟨first, last⟩, hin, hrange⟩ := List.mem_filterMap.mp mem
  dsimp only at hrange
  split at hrange
  · next hle =>
    cases hrange
    have hlow := hmove (max first low) (by omega) (by omega)
    have hhigh := hmove (min last high) (by omega) (by omega)
    dsimp only
    omega
  · cases hrange

theorem lower (code : Nat) (_ : 0x41 ≤ code) (_ : code ≤ 0x5A) :
    ((code + 32 : Nat) : Int) = code + 32 := by
  omega

theorem upper (code : Nat) (_ : 0x61 ≤ code) (_ : code ≤ 0x7A) :
    ((code - 32 : Nat) : Int) = code + -32 := by
  omega

section

variable (h : ranges.Within greatest) (hgreatest : 0x7A ≤ greatest)

include h hgreatest

theorem within_folded : Within (ranges ++ moved 0x41 0x5A (· + 32) ranges ++
    moved 0x61 0x7A (· - 32) ranges) greatest := by
  rw [within_append, within_append]
  refine ⟨⟨h, within_moved lower ?_⟩, within_moved upper ?_⟩
  · omega
  · omega

theorem inOrder_foldAscii : (foldAscii ranges).InOrder greatest :=
  inOrder_ordered (within_folded h hgreatest)

theorem has_foldAscii : (foldAscii ranges).Has code ↔
    ranges.Has code ∨ ∃ other, ranges.Has other ∧ OtherCase other code := by
  rw [foldAscii, has_ordered (within_folded h hgreatest), has_append, has_append,
    has_moved lower, has_moved upper, or_assoc, ← exists_or]
  apply or_congr_right
  apply exists_congr
  intro other
  rw [← and_or_left, OtherCase]
  apply and_congr_right
  intro
  omega

end

end ColdBuild.Regex.Ranges
