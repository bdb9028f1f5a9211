import ColdBuild.Machine.Utility.Comparing
import Mathlib.Data.List.Infix

/-!
# The changes between two lists of lines

Changes explain how one list of lines becomes another one if the lines outside of them are the same
on both sides (`LineChange.Explains`). The changes that are found between two lists explain the one
by the other (`LineChange.explains_between`), and no others that do take out or put in fewer lines
(`LineChange.between_least`): what they leave is a longest common part.
-/

namespace ColdBuild.LineChange

variable {old new : List String} {changes : List LineChange}

/-- The changes, the last one first, explain how the one list becomes the other one. -/
inductive Explains : (old new : List String) → List LineChange → Prop where
  | nil : Explains [] [] []
  | keep {old new : List String} {changes : List LineChange} (line : String)
      (h : Explains old new changes) : Explains (old ++ [line]) (new ++ [line]) changes
  | change {old new : List String} {changes : List LineChange} (taken put : List String)
      (h : Explains old new changes) :
      Explains (old ++ taken) (new ++ put)
        (⟨old.length, taken.length, new.length, put.length⟩ :: changes)

/-! ## Going along both lists -/

theorem Explains.le {change : LineChange} (h : Explains old new (change :: changes)) :
    change.oldStart + change.oldCount ≤ old.length := by
  generalize hall : change :: changes = all at h
  induction h with
  | nil => cases hall
  | keep line h ih =>
    have := ih hall
    rw [List.length_append]
    omega
  | change taken put h ih =>
    cases hall
    simp

/-- Changes that end where the lists end can be drawn out further. -/
theorem Explains.further {change : LineChange} (h : Explains old new (change :: changes))
    (hend : change.oldStart + change.oldCount = old.length) (taken put : List String) :
    Explains (old ++ taken) (new ++ put)
      ({ change with
        oldCount := change.oldCount + taken.length
        newCount := change.newCount + put.length } :: changes) := by
  cases h with
  | keep line h =>
    have := h.le
    rw [List.length_append, List.length_singleton] at hend
    omega
  | change taken' put' h =>
    have hmore := h.change (taken' ++ taken) (put' ++ put)
    rw [List.length_append, List.length_append, ← List.append_assoc, ← List.append_assoc] at hmore
    exact hmore

theorem Explains.extend (h : Explains old new changes) (line : String) :
    Explains (old ++ [line]) new (extend changes old.length new.length true) ∧
      Explains old (new ++ [line]) (extend changes old.length new.length false) := by
  have hone := h.change [line] []
  have hother := h.change [] [line]
  rw [List.append_nil] at hone hother
  cases changes with
  | nil => exact ⟨hone, hother⟩
  | cons change changes =>
    unfold LineChange.extend
    dsimp only
    split
    · next hend =>
      rw [Bool.and_eq_true, decide_eq_true_eq] at hend
      have hone := h.further hend.1 [line] []
      have hother := h.further hend.1 [] [line]
      rw [List.append_nil] at hone hother
      exact ⟨hone, hother⟩
    · exact ⟨hone, hother⟩

theorem Explains.walk {fuel : Nat} {a b : List String} {rows : List (List Nat)}
    (h : Explains old new changes) (hfuel : a.length + b.length < fuel) :
    Explains (old ++ a) (new ++ b) (walk fuel old.length new.length a b rows changes) := by
  have hsucc (lines : List String) (line : String) :
      lines.length + 1 = (lines ++ [line]).length := by
    simp
  induction fuel generalizing old new a b rows changes with
  | zero => omega
  | succ fuel ih =>
    cases a with
    | nil =>
      cases b with
      | nil => simpa [LineChange.walk] using h
      | cons y b =>
        rw [LineChange.walk, hsucc new y, List.append_cons new]
        exact ih (h.extend y).2 (by simp at hfuel ⊢; omega)
    | cons x a =>
      cases b with
      | nil =>
        rw [LineChange.walk, hsucc old x, List.append_cons old]
        exact ih (h.extend x).1 (by simp at hfuel ⊢; omega)
      | cons y b =>
        rw [LineChange.walk]
        dsimp only
        split
        · next hsame =>
          subst hsame
          rw [hsucc old x, hsucc new x, List.append_cons old, List.append_cons new]
          exact ih (h.keep x) (by simp at hfuel ⊢; omega)
        · split
          · rw [hsucc old x, List.append_cons old]
            exact ih (h.extend x).1 (by simp at hfuel ⊢; omega)
          · rw [hsucc new y, List.append_cons new]
            exact ih (h.extend y).2 (by simp at hfuel ⊢; omega)

theorem Explains.keepAll (h : Explains old new changes) (lines : List String) :
    Explains (old ++ lines) (new ++ lines) changes := by
  induction lines generalizing old new with
  | nil => simpa using h
  | cons line lines ih =>
    rw [List.append_cons old, List.append_cons new]
    exact ih (h.keep line)

/-- How many lines two lists begin with in common. -/
def sameFront (old new : List String) : Nat :=
  ((old.zip new).takeWhile fun pair => pair.1 = pair.2).length

theorem take_sameFront (old new : List String) :
    old.take (sameFront old new) = new.take (sameFront old new) ∧
      sameFront old new ≤ old.length := by
  induction old generalizing new with
  | nil => simp [sameFront]
  | cons x old ih =>
    cases new with
    | nil => simp [sameFront]
    | cons y new =>
      obtain ⟨hsame, hle⟩ := ih new
      unfold sameFront at hsame hle ⊢
      rw [List.zip_cons_cons, List.takeWhile_cons]
      split
      · next hxy =>
        rw [decide_eq_true_eq] at hxy
        dsimp only at hxy
        subst hxy
        rw [List.length_cons, List.take_succ_cons, List.take_succ_cons, hsame]
        exact ⟨rfl, Nat.succ_le_succ hle⟩
      · simp

/-- What the lists have in common at their ends stays out of the table of lengths. -/
theorem exists_between (old new : List String) : ∃ front a b back,
    old = front ++ a ++ back ∧ new = front ++ b ++ back ∧
      between old new =
        (walk (a.length + b.length + 1) front.length front.length a b
          (lengths b a) []).reverse := by
  obtain ⟨hfront, hold⟩ := take_sameFront old new
  let oldRest := old.drop (sameFront old new)
  let newRest := new.drop (sameFront old new)
  let length := sameFront oldRest.reverse newRest.reverse
  have hback : oldRest.drop (oldRest.length - length) = newRest.drop (newRest.length - length) := by
    have := (take_sameFront oldRest.reverse newRest.reverse).1
    rwa [List.take_reverse, List.take_reverse, List.reverse_inj] at this
  refine ⟨old.take (sameFront old new), oldRest.take (oldRest.length - length),
    newRest.take (newRest.length - length), oldRest.drop (oldRest.length - length), ?_, ?_, ?_⟩
  · rw [List.append_assoc, List.take_append_drop, List.take_append_drop]
  · rw [hfront, hback, List.append_assoc, List.take_append_drop, List.take_append_drop]
  · rw [List.length_take_of_le hold]
    rfl

theorem explains_between (old new : List String) :
    Explains old new (between old new).reverse := by
  obtain ⟨front, a, b, back, rfl, rfl, hbetween⟩ := exists_between old new
  rw [hbetween, List.reverse_reverse]
  exact ((Explains.nil.keepAll front).walk (Nat.lt_succ_self _)).keepAll back

/-! ## The table of lengths -/

/-- The length of a longest common part of two lists. -/
def longest : List String → List String → Nat
  | [], _ | _ :: _, [] => 0
  | x :: a, y :: b =>
      if x = y then longest a b + 1 else max (longest a (y :: b)) (longest (x :: a) b)
termination_by a b => a.length + b.length

theorem longest_cons (x y : String) (a b : List String) : longest (x :: a) (y :: b) =
    if x = y then longest a b + 1 else max (longest a (y :: b)) (longest (x :: a) b) := by
  rw [longest]

theorem longest_nil_right (a : List String) : longest a [] = 0 := by
  cases a <;> rw [longest]

theorem lengthsWith_eq (x : String) (a b : List String) :
    lengthsWith x b (b.tails.map (longest a)) = b.tails.map (longest (x :: a)) := by
  have hhead (c d : List String) : (d.tails.map (longest c)).headD 0 = longest c d := by
    cases d <;> simp
  induction b with
  | nil => simp [lengthsWith, longest]
  | cons y b ih =>
    rw [List.tails_cons, List.map_cons, List.map_cons, lengthsWith, List.drop_one,
      List.tail_cons, ih, hhead, hhead, List.headD_cons, longest_cons]

theorem lengths_eq (a b : List String) :
    lengths b a = a.tails.map fun rest => b.tails.map (longest rest) := by
  induction a with
  | nil =>
    have hzero : b.tails.map (longest []) = List.replicate (b.length + 1) 0 := by
      rw [List.eq_replicate_iff]
      simp [longest]
    simp [lengths, hzero]
  | cons x a ih =>
    have hrow : (lengths b a).headD [] = b.tails.map (longest a) := by
      rw [ih]
      cases a <;> simp
    rw [lengths, hrow, lengthsWith_eq, ih, List.tails_cons, List.map_cons]

def taken : List LineChange → Nat
  | [] => 0
  | change :: changes => change.oldCount + taken changes

def put : List LineChange → Nat
  | [] => 0
  | change :: changes => change.newCount + put changes

theorem taken_append (changes others : List LineChange) :
    taken (changes ++ others) = taken changes + taken others := by
  induction changes with
  | nil => simp [taken]
  | cons change changes ih =>
    simp only [List.cons_append, taken, ih]
    omega

theorem put_append (changes others : List LineChange) :
    put (changes ++ others) = put changes + put others := by
  induction changes with
  | nil => simp [put]
  | cons change changes ih =>
    simp only [List.cons_append, put, ih]
    omega

theorem taken_reverse (changes : List LineChange) : taken changes.reverse = taken changes := by
  induction changes with
  | nil => rfl
  | cons change changes ih =>
    simp only [List.reverse_cons, taken_append, ih, taken]
    omega

theorem put_reverse (changes : List LineChange) : put changes.reverse = put changes := by
  induction changes with
  | nil => rfl
  | cons change changes ih =>
    simp only [List.reverse_cons, put_append, ih, put]
    omega

theorem taken_extend (i j : Nat) (changes : List LineChange) :
    taken (extend changes i j true) = taken changes + 1 ∧
      taken (extend changes i j false) = taken changes := by
  cases changes with
  | nil => simp [extend, taken]
  | cons change changes =>
    unfold extend
    dsimp only
    split <;> simp [taken] <;> omega

theorem drop_lengths_cons (x : String) (a b : List String) :
    (lengths b (x :: a)).drop 1 = lengths b a := rfl

theorem map_drop_lengths_cons (y : String) (a b : List String) :
    (lengths (y :: b) a).map (·.drop 1) = lengths b a := by
  rw [lengths_eq, lengths_eq, List.map_map]
  apply List.map_congr_left
  intro rest _
  simp

theorem headD_lengths (a b : List String) : (lengths b a).headD [] = b.tails.map (longest a) := by
  rw [lengths_eq]
  cases a <;> simp

theorem headD_map_longest (a b : List String) :
    (b.tails.map (longest a)).headD 0 = longest a b := by
  cases b <;> simp

/-- Going along two lists takes out what is not in a longest common part. -/
theorem taken_walk {fuel i j : Nat} {a b : List String} (hfuel : a.length + b.length < fuel) :
    taken (walk fuel i j a b (lengths b a) changes) + longest a b = taken changes + a.length := by
  induction fuel generalizing i j a b changes with
  | zero => omega
  | succ fuel ih =>
    have htaken := (taken_extend i j changes).1
    have hput := (taken_extend i j changes).2
    cases a with
    | nil =>
      cases b with
      | nil => simp [walk, longest]
      | cons y b =>
        have hrest : taken (walk fuel i (j + 1) [] b (lengths b []) (extend changes i j false)) +
            longest [] b = taken (extend changes i j false) + 0 := by
          apply ih
          simp at hfuel ⊢
          omega
        rw [walk, map_drop_lengths_cons, List.length_nil]
        simp only [longest] at hrest ⊢
        omega
    | cons x a =>
      cases b with
      | nil =>
        have hrest : taken (walk fuel (i + 1) j a [] (lengths [] a) (extend changes i j true)) +
            longest a [] = taken (extend changes i j true) + a.length := by
          apply ih
          simp at hfuel ⊢
          omega
        rw [walk, drop_lengths_cons, List.length_cons]
        rw [longest_nil_right] at hrest ⊢
        omega
      | cons y b =>
        have hfuel' : a.length + b.length + 1 < fuel := by
          simp at hfuel
          omega
        rw [walk]
        dsimp only
        rw [drop_lengths_cons, map_drop_lengths_cons, map_drop_lengths_cons, headD_lengths,
          headD_lengths, headD_map_longest, List.tails_cons, List.map_cons, List.drop_one,
          List.tail_cons, headD_map_longest, longest_cons, List.length_cons]
        split
        · have hrest : taken (walk fuel (i + 1) (j + 1) a b (lengths b a) changes) + longest a b =
              taken changes + a.length := ih (by omega)
          omega
        · split
          · have hrest : taken (walk fuel (i + 1) j a (y :: b) (lengths (y :: b) a)
                (extend changes i j true)) + longest a (y :: b) =
                taken (extend changes i j true) + a.length := by
              apply ih
              simp
              omega
            omega
          · have hrest : taken (walk fuel i (j + 1) (x :: a) b (lengths b (x :: a))
                (extend changes i j false)) + longest (x :: a) b =
                taken (extend changes i j false) + (a.length + 1) := by
              apply ih
              simp
              omega
            omega

/-! ## No fewer lines -/

/-- What changes leave is a common part of the lists. -/
theorem Explains.exists_sublist (h : Explains old new changes) : ∃ kept : List String,
    kept.Sublist old ∧ kept.Sublist new ∧ kept.length + taken changes = old.length ∧
      kept.length + put changes = new.length := by
  induction h with
  | nil => exact ⟨[], .slnil, .slnil, rfl, rfl⟩
  | keep line h ih =>
    obtain ⟨kept, hold, hnew, htaken, hput⟩ := ih
    refine ⟨kept ++ [line], hold.append (.refl _), hnew.append (.refl _), ?_, ?_⟩
    · simp
      omega
    · simp
      omega
  | change taken' put' h ih =>
    obtain ⟨kept, hold, hnew, htaken, hput⟩ := ih
    refine ⟨kept, hold.trans (List.sublist_append_left _ _),
      hnew.trans (List.sublist_append_left _ _), ?_, ?_⟩
    · simp [taken] at htaken ⊢
      omega
    · simp [put] at hput ⊢
      omega

theorem length_le_longest {common a b : List String} (ha : common.Sublist a)
    (hb : common.Sublist b) : common.length ≤ longest a b := by
  fun_induction longest a b generalizing common with
  | case1 => simp [List.sublist_nil.mp ha]
  | case2 => simp [List.sublist_nil.mp hb]
  | case3 x a b ih =>
    have := ih ha.tail hb.tail
    rw [List.length_tail] at this
    omega
  | case4 x a y b hne ih ih' =>
    cases ha with
    | cons _ ha =>
      have := ih ha hb
      omega
    | cons_cons _ ha =>
      cases hb with
      | cons _ hb =>
        have := ih' (ha.cons_cons x) hb
        omega
      | cons_cons _ hb => exact absurd rfl hne

section

variable {common a b front back : List String}

theorem exists_sublist_of_front (ha : common.Sublist (front ++ a))
    (hb : common.Sublist (front ++ b)) : ∃ rest : List String, rest.Sublist a ∧ rest.Sublist b ∧
      common.length ≤ front.length + rest.length := by
  obtain ⟨c, c', hc, hcfront, hca⟩ := List.sublist_append_iff.mp ha
  obtain ⟨d, d', hd, hdfront, hdb⟩ := List.sublist_append_iff.mp hb
  have hclength := hcfront.length_le
  have hdlength := hdfront.length_le
  have hdrop {n : Nat} {c c' a : List String} (hc : common = c ++ c') (hle : c.length ≤ n)
      (h : c'.Sublist a) : (common.drop n).Sublist a := by
    rw [hc, List.drop_append, List.drop_eq_nil_of_le hle, List.nil_append]
    exact (List.drop_sublist _ _).trans h
  refine ⟨common.drop (max c.length d.length), ?_, ?_, ?_⟩
  · exact hdrop hc (Nat.le_max_left _ _) hca
  · exact hdrop hd (Nat.le_max_right _ _) hdb
  · rw [List.length_drop]
    omega

theorem exists_sublist_of_back (ha : common.Sublist (a ++ back))
    (hb : common.Sublist (b ++ back)) : ∃ rest : List String, rest.Sublist a ∧ rest.Sublist b ∧
      common.length ≤ rest.length + back.length := by
  have hreverse := @exists_sublist_of_front common.reverse a.reverse b.reverse back.reverse
    (by rw [← List.reverse_append]; exact ha.reverse)
    (by rw [← List.reverse_append]; exact hb.reverse)
  obtain ⟨rest, hrestA, hrestB, hlength⟩ := hreverse
  refine ⟨rest.reverse, ?_, ?_, ?_⟩
  · simpa using hrestA.reverse
  · simpa using hrestB.reverse
  · simp at hlength ⊢
    omega

theorem length_le_of_sublist (hold : common.Sublist (front ++ a ++ back))
    (hnew : common.Sublist (front ++ b ++ back)) :
    common.length ≤ front.length + longest a b + back.length := by
  obtain ⟨rest, hrestA, hrestB, hlength⟩ := exists_sublist_of_back hold hnew
  obtain ⟨middle, hmiddleA, hmiddleB, hlength'⟩ := exists_sublist_of_front hrestA hrestB
  have := length_le_longest hmiddleA hmiddleB
  omega

end

/-- The changes between two lists take out and put in as few lines as any changes that explain
the one list by the other. -/
theorem between_least (h : Explains old new changes) :
    taken (between old new) ≤ taken changes ∧ put (between old new) ≤ put changes := by
  obtain ⟨kept, hold, hnew, htaken, hput⟩ := h.exists_sublist
  obtain ⟨kept', -, -, htaken', hput'⟩ := (explains_between old new).exists_sublist
  rw [taken_reverse] at htaken'
  rw [put_reverse] at hput'
  have hmost : kept.length + taken (between old new) ≤ old.length := by
    obtain ⟨front, a, b, back, rfl, rfl, hbetween⟩ := exists_between old new
    have hwalk := @taken_walk [] (a.length + b.length + 1) front.length front.length a b
      (Nat.lt_succ_self _)
    have hnone : taken [] = 0 := rfl
    have hkept := length_le_of_sublist hold hnew
    rw [hbetween, taken_reverse, List.length_append, List.length_append]
    omega
  omega

end ColdBuild.LineChange
