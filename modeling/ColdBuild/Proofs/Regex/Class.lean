import ColdBuild.Proofs.Outcome
import ColdBuild.Proofs.Regex.Ranges
import ColdBuild.Regex.Meaning

/-!
# What a class holds

A class of characters is read as a set of codes (`ClassTree.Holds`), from its literals, ranges and
named classes through nested classes and operators up to the other case and the negation. The
ranges that stand for a class hold exactly this set (`ClassTree.denotes_ranges`), as long as the
ranges in it are not out of order, which reading a class makes sure of
(`Cursor.isOrdered_classTree`). So a class in a pattern matches the characters that it is meant to
hold (`Cursor.meaning_classTree`).
-/

namespace ColdBuild.Regex

open Ranges (Has InOrder OtherCase)

/-- The codes of a set, with the other case of its letters if the case does not matter. -/
def Flags.Folded (flags : Flags) (holds : Nat → Prop) (code : Nat) : Prop :=
  holds code ∨ flags.caseInsensitive = true ∧ ∃ other, holds other ∧ OtherCase other code

def Flags.Finished (flags : Flags) (negated : Bool) (holds : Nat → Prop) (code : Nat) : Prop :=
  if negated then code ≤ flags.lastCode ∧ ¬flags.Folded holds code else flags.Folded holds code

/-- The codes of the characters that a class is meant to hold. -/
def ClassTree.Holds (flags : Flags) : ClassTree → Nat → Prop
  | .empty, _ | .property .., _ => False
  | .literal l, code => code = l.char.toNat
  | .range first last, code => first.char.toNat ≤ code ∧ code ≤ last.char.toNat
  | .ascii _ kind negated, code => flags.Finished negated (Has kind.ranges) code
  | .perl _ kind negated, code =>
    if negated then code ≤ flags.lastCode ∧ ¬Has kind.ranges code else Has kind.ranges code
  | .bracketed _ negated inside, code => flags.Finished negated (inside.Holds flags) code
  | .union _ parts, code => anyHolds flags parts code
  | .operation _ kind left right, code =>
    let left := flags.Folded (left.Holds flags) code
    let right := flags.Folded (right.Holds flags) code
    match kind with
    | .intersection => left ∧ right
    | .difference => left ∧ ¬right
    | .symmetricDifference => (left ∧ ¬right) ∨ (right ∧ ¬left)
where
  anyHolds (flags : Flags) : List ClassTree → Nat → Prop
    | [], _ => False
    | part :: rest, code => part.Holds flags code ∨ anyHolds flags rest code

def ClassTree.IsOrdered : ClassTree → Prop
  | .range first last => first.char ≤ last.char
  | .bracketed _ _ inside => inside.IsOrdered
  | .union _ parts => allOrdered parts
  | .operation _ _ left right => left.IsOrdered ∧ right.IsOrdered
  | _ => True
where
  allOrdered : List ClassTree → Prop
    | [] => True
    | part :: rest => part.IsOrdered ∧ allOrdered rest

section

variable {flags : Flags} {ranges result : Ranges} {holds : Nat → Prop} {extent : Extent}
  {negated : Bool}

theorem le_lastCode (flags : Flags) : 0x7F ≤ flags.lastCode := by
  unfold Flags.lastCode
  split <;> decide

/-- The ranges stand for a set. -/
structure Denotes (flags : Flags) (ranges : Ranges) (holds : Nat → Prop) : Prop where
  inOrder : ranges.InOrder flags.lastCode
  has_iff : ∀ code, ranges.Has code ↔ holds code

theorem Denotes.complement (h : Denotes flags ranges holds) :
    Denotes flags (ranges.complement flags.lastCode) fun code =>
      code ≤ flags.lastCode ∧ ¬holds code :=
  ⟨Ranges.inOrder_complement h.inOrder, fun code => by
    rw [Ranges.has_complement h.inOrder, h.has_iff]⟩

theorem Denotes.foldAscii (h : Denotes flags ranges holds)
    (hfold : flags.caseInsensitive = true) :
    Denotes flags ranges.foldAscii (flags.Folded holds) := by
  have hlast : 0x7A ≤ flags.lastCode := Nat.le_trans (by decide) (le_lastCode flags)
  refine ⟨Ranges.inOrder_foldAscii h.inOrder.within hlast, ?_⟩
  intro code
  rw [Ranges.has_foldAscii h.inOrder.within hlast]
  simp [Flags.Folded, hfold, h.has_iff]

theorem Denotes.unfolded (h : Denotes flags ranges holds)
    (hfold : flags.caseInsensitive = false ∨ ranges = []) :
    Denotes flags ranges (flags.Folded holds) := by
  refine ⟨h.inOrder, ?_⟩
  intro code
  obtain hfold | rfl := hfold
  · simp [Flags.Folded, hfold, h.has_iff]
  · simp [Flags.Folded, ← h.has_iff]

theorem Denotes.finishClass (h : Denotes flags ranges holds)
    (hfinish : finishClass flags extent negated ranges = .ok result) :
    Denotes flags result (flags.Finished negated holds) := by
  have hnegate {folded : Ranges} (hfolded : Denotes flags folded (flags.Folded holds)) :
      Denotes flags (if negated then folded.complement flags.lastCode else folded)
        (flags.Finished negated holds) := by
    cases negated with
    | false => exact hfolded
    | true => exact hfolded.complement
  unfold Regex.finishClass at hfinish
  split at hfinish
  · split at hfinish
    · cases hfinish
    · next hplain =>
      cases hfinish
      refine hnegate (h.unfolded ?_)
      cases hcase : flags.caseInsensitive
      · exact .inl rfl
      · exact .inr (by simpa [hcase] using hplain)
  · dsimp only at hfinish
    have hfolded : Denotes flags (if flags.caseInsensitive then ranges.foldAscii else ranges)
        (flags.Folded holds) := by
      split
      · next hfold => exact h.foldAscii hfold
      · next hfold => exact h.unfolded (.inl (by simpa using hfold))
    have hwhole := hnegate hfolded
    generalize (if negated then _ else _ : Ranges) = whole at hwhole hfinish
    split at hfinish
    · cases hfinish
    · cases hfinish
      exact hwhole

theorem Denotes.foldSide {side : ClassTree} (h : Denotes flags ranges holds)
    (hside : foldSide flags side ranges = .ok result) :
    Denotes flags result (flags.Folded holds) := by
  unfold Regex.foldSide at hside
  split at hside
  · next hfold =>
    cases hside
    exact h.unfolded (.inl (by simpa using hfold))
  · next hfold =>
    split at hside
    · cases hside
      exact h.foldAscii (by simpa using hfold)
    · split at hside
      · next hempty =>
        cases hside
        exact h.unfolded (.inr (by simpa using hempty))
      · cases hside

theorem propertyFault_ne_ok {name : String} {hasValue : Bool} :
    propertyFault flags extent name hasValue ≠ .ok ranges := by
  have heither (p : Prop) [Decidable p] (kind kind' : FaultKind) :
      (if p then fault kind extent else fault kind' extent) ≠ .ok ranges := by
    split <;> nofun
  intro h
  unfold propertyFault at h
  split at h
  · cases h
  · exact heither _ _ _ h

theorem toNat_le (c : Char) : c.toNat ≤ 0x10FFFF := by
  have h : c.toNat < 0xD800 ∨ 0xDFFF < c.toNat ∧ c.toNat < 0x110000 := c.valid
  omega

theorem classCode_eq {l : Literal} {code : Nat} (h : classCode flags l = .ok code) :
    code = l.char.toNat ∧ code ≤ flags.lastCode := by
  unfold classCode at h
  split at h
  · next hfits =>
    cases h
    refine ⟨rfl, ?_⟩
    rw [Bool.or_eq_true, decide_eq_true_eq] at hfits
    obtain hunicode | hsmall := hfits
    · rw [Flags.lastCode, if_pos hunicode]
      exact toNat_le l.char
    · exact Nat.le_trans hsmall (le_lastCode flags)
  · split at h <;> cases h

theorem denotes_range {first last : Nat} (hle : first ≤ last) (hlast : last ≤ flags.lastCode) :
    Denotes flags [(first, last)] fun code => first ≤ code ∧ code ≤ last :=
  ⟨⟨by simp [hle, hlast], Nat.zero_le _, trivial⟩, by simp⟩

theorem denotes_ascii (flags : Flags) (kind : AsciiClass) :
    Denotes flags kind.ranges (Has kind.ranges) := by
  have hlast := le_lastCode flags
  refine ⟨⟨?_, ?_⟩, fun _ => Iff.rfl⟩
  · cases kind <;> simp [AsciiClass.ranges] <;> omega
  · cases kind <;> simp [AsciiClass.ranges, Ranges.Ascend]

end

/-! ## From a class to its ranges -/

mutual

/-- The ranges of a class stand for what the class holds. -/
theorem ClassTree.denotes_ranges {flags : Flags} {ranges : Ranges} (tree : ClassTree)
    (hordered : tree.IsOrdered) (h : tree.ranges flags = .ok ranges) :
    Denotes flags ranges (tree.Holds flags) := by
  cases tree with
  | empty =>
    cases h
    exact ⟨⟨by simp, trivial⟩, fun code => by simp [Holds]⟩
  | literal l =>
    obtain ⟨code, hcode, ⟨⟩⟩ := bind_ok_iff.mp h
    obtain ⟨rfl, hle⟩ := classCode_eq hcode
    have hone := denotes_range (Nat.le_refl _) hle
    exact ⟨hone.inOrder, fun code => by rw [hone.has_iff, Holds]; omega⟩
  | range first last =>
    obtain ⟨low, hlow, h⟩ := bind_ok_iff.mp h
    obtain ⟨high, hhigh, ⟨⟩⟩ := bind_ok_iff.mp h
    obtain ⟨rfl, -⟩ := classCode_eq hlow
    obtain ⟨rfl, hle⟩ := classCode_eq hhigh
    exact denotes_range hordered hle
  | ascii extent kind negated => exact (denotes_ascii flags kind).finishClass h
  | perl extent kind negated =>
    rw [ClassTree.ranges, perlRanges] at h
    split at h
    · cases h
    · split at h
      · cases h
      · next hplain =>
        cases h
        refine ⟨(denotes_ascii flags kind).inOrder, fun code => ?_⟩
        simp [Holds, hplain]
  | property extent negated name hasValue =>
    exact absurd h propertyFault_ne_ok
  | bracketed extent negated inside =>
    obtain ⟨found, hinside, h⟩ := bind_ok_iff.mp h
    exact (inside.denotes_ranges hordered hinside).finishClass h
  | union extent parts => exact denotes_rangesOfAll parts hordered h
  | operation extent kind left right =>
    obtain ⟨a, hleft, h⟩ := bind_ok_iff.mp h
    obtain ⟨b, hright, h⟩ := bind_ok_iff.mp h
    obtain ⟨b', hright', h⟩ := bind_ok_iff.mp h
    obtain ⟨a', hleft', ⟨⟩⟩ := bind_ok_iff.mp h
    have ha := (left.denotes_ranges hordered.1 hleft).foldSide hleft'
    have hb := (right.denotes_ranges hordered.2 hright).foldSide hright'
    cases kind with
    | intersection =>
      refine ⟨Ranges.inOrder_intersection ha.inOrder hb.inOrder, fun code => ?_⟩
      rw [Ranges.has_intersection ha.inOrder hb.inOrder, ha.has_iff, hb.has_iff]
      rfl
    | difference =>
      refine ⟨Ranges.inOrder_difference ha.inOrder hb.inOrder, fun code => ?_⟩
      rw [Ranges.has_difference ha.inOrder hb.inOrder, ha.has_iff, hb.has_iff]
      rfl
    | symmetricDifference =>
      refine ⟨Ranges.inOrder_symmetricDifference ha.inOrder hb.inOrder, fun code => ?_⟩
      rw [Ranges.has_symmetricDifference ha.inOrder hb.inOrder, ha.has_iff, hb.has_iff]
      rfl

theorem ClassTree.denotes_rangesOfAll {flags : Flags} {ranges : Ranges} (parts : List ClassTree)
    (hordered : IsOrdered.allOrdered parts)
    (h : ClassTree.ranges.rangesOfAll flags parts = .ok ranges) :
    Denotes flags ranges (Holds.anyHolds flags parts) := by
  cases parts with
  | nil =>
    cases h
    exact ⟨⟨by simp, trivial⟩, fun code => by simp [Holds.anyHolds]⟩
  | cons part rest =>
    obtain ⟨first, hfirst, h⟩ := bind_ok_iff.mp h
    obtain ⟨others, hrest, ⟨⟩⟩ := bind_ok_iff.mp h
    have ha := part.denotes_ranges hordered.1 hfirst
    have hb := denotes_rangesOfAll rest hordered.2 hrest
    refine ⟨Ranges.inOrder_union ha.inOrder hb.inOrder, fun code => ?_⟩
    rw [Ranges.has_union ha.inOrder hb.inOrder, ha.has_iff, hb.has_iff, Holds.anyHolds]

end

/-! ## Classes that are read -/

namespace ClassTree

variable {parts : List ClassTree} {frames : List ClassFrame} {tree : ClassTree}

theorem allOrdered_iff : IsOrdered.allOrdered parts ↔ ∀ part ∈ parts, part.IsOrdered := by
  induction parts with
  | nil => simp [IsOrdered.allOrdered]
  | cons part rest ih => simp [IsOrdered.allOrdered, ih]

/-- What is still open around a class is ordered so far. -/
def FrameOrdered : ClassFrame → Prop
  | .opened around _ _ => ∀ part ∈ around, part.IsOrdered
  | .operation _ left => left.IsOrdered

theorem isOrdered_ofParts (h : ∀ part ∈ parts, part.IsOrdered) : (ofParts parts).IsOrdered := by
  unfold ofParts
  split
  · trivial
  · next part hreverse =>
    apply h
    rw [← List.mem_reverse, hreverse]
    exact .head _
  · have hall : IsOrdered.allOrdered parts.reverse :=
      allOrdered_iff.mpr fun part mem => h part (List.mem_reverse.mp mem)
    dsimp only
    split <;> exact hall

theorem isOrdered_joinWaiting (htree : tree.IsOrdered)
    (hframes : ∀ frame ∈ frames, FrameOrdered frame) :
    (joinWaiting tree frames).1.IsOrdered ∧
      ∀ frame ∈ (joinWaiting tree frames).2, FrameOrdered frame := by
  unfold joinWaiting
  split
  · next kind left rest =>
    rw [List.forall_mem_cons] at hframes
    exact ⟨⟨hframes.1, htree⟩, hframes.2⟩
  · exact ⟨htree, hframes⟩

end ClassTree

namespace Cursor

open ClassTree (FrameOrdered)

variable {cursor behind : Cursor}

theorem isOrdered_dashes {start : Position} {fuel : Nat} {found found' : List ClassTree}
    (h : classOpening.dashes start fuel found cursor = .ok (found', behind))
    (hfound : ∀ part ∈ found, part.IsOrdered) : ∀ part ∈ found', part.IsOrdered := by
  induction fuel generalizing found cursor with
  | zero =>
    cases h
    exact hfound
  | succ fuel ih =>
    rw [classOpening.dashes] at h
    split at h
    · dsimp only at h
      split at h
      · cases h
      · refine ih h ?_
        exact List.forall_mem_cons.mpr ⟨trivial, hfound⟩
    · cases h
      exact hfound

theorem isOrdered_classOpening {extent : Extent} {negated : Bool} {inside : List ClassTree}
    (h : cursor.classOpening = .ok ((extent, negated, inside), behind)) :
    ∀ part ∈ inside, part.IsOrdered := by
  unfold classOpening at h
  dsimp only at h
  split at h
  · cases h
  · generalize (if cursor.advance.isAt '^' then cursor.advance.advance else cursor.advance) =
      opened at h
    split at h
    · cases h
    · obtain ⟨⟨found, closing⟩, hdashes, h⟩ := bind_ok_iff.mp h
      have hfound := isOrdered_dashes hdashes (by simp)
      dsimp only at h
      split at h
      · split at h
        · cases h
        · cases h
          simp [ClassTree.IsOrdered]
      · cases h
        exact hfound

theorem isOrdered_namedClass? {part : ClassTree} (h : cursor.namedClass? = some (part, behind)) :
    part.IsOrdered := by
  unfold namedClass? at h
  simp only [Option.bind_eq_bind, Option.bind_eq_some_iff] at h
  obtain ⟨inside, -, closing, -, kind, -, h⟩ := h
  cases h
  trivial

theorem isOrdered_classRange {frames : List ClassFrame} {part : ClassTree}
    (h : cursor.classRange frames = .ok (part, behind)) : part.IsOrdered := by
  unfold classRange at h
  obtain ⟨⟨first, next⟩, -, h⟩ := bind_ok_iff.mp h
  dsimp only at h
  split at h
  · cases h
  · split at h
    · obtain ⟨single, hsingle, h⟩ := bind_ok_iff.mp h
      cases h
      unfold classPart at hsingle
      split at hsingle <;> cases hsingle <;> trivial
    · split at h
      · cases h
      · obtain ⟨⟨last, closing⟩, -, h⟩ := bind_ok_iff.mp h
        obtain ⟨low, -, h⟩ := bind_ok_iff.mp h
        obtain ⟨high, -, h⟩ := bind_ok_iff.mp h
        split at h
        · next hle =>
          cases h
          exact hle
        · cases h

theorem isOrdered_classFrom {fuel : Nat} {frames : List ClassFrame} {parts : List ClassTree}
    {tree : Tree} (hframes : ∀ frame ∈ frames, FrameOrdered frame)
    (hparts : ∀ part ∈ parts, part.IsOrdered)
    (h : classFrom fuel frames parts cursor = .ok (tree, behind)) :
    ∃ extent negated inside, tree = .bracketed extent negated inside ∧ inside.IsOrdered := by
  induction fuel generalizing frames parts cursor with
  | zero => cases h
  | succ fuel ih =>
    rw [classFrom] at h
    dsimp only at h
    split at h
    · cases h
    · split at h
      · next part next hnamed =>
        refine ih hframes (List.forall_mem_cons.mpr ⟨?_, hparts⟩) h
        split at hnamed
        · cases hnamed
        · exact isOrdered_namedClass? hnamed
      · obtain ⟨⟨⟨extent, negated, inside⟩, next⟩, hopening, h⟩ := bind_ok_iff.mp h
        have hopened : ∀ frame ∈ .opened parts extent negated :: frames, FrameOrdered frame :=
          List.forall_mem_cons.mpr ⟨hparts, hframes⟩
        exact ih hopened (isOrdered_classOpening hopening) h
    · obtain ⟨hinside, hjoined⟩ :=
        ClassTree.isOrdered_joinWaiting (ClassTree.isOrdered_ofParts hparts) hframes
      split at h
      · next around extent negated outer hclosed =>
        rw [hclosed, List.forall_mem_cons] at hjoined
        split at h
        · cases h
          exact ⟨_, _, _, rfl, hinside⟩
        · refine ih hjoined.2 (List.forall_mem_cons.mpr ⟨?_, hjoined.1⟩) h
          exact hinside
      · cases h
    · obtain ⟨hleft, hjoined⟩ :=
        ClassTree.isOrdered_joinWaiting (ClassTree.isOrdered_ofParts hparts) hframes
      refine ih ?_ (by simp) h
      exact List.forall_mem_cons.mpr ⟨hleft, hjoined⟩
    · obtain ⟨⟨part, next⟩, hrange, h⟩ := bind_ok_iff.mp h
      exact ih hframes (List.forall_mem_cons.mpr ⟨isOrdered_classRange hrange, hparts⟩) h

/-- A class that has been read has no range out of order. -/
theorem isOrdered_classTree {tree : Tree} (h : cursor.classTree = .ok (tree, behind)) :
    ∃ extent negated inside, tree = .bracketed extent negated inside ∧ inside.IsOrdered :=
  isOrdered_classFrom (by simp) (by simp) h

/-- A class that has been read and has a meaning is an atom for the characters that it holds. -/
theorem meaning_classTree {flags flags' : Flags} {tree : Tree} {meaning : Expression Meaning}
    (h : cursor.classTree = .ok (tree, behind))
    (hmeaning : tree.meaning flags = .ok (meaning, flags')) :
    ∃ extent negated inside ranges, tree = .bracketed extent negated inside ∧ flags' = flags ∧
      meaning = .atom (.known (.within ranges)) ∧
      ∀ c, ranges.has c = true ↔ flags.Finished negated (inside.Holds flags) c.toNat := by
  obtain ⟨extent, negated, inside, rfl, hordered⟩ := isOrdered_classTree h
  obtain ⟨found, hfound, hmeaning⟩ := bind_ok_iff.mp hmeaning
  obtain ⟨ranges, hfinish, ⟨⟩⟩ := bind_ok_iff.mp hmeaning
  have hdenotes := (inside.denotes_ranges hordered hfound).finishClass hfinish
  refine ⟨extent, negated, inside, ranges, rfl, rfl, rfl, ?_⟩
  intro c
  rw [Ranges.has_iff, hdenotes.has_iff]

end Cursor

end ColdBuild.Regex
