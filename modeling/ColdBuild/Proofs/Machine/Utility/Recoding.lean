import ColdBuild.Machine.Utility.Dumping
import Mathlib.Data.List.GetD
import Mathlib.Data.List.Induction
import Mathlib.Data.Nat.Basic

/-!
# Octets in letters and digits

The octets that stand together are one number, and its digits stand in the alphabet. Reading the
characters gives the digits, the number and the octets back; so what octets are written as is well
written, and the same octets are read (`Alphabet.decode_encode`).
-/
namespace ColdBuild.Process.Alphabet

open Digest (low octetsOf pieces)

/-- What makes an alphabet fit for reading: no character stands for two digits or is a mark, and
the characters that stand together have as many bits as some octets. -/
structure IsSound (alphabet : Alphabet) : Prop where
  nodup : alphabet.chars.Nodup
  length_eq : alphabet.chars.length = 1 <<< alphabet.bits
  mark_notMem : '=' ∉ alphabet.chars
  bits_pos : 0 < alphabet.bits
  bits_le : alphabet.bits ≤ 8
  octets_pos : 0 < alphabet.octets
  octets_eq : alphabet.octets * 8 = alphabet.group * alphabet.bits

theorem isSound_base64 : base64.IsSound := by
  constructor <;> decide

theorem isSound_base32 : base32.IsSound := by
  constructor <;> decide

/-! ## Numbers and their octets -/

/-- The number that octets stand for, the highest one first. -/
def number (octets : List Nat) : Nat := octets.foldl (fun n octet => n * 256 + octet) 0

theorem number_concat (octets : List Nat) (octet : Nat) :
    number (octets ++ [octet]) = number octets * 256 + octet := by
  simp [number]

theorem number_append_zeros (octets : List Nat) (count : Nat) :
    number (octets ++ List.replicate count 0) = number octets <<< (count * 8) := by
  induction count with
  | zero => simp
  | succ count ih =>
    rw [List.replicate_succ', ← List.append_assoc, number_concat, ih, Nat.succ_mul,
      Nat.shiftLeft_add, Nat.shiftLeft_eq _ 8, Nat.add_zero]

theorem number_lt {octets : List Nat} (h : ∀ octet ∈ octets, octet < 256) :
    number octets < 1 <<< (octets.length * 8) := by
  induction octets using List.reverseRecOn with
  | nil => decide
  | append_singleton octets octet ih =>
    rw [List.forall_mem_append] at h
    have hfront := ih h.1
    have hlast := h.2 octet (List.mem_singleton_self _)
    rw [number_concat, List.length_append, List.length_singleton, Nat.succ_mul, Nat.shiftLeft_add,
      Nat.shiftLeft_eq _ 8]
    omega

theorem octetsOf_number {octets : List Nat} (h : ∀ octet ∈ octets, octet < 256) :
    octetsOf octets.length (number octets) = octets.reverse := by
  induction octets using List.reverseRecOn with
  | nil => rfl
  | append_singleton octets octet ih =>
    rw [List.forall_mem_append] at h
    have hlast := h.2 octet (List.mem_singleton_self _)
    have hquotient : (number octets * 256 + octet) / 256 = number octets := by omega
    have hremainder : (number octets * 256 + octet) % 256 = octet := by omega
    rw [number_concat, List.length_append, List.length_singleton, octetsOf, hquotient, hremainder,
      ih h.1, List.reverse_append]
    rfl

/-! ## Digits -/

section

variable (bits group n : Nat)

/-- A digit of a number that has as many as stand together, the highest one first. -/
def digit (i : Nat) : Nat := low bits (n >>> ((group - 1 - i) * bits))

variable {bits group n}

/-- The first digits are what stands above the others. -/
theorem foldl_digit (hn : n < 1 <<< (group * bits)) {used : Nat} (hused : used ≤ group) :
    ((List.range used).map (digit bits group n)).foldl (fun m value => (m <<< bits) + value) 0 =
      n >>> ((group - used) * bits) := by
  induction used with
  | zero =>
    rw [Nat.shiftLeft_eq, Nat.one_mul] at hn
    simp [Nat.shiftRight_eq_div_pow, Nat.div_eq_of_lt hn]
  | succ used ih =>
    have hplace : group - used = group - 1 - used + 1 := by omega
    have hnext : group - (used + 1) = group - 1 - used := by omega
    rw [List.range_succ, List.map_append, List.foldl_append, ih (by omega), hplace, hnext,
      Nat.succ_mul, Nat.shiftRight_add]
    simp only [List.map_cons, List.map_nil, List.foldl_cons, List.foldl_nil, digit, low]
    rw [Nat.shiftLeft_eq, Nat.shiftRight_eq_div_pow _ bits, Nat.shiftLeft_eq, Nat.one_mul]
    exact Nat.div_add_mod' _ _

end

/-! ## Octets that stand together -/

section

variable {alphabet : Alphabet} (sound : alphabet.IsSound)

/-- How many characters some octets take up. -/
def used (alphabet : Alphabet) (count : Nat) : Nat :=
  (count * 8 + alphabet.bits - 1) / alphabet.bits

include sound

theorem used_bounds (count : Nat) : count * 8 ≤ alphabet.used count * alphabet.bits ∧
    alphabet.used count * alphabet.bits < count * 8 + alphabet.bits := by
  have hpos := sound.bits_pos
  have hquotient := Nat.div_add_mod' (count * 8 + alphabet.bits - 1) alphabet.bits
  have hremainder := Nat.mod_lt (count * 8 + alphabet.bits - 1) hpos
  rw [used]
  omega

theorem octets_le_group : alphabet.octets ≤ alphabet.group := by
  have hbits := Nat.mul_le_mul_left alphabet.group sound.bits_le
  have hoctets := sound.octets_eq
  omega

theorem used_le {count : Nat} (h : count ≤ alphabet.octets) :
    alphabet.used count ≤ alphabet.group := by
  have hbound := (used_bounds sound count).2
  have hoctets := sound.octets_eq
  have hlt : alphabet.used count * alphabet.bits < (alphabet.group + 1) * alphabet.bits := by
    rw [Nat.succ_mul]
    omega
  exact Nat.le_of_lt_succ (Nat.lt_of_mul_lt_mul_right hlt)

theorem used_octets : alphabet.used alphabet.octets = alphabet.group := by
  have hbound := (used_bounds sound alphabet.octets).1
  rw [sound.octets_eq] at hbound
  exact Nat.le_antisymm (used_le sound (Nat.le_refl _))
    (Nat.le_of_mul_le_mul_right hbound sound.bits_pos)

theorem used_lt {count : Nat} (h : count < alphabet.octets) :
    alphabet.used count < alphabet.group := by
  have hbound := (used_bounds sound count).2
  have hoctets := sound.octets_eq
  have hbits := sound.bits_le
  exact Nat.lt_of_mul_lt_mul_right (a := alphabet.bits) (by omega)

omit sound

/-- The characters of some digits. -/
def written (alphabet : Alphabet) (n used : Nat) : List Char :=
  (List.range used).map fun i =>
    alphabet.chars.getD (digit alphabet.bits alphabet.group n i) '='

@[simp] theorem length_written (n used : Nat) : (alphabet.written n used).length = used := by
  simp [written]

variable {piece : List Nat}

theorem length_encodePiece (piece : List Nat) :
    (alphabet.encodePiece piece).length = alphabet.group := by
  simp [encodePiece]

theorem encodePiece_eq (h : alphabet.used piece.length ≤ alphabet.group) :
    alphabet.encodePiece piece =
      alphabet.written (number piece <<< ((alphabet.octets - piece.length) * 8))
          (alphabet.used piece.length) ++
        List.replicate (alphabet.group - alphabet.used piece.length) '=' := by
  have hrange : List.range alphabet.group = List.range (alphabet.used piece.length) ++
      (List.range (alphabet.group - alphabet.used piece.length)).map
        (alphabet.used piece.length + ·) := by
    rw [← List.range_add, Nat.add_sub_cancel' h]
  rw [← number_append_zeros, encodePiece, hrange, List.map_append, List.map_map]
  congr 1
  · apply List.map_congr_left
    intro i hi
    exact if_neg (Nat.not_le.mpr (List.mem_range.mp hi))
  · rw [List.eq_replicate_iff]
    refine ⟨by simp, ?_⟩
    intro c hc
    obtain ⟨i, -, rfl⟩ := List.mem_map.mp hc
    exact if_pos (Nat.le_add_right _ _)

include sound

theorem digit_lt (n i : Nat) :
    digit alphabet.bits alphabet.group n i < alphabet.chars.length := by
  rw [sound.length_eq]
  exact Nat.mod_lt _ (by rw [Nat.shiftLeft_eq, Nat.one_mul]; exact Nat.two_pow_pos _)

theorem mem_of_mem_written {n used : Nat} {c : Char} (h : c ∈ alphabet.written n used) :
    c ∈ alphabet.chars := by
  obtain ⟨i, -, rfl⟩ := List.mem_map.mp h
  rw [List.getD_eq_getElem _ _ (digit_lt sound n i)]
  exact List.getElem_mem _

theorem map_idxOf_written (n used : Nat) :
    (alphabet.written n used).map (alphabet.chars.idxOf ·) =
      (List.range used).map (digit alphabet.bits alphabet.group n) := by
  rw [written, List.map_map]
  apply List.map_congr_left
  intro i _
  rw [Function.comp_apply, List.getD_eq_getElem _ _ (digit_lt sound n i)]
  exact sound.nodup.idxOf_getElem _ _

theorem takeWhile_written (n used count : Nat) :
    (alphabet.written n used ++ List.replicate count '=').takeWhile
      (fun c => alphabet.chars.contains c) = alphabet.written n used := by
  have hmarks : (List.replicate count '=').takeWhile (fun c => alphabet.chars.contains c) = [] := by
    cases count with
    | zero => rfl
    | succ count =>
      rw [List.replicate_succ, List.takeWhile_cons_of_neg]
      simpa using sound.mark_notMem
  rw [List.takeWhile_append_of_pos, hmarks, List.append_nil]
  intro c hc
  simpa using mem_of_mem_written sound hc

/-- The digits of octets are those of their number, as far as it has any. -/
theorem octetsOf_digits (hle : piece.length ≤ alphabet.octets)
    (hpiece : ∀ octet ∈ piece, octet < 256) :
    octetsOf piece.length (((List.range (alphabet.used piece.length)).map
      (digit alphabet.bits alphabet.group
        (number piece <<< ((alphabet.octets - piece.length) * 8)))).foldl
          (fun m value => (m <<< alphabet.bits) + value) 0 >>>
            (alphabet.used piece.length * alphabet.bits - piece.length * 8)) = piece.reverse := by
  have hbounds := used_bounds sound piece.length
  have hoctets := sound.octets_eq
  have hsmall : number piece <<< ((alphabet.octets - piece.length) * 8) <
      1 <<< (alphabet.group * alphabet.bits) := by
    have hbits : alphabet.group * alphabet.bits =
        piece.length * 8 + (alphabet.octets - piece.length) * 8 := by
      omega
    rw [hbits, Nat.shiftLeft_add, Nat.shiftLeft_eq, Nat.shiftLeft_eq (1 <<< _)]
    exact Nat.mul_lt_mul_of_pos_right (number_lt hpiece) (Nat.two_pow_pos _)
  have hshift : (alphabet.group - alphabet.used piece.length) * alphabet.bits +
      (alphabet.used piece.length * alphabet.bits - piece.length * 8) =
        (alphabet.octets - piece.length) * 8 := by
    rw [Nat.sub_mul, Nat.sub_mul, hoctets]
    have := Nat.mul_le_mul_right alphabet.bits (used_le sound hle)
    omega
  rw [foldl_digit hsmall (used_le sound hle), ← Nat.shiftRight_add, hshift,
    Nat.shiftLeft_shiftRight, octetsOf_number hpiece]

theorem decode_encodePiece (hpos : 0 < piece.length) (hle : piece.length ≤ alphabet.octets)
    (hpiece : ∀ octet ∈ piece, octet < 256) (fuel : Nat) (rest : List Char) :
    alphabet.decode (fuel + 1) (alphabet.encodePiece piece ++ rest) =
      if piece.length = alphabet.octets then
        (piece ++ (alphabet.decode fuel rest).1, (alphabet.decode fuel rest).2)
      else (piece, rest.isEmpty) := by
  have hlength := @length_encodePiece alphabet piece
  have htake : (alphabet.encodePiece piece ++ rest).take alphabet.group =
      alphabet.encodePiece piece := by
    rw [← hlength, List.take_left]
  have hdrop : (alphabet.encodePiece piece ++ rest).drop alphabet.group = rest := by
    rw [← hlength, List.drop_left]
  have hcount : alphabet.used piece.length * alphabet.bits / 8 = piece.length := by
    have hbounds := used_bounds sound piece.length
    have hbits := sound.bits_le
    omega
  have hne : alphabet.encodePiece piece ++ rest ≠ [] := by
    have hgroup := octets_le_group sound
    rw [ne_eq, List.append_eq_nil_iff, ← List.length_eq_zero_iff, hlength]
    omega
  rw [decode]
  swap
  · exact hne
  dsimp only
  rw [htake, hlength, hdrop, encodePiece_eq (used_le sound hle), takeWhile_written sound,
    length_written, map_idxOf_written sound, hcount, octetsOf_digits sound hle hpiece,
    List.reverse_reverse, List.drop_left' (length_written _ _)]
  have hbounds := used_bounds sound piece.length
  have hrest : alphabet.used piece.length * alphabet.bits - piece.length * 8 < alphabet.bits := by
    omega
  by_cases hwhole : piece.length = alphabet.octets
  · have hmarks : alphabet.group - alphabet.used piece.length = 0 := by
      rw [hwhole, used_octets sound, Nat.sub_self]
    rw [if_pos hwhole]
    simp [hmarks, hrest, hpos]
  · have hlt := used_lt sound (Nat.lt_of_le_of_ne hle hwhole)
    have hmarks : ¬ alphabet.group - alphabet.used piece.length = 0 := by omega
    rw [if_neg hwhole]
    simp [hmarks, hrest, hpos]

end

/-! ## Any number of octets -/

theorem decode_flatMap_pieces {alphabet : Alphabet} (sound : alphabet.IsSound)
    {octets : List Nat} (hoctets : ∀ octet ∈ octets, octet < 256) {steps fuel : Nat}
    (hsteps : octets.length ≤ steps) (hfuel : octets.length ≤ fuel) :
    alphabet.decode fuel ((pieces alphabet.octets steps octets).flatMap alphabet.encodePiece) =
      (octets, true) := by
  induction steps generalizing octets fuel with
  | zero =>
    obtain rfl : octets = [] := List.eq_nil_of_length_eq_zero (by omega)
    cases fuel <;> rfl
  | succ steps ih =>
    by_cases hnil : octets = []
    · subst hnil
      cases fuel <;> rfl
    · have hlength := List.length_pos_iff.mpr hnil
      have hpos := sound.octets_pos
      obtain ⟨fuel, rfl⟩ : ∃ n, fuel = n + 1 := ⟨fuel - 1, by omega⟩
      have hpieces : pieces alphabet.octets (steps + 1) octets =
          octets.take alphabet.octets ::
            pieces alphabet.octets steps (octets.drop alphabet.octets) := by
        rw [pieces]
        exact hnil
      have htake : (octets.take alphabet.octets).length =
          min alphabet.octets octets.length := List.length_take
      have hdrop : (octets.drop alphabet.octets).length =
          octets.length - alphabet.octets := List.length_drop
      have hrest := @ih (octets.drop alphabet.octets)
        (fun octet h => hoctets octet (List.mem_of_mem_drop h)) fuel (by omega) (by omega)
      rw [hpieces, List.flatMap_cons, decode_encodePiece sound (by omega) (by omega)
        (fun octet h => hoctets octet (List.mem_of_mem_take h)), hrest, List.take_append_drop]
      split
      · rfl
      · have hshort : octets.length ≤ alphabet.octets := by omega
        rw [List.take_of_length_le hshort, List.drop_of_length_le hshort]
        cases steps <;> rfl

theorem length_le_length_flatMap_pieces {alphabet : Alphabet} (sound : alphabet.IsSound)
    {octets : List Nat} {steps : Nat} (hsteps : octets.length ≤ steps) :
    octets.length ≤
      ((pieces alphabet.octets steps octets).flatMap alphabet.encodePiece).length := by
  induction steps generalizing octets with
  | zero => omega
  | succ steps ih =>
    cases octets with
    | nil => exact Nat.zero_le _
    | cons octet octets =>
      have hpos := sound.octets_pos
      have hgroup := octets_le_group sound
      have hrest := @ih ((octet :: octets).drop alphabet.octets)
        (by rw [List.length_drop]; omega)
      rw [List.length_drop] at hrest
      rw [pieces, List.flatMap_cons, List.length_append, length_encodePiece]
      · omega
      · simp

/-- What octets are written as is well written, and read back as the same octets. -/
theorem decode_encode {alphabet : Alphabet} (sound : alphabet.IsSound) {octets : List Nat}
    (hoctets : ∀ octet ∈ octets, octet < 256) {fuel : Nat}
    (hfuel : (alphabet.encode octets).length ≤ fuel) :
    alphabet.decode fuel (alphabet.encode octets) = (octets, true) :=
  decode_flatMap_pieces sound hoctets (Nat.le_refl _)
    (Nat.le_trans (length_le_length_flatMap_pieces sound (Nat.le_refl _)) hfuel)

end ColdBuild.Process.Alphabet
