import ColdBuild.Text.Utf8

/-!
# Well-formed bytes are read as their text

The reader goes byte by byte, so a character is read in as many steps as it has bytes: one that
begins it (`start`) and then those that continue it. What they leave is read from between characters
again, and so the bytes of a text are read as this text, with nothing replaced (`decode_encode`).

A character of one byte is read as such behind any other bytes, too: no character goes on with it,
so what has begun in front of it ends there (`decode_concat`).
-/
namespace ColdBuild.Utf8

section

variable {b : UInt8} (rest : List UInt8)

/-- A byte that is a character of its own. -/
theorem decodeFrom_one (small : b.toNat < 0x80) :
    decodeFrom none (b :: rest) = Char.ofNat b.toNat :: decodeFrom none rest := by
  simp only [decodeFrom, step, start]
  rw [if_pos small]
  rfl

/-- The first of two bytes. -/
theorem decodeFrom_two (least : 0xC2 ≤ b.toNat) (most : b.toNat < 0xE0) :
    decodeFrom none (b :: rest) = decodeFrom (some ⟨b.toNat % 32, 1, 0x80, 0xBF⟩) rest := by
  simp only [decodeFrom, step, start]
  rw [if_neg (by omega), if_neg (by omega), if_pos most]
  rfl

/-- The first of three bytes. -/
theorem decodeFrom_three (least : 0xE0 ≤ b.toNat) (most : b.toNat < 0xF0) :
    decodeFrom none (b :: rest) =
      decodeFrom (some ⟨b.toNat % 16, 2, if b.toNat = 0xE0 then 0xA0 else 0x80,
        if b.toNat = 0xED then 0x9F else 0xBF⟩) rest := by
  simp only [decodeFrom, step, start]
  rw [if_neg (by omega), if_neg (by omega), if_neg (by omega), if_pos most]
  rfl

/-- The first of four bytes. -/
theorem decodeFrom_four (least : 0xF0 ≤ b.toNat) (most : b.toNat < 0xF5) :
    decodeFrom none (b :: rest) =
      decodeFrom (some ⟨b.toNat % 8, 3, if b.toNat = 0xF0 then 0x90 else 0x80,
        if b.toNat = 0xF4 then 0x8F else 0xBF⟩) rest := by
  simp only [decodeFrom, step, start]
  rw [if_neg (by omega), if_neg (by omega), if_neg (by omega), if_neg (by omega), if_pos most]
  rfl

variable {bits owed low high : Nat} (least : low ≤ b.toNat) (most : b.toNat ≤ high)
include least most

/-- A byte that a character goes on with. -/
theorem decodeFrom_more (owes : 1 < owed) :
    decodeFrom (some ⟨bits, owed, low, high⟩) (b :: rest) =
      decodeFrom (some ⟨bits * 64 + b.toNat % 64, owed - 1, 0x80, 0xBF⟩) rest := by
  simp [decodeFrom, step, least, most, Nat.not_le.mpr owes]

/-- The byte that a character ends with. -/
theorem decodeFrom_last :
    decodeFrom (some ⟨bits, 1, low, high⟩) (b :: rest) =
      Char.ofNat (bits * 64 + b.toNat % 64) :: decodeFrom none rest := by
  simp [decodeFrom, step, least, most]

end

/-- The bytes of a character are read as this character. -/
theorem decodeFrom_utf8EncodeChar (c : Char) (rest : List UInt8) :
    decodeFrom none (String.utf8EncodeChar c ++ rest) = c :: decodeFrom none rest := by
  have valid : c.val.toNat < 0xD800 ∨ 0xDFFF < c.val.toNat ∧ c.val.toNat < 0x110000 := c.valid
  have byte {n : Nat} (lt : n < 256) : (UInt8.ofNat n).toNat = n := UInt8.toNat_ofNat_of_lt' lt
  have isChar {n : Nat} (is : n = c.val.toNat) : Char.ofNat n = c := is ▸ Char.ofNat_toNat c
  unfold String.utf8EncodeChar
  dsimp only
  split
  · have first := byte (show c.val.toNat < 256 by omega)
    rw [List.singleton_append, decodeFrom_one _ (by omega), isChar first]
  have last := byte (show c.val.toNat % 64 + 0x80 < 256 by omega)
  split
  · have first := byte (show c.val.toNat / 64 % 32 + 0xC0 < 256 by omega)
    rw [List.cons_append, List.singleton_append, decodeFrom_two _ (by omega) (by omega),
      decodeFrom_last _ (by omega) (by omega), isChar (by omega)]
  have middle := byte (show c.val.toNat / 64 % 64 + 0x80 < 256 by omega)
  split
  · have first := byte (show c.val.toNat / 4096 % 16 + 0xE0 < 256 by omega)
    rw [List.cons_append, List.cons_append, List.singleton_append,
      decodeFrom_three _ (by omega) (by omega), decodeFrom_more _ (by split <;> omega)
      (by split <;> omega) (by decide), decodeFrom_last _ (by omega) (by omega), isChar (by omega)]
  · have first := byte (show c.val.toNat / 262144 % 8 + 0xF0 < 256 by omega)
    have second := byte (show c.val.toNat / 4096 % 64 + 0x80 < 256 by omega)
    rw [List.cons_append, List.cons_append, List.cons_append, List.singleton_append,
      decodeFrom_four _ (by omega) (by omega), decodeFrom_more _ (by split <;> omega)
      (by split <;> omega) (by decide), decodeFrom_more _ (by omega) (by omega) (by decide),
      decodeFrom_last _ (by omega) (by omega), isChar (by omega)]

/-- The bytes of a text are those of its characters. -/
theorem encode_eq (text : String) :
    encode text = text.toList.flatMap String.utf8EncodeChar := by
  rw [encode, String.toUTF8_eq_toByteArray, ← String.ofList_toList (s := text),
    String.toByteArray_ofList, List.utf8Encode, List.data_toByteArray, String.ofList_toList]

/-- The bytes of a text are read as the text. -/
theorem decode_encode (text : String) : decode (encode text) = text := by
  have all (chars : List Char) :
      decodeFrom none (chars.flatMap String.utf8EncodeChar) = chars := by
    induction chars with
    | nil => rfl
    | cons c chars ih => rw [List.flatMap_cons, decodeFrom_utf8EncodeChar, ih]
  rw [decode, encode_eq, all, String.ofList_toList]

theorem low_start {b : UInt8} {begun : Begun} (begins : (start b).2 = some begun) :
    0x80 ≤ begun.low := by
  unfold start at begins
  dsimp only at begins
  repeat' split at begins
  all_goals cases begins
  all_goals simp only [Nat.le_refl, Nat.reduceLeDiff]

/-- A character that has begun does not go on with a byte that is a character of its own. -/
theorem low_step {before : Option Begun} {b : UInt8} {begun : Begun}
    (goesOn : (step before b).2 = some begun) : 0x80 ≤ begun.low := by
  unfold step at goesOn
  split at goesOn
  · exact low_start goesOn
  · split at goesOn
    · dsimp only at goesOn
      split at goesOn
      · cases goesOn
      · cases goesOn
        exact Nat.le_refl 0x80
    · exact low_start goesOn

theorem decodeFrom_concat {b : UInt8} (small : b.toNat < 0x80) (bytes : List UInt8)
    {before : Option Begun} (low : ∀ begun, before = some begun → 0x80 ≤ begun.low) :
    decodeFrom before (bytes ++ [b]) = decodeFrom before bytes ++ [Char.ofNat b.toNat] := by
  induction bytes generalizing before with
  | nil =>
    cases before with
    | none => exact decodeFrom_one [] small
    | some begun =>
      have short : ¬ begun.low ≤ b.toNat := by
        have least := low begun rfl
        omega
      simp [decodeFrom, step, start, short, small]
  | cons c rest ih =>
    -- Whatever has begun with `c`, the last byte is too small to go on with it.
    simp only [List.cons_append, decodeFrom]
    rw [ih fun begun => low_step, List.append_assoc]

/-- A character of one byte at the end is read as such, whatever stands in front of it. -/
theorem decode_concat {b : UInt8} (small : b.toNat < 0x80) (bytes : List UInt8) :
    decode (bytes ++ [b]) = (decode bytes).push (Char.ofNat b.toNat) := by
  have between : ∀ begun, (none : Option Begun) = some begun → 0x80 ≤ begun.low := by simp
  rw [decode, decodeFrom_concat small bytes between, decode, ← String.toList_inj]
  simp

end ColdBuild.Utf8
