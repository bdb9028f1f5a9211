import ColdBuild.Text.Quoted

/-!
# Quoted text is read back

Whatever a text holds, what is written for it between two quotes is read back, and the reader stops
right behind the closing quote (`read?_encode`). A character that is written by its code takes the
six characters of its escape alone, also where another code follows.
-/
namespace ColdBuild.Quoted

def prepend (c : Char) (read : Option (List Char × List Char)) : Option (List Char × List Char) :=
  read.map fun (text, left) => (c :: text, left)

/-- A code that is no surrogate stands for a character by itself, whatever follows it. -/
theorem read?_code {a b c d : Char} {code : Nat} (is : codeOf? [a, b, c, d] = some code)
    (small : code < 0xD800) (rest : List Char) :
    read? ('\\' :: 'u' :: a :: b :: c :: d :: rest) = prepend (Char.ofNat code) (read? rest) := by
  have char (next : Option Nat) : charOf? code next = some (Char.ofNat code, false) := by
    rw [charOf?, if_pos (.inl small)]
  by_cases another : ∃ e f g h more, rest = '\\' :: 'u' :: e :: f :: g :: h :: more
  · obtain ⟨e, f, g, h, more, rfl⟩ := another
    rw [read?, is, Option.bind_eq_bind, Option.bind_some, char]
    rfl
  · rw [read?, is, Option.bind_eq_bind, Option.bind_some, char]
    · rfl
    · rintro e f g h more rfl
      exact another ⟨e, f, g, h, more, rfl⟩

theorem codeOf?_escapeCode : ∀ code < 0x20,
    codeOf? ['0', '0', Nat.digitChar (code / 16), Nat.digitChar (code % 16)] = some code := by
  decide

/-- An escape of one letter. -/
theorem read?_short {letter c : Char} (known : short? letter = some c) (rest : List Char) :
    read? ('\\' :: letter :: rest) = prepend c (read? rest) := by
  have noCode : letter ≠ 'u' := by
    rintro rfl
    cases known
  rw [read?]
  · rw [known]
    rfl
  all_goals intros; contradiction

/-- A character that stands for itself. -/
theorem read?_plain {c : Char} (noQuote : c ≠ '"') (noEscape : c ≠ '\\') (large : ¬ c.toNat < 0x20)
    (rest : List Char) : read? (c :: rest) = prepend c (read? rest) := by
  rw [read?]
  · rw [if_neg (not_or.mpr ⟨noEscape, large⟩)]
    rfl
  all_goals intros; contradiction

/-- One written character is read. -/
theorem read?_escape (c : Char) (rest : List Char) :
    read? (escape c ++ rest) = prepend c (read? rest) := by
  unfold escape
  -- the seven escapes of one letter
  iterate 7
    split
    · next h =>
      rw [h]
      exact read?_short rfl rest
  split
  · next control =>
    have code := read?_code (codeOf?_escapeCode c.toNat control) (by omega) rest
    rwa [Char.ofNat_toNat] at code
  · next noQuote noEscape _ _ _ _ _ large => exact read?_plain noQuote noEscape large rest

/-- A written text is read back, up to its closing quote. -/
theorem read?_encode (text rest : List Char) :
    read? (encode text ++ '"' :: rest) = some (text, rest) := by
  induction text with
  | nil => rw [encode, List.flatMap_nil, List.nil_append, read?]
  | cons c text ih =>
    rw [encode_cons, List.append_assoc, read?_escape, ih]
    rfl

end ColdBuild.Quoted
