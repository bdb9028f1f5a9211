import ColdBuild.CommandLine.Integer
import ColdBuild.Proofs.Decimal.Reading
import ColdBuild.Proofs.Outcome

/-!
# What is read as an integer

A text is accepted if it is a sign, or none, and digits, and the number that it stands for fits
(`SignedInteger.parse_ok_iff`); what is read is that number, so every integer is read back from its
decimal text (`SignedInteger.parse_toString`). A number that does not fit is reported as soon as
some front of the text stands for one, whatever comes behind (`SignedInteger.parse_tooLarge_iff`,
`SignedInteger.parse_tooSmall_iff`).
-/
namespace ColdBuild.SignedInteger

open Numeral (IsDigits isDigits_toDigits)

/-- The text is a sign, or none, and digits, and stands for the value. -/
inductive Spells : List Char → Int → Prop where
  | unsigned {digits : List Char} (isDigits : IsDigits digits) :
    Spells digits (Nat.ofDigitChars 10 digits 0)
  | plus {digits : List Char} (isDigits : IsDigits digits) :
    Spells ('+' :: digits) (Nat.ofDigitChars 10 digits 0)
  | minus {digits : List Char} (isDigits : IsDigits digits) :
    Spells ('-' :: digits) (-Nat.ofDigitChars 10 digits 0)

section

variable {limit magnitude value : Nat} {past : IntegerFault} {c : Char} {rest text : List Char}

theorem digit?_eq_some (digit : c.isDigit = true) : digit? c = some (c.toNat - '0'.toNat) := by
  have bounds : '0' ≤ c ∧ c ≤ '9' := by
    simpa [Char.isDigit, Char.le_def] using digit
  simp [digit?, bounds]

theorem digit?_eq_none (other : c.isDigit = false) : digit? c = none := by
  have bounds : ¬('0' ≤ c ∧ c ≤ '9') := by
    intro bounds
    have digit : c.isDigit = true := by simpa [Char.isDigit, Char.le_def] using bounds
    simp [other] at digit
  simp [digit?, bounds]

theorem le_ofDigitChars (text : List Char) (magnitude : Nat) :
    magnitude ≤ Nat.ofDigitChars 10 text magnitude := by
  rw [Nat.ofDigitChars_eq_ofDigitChars_zero]
  have := Nat.le_mul_of_pos_left magnitude (Nat.pow_pos (n := text.length) (show 0 < 10 by decide))
  omega

/-- Digits are read if there is nothing else and the number fits. -/
theorem digits_ok_iff (fits : magnitude ≤ limit) :
    digits limit past magnitude text = .ok value ↔ (∀ c ∈ text, c.isDigit = true) ∧
      Nat.ofDigitChars 10 text magnitude = value ∧ value ≤ limit := by
  induction text generalizing magnitude with
  | nil =>
    simp only [digits, Except.ok.injEq, Nat.ofDigitChars_nil, List.not_mem_nil, false_implies,
      implies_true, true_and]
    omega
  | cons c text ih =>
    cases digit : c.isDigit with
    | false => simp [digits, digit?_eq_none digit, digit]
    | true =>
      rw [Nat.ofDigitChars_cons, Nat.mul_comm 10 magnitude]
      simp only [digits, digit?_eq_some digit, List.forall_mem_cons, digit, true_and]
      split
      · next further => exact ih further
      · next full =>
        have larger := le_ofDigitChars text (magnitude * 10 + (c.toNat - '0'.toNat))
        simp only [reduceCtorEq, false_iff]
        omega

/-- A number that does not fit is found with the first digits that make it so. -/
theorem digits_past_iff (fits : magnitude ≤ limit) (other : past ≠ .badDigit) :
    digits limit past magnitude text = .error past ↔ ∃ front back, text = front ++ back ∧
      (∀ c ∈ front, c.isDigit = true) ∧ limit < Nat.ofDigitChars 10 front magnitude := by
  induction text generalizing magnitude with
  | nil =>
    simp only [digits, reduceCtorEq, false_iff]
    rintro ⟨front, back, same, -, beyond⟩
    obtain ⟨rfl, -⟩ := List.append_eq_nil_iff.mp same.symm
    rw [Nat.ofDigitChars_nil] at beyond
    omega
  | cons c text ih =>
    -- the front is not empty, since what has been read so far fits
    have split : (∃ front back, c :: text = front ++ back ∧ (∀ c ∈ front, c.isDigit = true) ∧
          limit < Nat.ofDigitChars 10 front magnitude) ↔
        c.isDigit = true ∧ ∃ front back, text = front ++ back ∧
          (∀ c ∈ front, c.isDigit = true) ∧ limit < Nat.ofDigitChars 10 front
            (magnitude * 10 + (c.toNat - '0'.toNat)) := by
      constructor
      · rintro ⟨_ | ⟨d, front⟩, back, same, isDigit, beyond⟩
        · rw [Nat.ofDigitChars_nil] at beyond
          omega
        · obtain ⟨rfl, rfl⟩ := List.cons_eq_cons.mp same
          rw [List.forall_mem_cons] at isDigit
          rw [Nat.ofDigitChars_cons, Nat.mul_comm 10 magnitude] at beyond
          exact ⟨isDigit.1, front, back, rfl, isDigit.2, beyond⟩
      · rintro ⟨digit, front, back, rfl, isDigit, beyond⟩
        refine ⟨c :: front, back, rfl, List.forall_mem_cons.mpr ⟨digit, isDigit⟩, ?_⟩
        rwa [Nat.ofDigitChars_cons, Nat.mul_comm 10 magnitude]
    rw [split]
    cases digit : c.isDigit with
    | false => simp [digits, digit?_eq_none digit, other.symm]
    | true =>
      simp only [digits, digit?_eq_some digit, true_and]
      split
      · next further => exact ih further
      · next full =>
        simp only [true_iff]
        exact ⟨[], text, rfl, by simp, by simpa [Nat.ofDigitChars_nil] using full⟩

end

section

variable {rest chars : List Char} {text : String} {value : Int} {n : Int64}

theorem spells_minus_iff : Spells ('-' :: rest) value ↔
    IsDigits rest ∧ value = -Nat.ofDigitChars 10 rest 0 := by
  constructor
  · intro spells
    cases spells with
    | unsigned isDigits => exact absurd (isDigits.digit '-' List.mem_cons_self) (by decide)
    | minus isDigits => exact ⟨isDigits, rfl⟩
  · rintro ⟨isDigits, rfl⟩
    exact .minus isDigits

theorem spells_plus_iff : Spells ('+' :: rest) value ↔
    IsDigits rest ∧ value = Nat.ofDigitChars 10 rest 0 := by
  constructor
  · intro spells
    cases spells with
    | unsigned isDigits => exact absurd (isDigits.digit '+' List.mem_cons_self) (by decide)
    | plus isDigits => exact ⟨isDigits, rfl⟩
  · rintro ⟨isDigits, rfl⟩
    exact .plus isDigits

theorem spells_unsigned_iff (minus : ∀ rest, chars ≠ '-' :: rest)
    (plus : ∀ rest, chars ≠ '+' :: rest) :
    Spells chars value ↔ IsDigits chars ∧ value = Nat.ofDigitChars 10 chars 0 := by
  constructor
  · intro spells
    cases spells with
    | unsigned isDigits => exact ⟨isDigits, rfl⟩
    | plus => exact absurd rfl (plus _)
    | minus => exact absurd rfl (minus _)
  · rintro ⟨isDigits, rfl⟩
    exact .unsigned isDigits

theorem not_isDigits_nil : ¬IsDigits [] := fun isDigits => isDigits.nonempty rfl

theorem not_spells_nil : ¬Spells [] value := by
  intro spells
  cases spells with
  | unsigned isDigits => exact not_isDigits_nil isDigits

theorem limits : Int64.maxValue.toInt = ((1 <<< 63 : Nat) - 1 : Nat) ∧
    Int64.minValue.toInt = -(1 <<< 63 : Nat) := by
  decide

theorem ofNat_eq_iff {magnitude : Nat} (fits : magnitude ≤ (1 <<< 63) - 1) :
    Int64.ofNat magnitude = n ↔ n.toInt = magnitude := by
  rw [← Int64.toInt_inj, Int64.toInt_ofNat_of_lt (by omega)]
  exact eq_comm

theorem ofInt_neg_eq_iff {magnitude : Nat} (fits : magnitude ≤ 1 <<< 63) :
    Int64.ofInt (-magnitude) = n ↔ n.toInt = -magnitude := by
  rw [← Int64.toInt_inj, Int64.toInt_ofInt_of_le (by omega) (by omega)]
  exact eq_comm

theorem natural_ok_iff (nonempty : rest ≠ []) :
    (do return Int64.ofNat (← digits ((1 <<< 63) - 1) .tooLarge 0 rest)) = .ok n ↔
      IsDigits rest ∧ n.toInt = Nat.ofDigitChars 10 rest 0 := by
  have most := n.toInt_le
  rw [limits.1] at most
  rw [return_ok_iff]
  constructor
  · rintro ⟨magnitude, read, same⟩
    obtain ⟨digit, rfl, fits⟩ := (digits_ok_iff (Nat.zero_le _)).mp read
    exact ⟨⟨nonempty, digit⟩, (ofNat_eq_iff fits).mp same⟩
  · rintro ⟨isDigits, same⟩
    have fits : Nat.ofDigitChars 10 rest 0 ≤ (1 <<< 63) - 1 := by omega
    exact ⟨_, (digits_ok_iff (Nat.zero_le _)).mpr ⟨isDigits.digit, rfl, fits⟩,
      (ofNat_eq_iff fits).mpr same⟩

theorem negative_ok_iff (nonempty : rest ≠ []) :
    (do
      let magnitude ← digits (1 <<< 63) .tooSmall 0 rest
      return Int64.ofInt (-magnitude)) = .ok n ↔
      IsDigits rest ∧ n.toInt = -Nat.ofDigitChars 10 rest 0 := by
  have least := n.minValue_le_toInt
  rw [limits.2] at least
  rw [return_ok_iff]
  constructor
  · rintro ⟨magnitude, read, same⟩
    obtain ⟨digit, rfl, fits⟩ := (digits_ok_iff (Nat.zero_le _)).mp read
    exact ⟨⟨nonempty, digit⟩, (ofInt_neg_eq_iff fits).mp same⟩
  · rintro ⟨isDigits, same⟩
    have fits : Nat.ofDigitChars 10 rest 0 ≤ 1 <<< 63 := by omega
    exact ⟨_, (digits_ok_iff (Nat.zero_le _)).mpr ⟨isDigits.digit, rfl, fits⟩,
      (ofInt_neg_eq_iff fits).mpr same⟩

/-- What is read is the number that the text stands for; a text that stands for none, or for one
that does not fit, is not accepted. -/
theorem parse_ok_iff : parse text = .ok n ↔ Spells text.toList n.toInt := by
  unfold parse
  split
  · next shape => simp [shape, not_spells_nil]
  · next shape => simp [shape, spells_plus_iff, not_isDigits_nil]
  · next shape => simp [shape, spells_minus_iff, not_isDigits_nil]
  · next rest nonempty shape => rw [shape, spells_minus_iff, negative_ok_iff nonempty]
  · next rest nonempty shape => rw [shape, spells_plus_iff, natural_ok_iff nonempty]
  · next nonempty _ _ minus plus =>
    rw [spells_unsigned_iff minus plus, natural_ok_iff nonempty]

/-- Every integer is read back from its decimal text. -/
theorem parse_toString (n : Int64) : parse (toString n) = .ok n := by
  rw [parse_ok_iff]
  change Spells n.toInt.repr.toList n.toInt
  cases value : n.toInt with
  | ofNat magnitude =>
    have spells := Spells.unsigned (isDigits_toDigits magnitude)
    rw [Nat.ofDigitChars_ten_toDigits] at spells
    simpa [Int.repr] using spells
  | negSucc magnitude =>
    have spells := Spells.minus (isDigits_toDigits magnitude.succ)
    rw [Nat.ofDigitChars_ten_toDigits] at spells
    simpa [Int.repr, Int.negSucc_eq] using spells

/-! ### Numbers that do not fit -/

/-- Some front of the text stands for a number with the property. -/
def Begins (text : List Char) (property : Int → Prop) : Prop :=
  ∃ front back value, text = front ++ back ∧ Spells front value ∧ property value

/-- Behind a sign, digits have to follow. -/
theorem begins_sign_iff {property : Int → Prop} {sign : Char} {meaning : List Char → Int}
    (spells_iff : ∀ {front value},
      Spells (sign :: front) value ↔ IsDigits front ∧ value = meaning front) :
    Begins (sign :: rest) property ↔
      ∃ front back, rest = front ++ back ∧ IsDigits front ∧ property (meaning front) := by
  constructor
  · rintro ⟨_ | ⟨c, front⟩, back, value, same, spells, has⟩
    · exact absurd spells not_spells_nil
    · obtain ⟨rfl, rfl⟩ := List.cons_eq_cons.mp same
      obtain ⟨isDigits, rfl⟩ := spells_iff.mp spells
      exact ⟨front, back, rfl, isDigits, has⟩
  · rintro ⟨front, back, rfl, isDigits, has⟩
    exact ⟨sign :: front, back, _, rfl, spells_iff.mpr ⟨isDigits, rfl⟩, has⟩

theorem begins_unsigned_iff {property : Int → Prop} (minus : ∀ rest, chars ≠ '-' :: rest)
    (plus : ∀ rest, chars ≠ '+' :: rest) : Begins chars property ↔
    ∃ front back, chars = front ++ back ∧ IsDigits front ∧
      property (Nat.ofDigitChars 10 front 0) := by
  constructor
  · rintro ⟨front, back, value, rfl, spells, has⟩
    cases spells with
    | unsigned isDigits => exact ⟨front, back, rfl, isDigits, has⟩
    | plus => exact absurd rfl (plus _)
    | minus => exact absurd rfl (minus _)
  · rintro ⟨front, back, rfl, isDigits, has⟩
    exact ⟨front, back, _, rfl, .unsigned isDigits, has⟩

theorem digits_zero_past_iff {limit : Nat} {past : IntegerFault} (other : past ≠ .badDigit) :
    digits limit past 0 rest = .error past ↔ ∃ front back, rest = front ++ back ∧
      IsDigits front ∧ limit < Nat.ofDigitChars 10 front 0 := by
  rw [digits_past_iff (Nat.zero_le _) other]
  constructor
  · rintro ⟨front, back, rfl, digit, beyond⟩
    refine ⟨front, back, rfl, ⟨?_, digit⟩, beyond⟩
    rintro rfl
    rw [Nat.ofDigitChars_nil] at beyond
    omega
  · rintro ⟨front, back, rfl, isDigits, beyond⟩
    exact ⟨front, back, rfl, isDigits.digit, beyond⟩

/-- Digits are refused for one of two reasons. -/
theorem fault_of_digits {limit magnitude : Nat} {past fault : IntegerFault}
    (refused : digits limit past magnitude rest = .error fault) :
    fault = past ∨ fault = .badDigit := by
  induction rest generalizing magnitude with
  | nil => cases refused
  | cons c rest ih =>
    simp only [digits] at refused
    split at refused
    · cases refused
      exact .inr rfl
    · split at refused
      · exact ih refused
      · cases refused
        exact .inl rfl

theorem natural_tooLarge_iff :
    (do return Int64.ofNat (← digits ((1 <<< 63) - 1) .tooLarge 0 rest)) = .error .tooLarge ↔
      ∃ front back, rest = front ++ back ∧ IsDigits front ∧
        Int64.maxValue.toInt < Nat.ofDigitChars 10 front 0 := by
  rw [return_error_iff, digits_zero_past_iff (by decide), limits.1]
  simp only [Int.ofNat_lt]

theorem natural_not_tooSmall :
    (do return Int64.ofNat (← digits ((1 <<< 63) - 1) .tooLarge 0 rest)) ≠ .error .tooSmall := by
  rw [ne_eq, return_error_iff]
  intro refused
  rcases fault_of_digits refused with same | same <;> cases same

theorem not_begins_nil {property : Int → Prop} : ¬Begins [] property := by
  rintro ⟨front, back, value, same, spells, -⟩
  obtain ⟨rfl, -⟩ := List.append_eq_nil_iff.mp same.symm
  exact not_spells_nil spells

theorem not_begins_sign {property : Int → Prop} {sign : Char} {meaning : List Char → Int}
    (spells_iff : ∀ {front value},
      Spells (sign :: front) value ↔ IsDigits front ∧ value = meaning front) :
    ¬Begins [sign] property := by
  rw [begins_sign_iff spells_iff]
  rintro ⟨front, back, same, isDigits, -⟩
  obtain ⟨rfl, -⟩ := List.append_eq_nil_iff.mp same.symm
  exact not_isDigits_nil isDigits

/-- The number is too large if the text begins with one that is, whatever follows. -/
theorem parse_tooLarge_iff :
    parse text = .error .tooLarge ↔ Begins text.toList (Int64.maxValue.toInt < ·) := by
  unfold parse
  split
  · next shape => simp [shape, not_begins_nil]
  · next shape => simp [shape, not_begins_sign spells_plus_iff]
  · next shape => simp [shape, not_begins_sign spells_minus_iff]
  · next rest _ shape =>
    rw [shape, return_error_iff, begins_sign_iff spells_minus_iff, limits.1]
    constructor
    · intro refused
      rcases fault_of_digits refused with same | same <;> cases same
    · rintro ⟨front, back, -, -, beyond⟩
      omega
  · next rest _ shape => rw [shape, natural_tooLarge_iff, begins_sign_iff spells_plus_iff]
  · next minus plus => rw [natural_tooLarge_iff, begins_unsigned_iff minus plus]

/-- The number is too small if the text begins with one that is, whatever follows. -/
theorem parse_tooSmall_iff :
    parse text = .error .tooSmall ↔ Begins text.toList (· < Int64.minValue.toInt) := by
  unfold parse
  split
  · next shape => simp [shape, not_begins_nil]
  · next shape => simp [shape, not_begins_sign spells_plus_iff]
  · next shape => simp [shape, not_begins_sign spells_minus_iff]
  · next rest _ shape =>
    rw [shape, return_error_iff, begins_sign_iff spells_minus_iff, limits.2,
      digits_zero_past_iff (by decide)]
    simp only [neg_lt_neg_iff, Int.ofNat_lt]
  · next rest _ shape =>
    rw [shape, begins_sign_iff spells_plus_iff, limits.2]
    simp only [natural_not_tooSmall, false_iff]
    rintro ⟨front, back, -, -, below⟩
    omega
  · next minus plus =>
    rw [begins_unsigned_iff minus plus, limits.2]
    simp only [natural_not_tooSmall, false_iff]
    rintro ⟨front, back, -, -, below⟩
    omega

end

end ColdBuild.SignedInteger
