import ColdBuild.Decimal.Reading
import Mathlib.Data.List.Basic
import Mathlib.Data.List.TakeWhile
import Mathlib.Tactic.IntervalCases

/-!
# Numerals are read back

A well formed numeral has a text, with or without a plus in front of its exponent, and reading that
text gives the numeral again, whatever follows it that cannot belong to a numeral (`read?_chars`).
Nothing else is read (`wellFormed_of_read?`). Every natural number has such a numeral, of digits
alone (`ofNat`).

The characters of a text are few (`mem_chars_cases`), and behind the sign of the numeral a minus can
only be that of an exponent (`of_chars_eq_minus`).
-/
namespace ColdBuild.Numeral

/-- One decimal digit or more. -/
structure IsDigits (chars : List Char) : Prop where
  nonempty : chars ≠ []
  digit : ∀ c ∈ chars, c.isDigit = true

/-- What the grammar asks of a numeral. -/
structure WellFormed (n : Numeral) : Prop where
  whole : IsDigits n.whole
  leadingZero : n.whole.head? = some '0' → n.whole.length = 1
  fraction : ∀ digits ∈ n.fraction, IsDigits digits

def fractionChars : Option (List Char) → List Char
  | none => []
  | some digits => '.' :: digits

/-- The text of an exponent, with `plus` in front of one that is not negative. -/
def exponentChars (plus : String) : Option Int → List Char
  | none => []
  | some exponent =>
    'e' :: ((if exponent < 0 then ['-'] else plus.toList) ++ Nat.toDigits 10 exponent.natAbs)

def chars (plus : String) (n : Numeral) : List Char :=
  (if n.negative then ['-'] else []) ++ n.whole ++ fractionChars n.fraction ++
    exponentChars plus n.exponent

def NoDigit (rest : List Char) : Prop := ∀ c ∈ rest.head?, c.isDigit = false

/-- The text does not begin with anything that could go on with a numeral. -/
def Ends (rest : List Char) : Prop :=
  ∀ c ∈ rest.head?, c.isDigit = false ∧ c ≠ '.' ∧ c ≠ 'e' ∧ c ≠ 'E'

/-- The signs in front of an exponent that is not negative: none, or a plus. -/
def IsPlus (plus : String) : Prop := plus = "" ∨ plus = "+"

variable {digits rest : List Char} {plus : String}

theorem ends_nil : Ends [] := fun _ first => nomatch first

theorem Ends.noDigit (ends : Ends rest) : NoDigit rest := fun c first => (ends c first).1

theorem IsDigits.append {more : List Char} (h : IsDigits digits)
    (h' : ∀ c ∈ more, c.isDigit = true) : IsDigits (digits ++ more) where
  nonempty := List.append_ne_nil_of_left_ne_nil h.nonempty more
  digit c mem := (List.mem_append.mp mem).elim (h.digit c) (h' c)

theorem isDigits_zero : IsDigits ['0'] where
  nonempty := List.cons_ne_nil _ _
  digit c mem := by
    rw [List.mem_singleton.mp mem]
    rfl

theorem isDigit_of_mem_zeros {n : Nat} {c : Char} (mem : c ∈ List.replicate n '0') :
    c.isDigit = true := by
  rw [List.eq_of_mem_replicate mem]
  rfl

/-- The digits of a natural number. -/
theorem isDigits_toDigits (n : Nat) : IsDigits (Nat.toDigits 10 n) where
  nonempty := Nat.toDigits_ne_nil
  digit _ mem := Nat.isDigit_of_mem_toDigits (by decide) (by decide) mem

/-- They do not begin with a superfluous zero. -/
theorem head?_toDigits {n : Nat} (pos : 0 < n) : (Nat.toDigits 10 n).head? ≠ some '0' := by
  induction n using Nat.strongRecOn with
  | ind n ih =>
    rcases Nat.lt_or_ge n 10 with small | large
    · rw [Nat.toDigits_of_lt_base small]
      interval_cases n <;> decide
    · rw [Nat.toDigits_of_base_le (by decide) large,
        List.head?_append_of_ne_nil _ Nat.toDigits_ne_nil]
      exact ih (n / 10) (by omega) (by omega)

/-- All digits are taken. -/
theorem digits?_append (h : IsDigits digits) (stop : NoDigit rest) :
    digits? (digits ++ rest) = some (digits, rest) := by
  have taken : (digits ++ rest).takeWhile Char.isDigit = digits := by
    rw [List.takeWhile_append_of_pos h.digit]
    cases rest with
    | nil => simp
    | cons c rest => simp [stop c rfl]
  have nonempty : digits.isEmpty = false := by simpa using h.nonempty
  simp [digits?, taken, nonempty]

theorem fraction?_append {fraction : Option (List Char)}
    (h : ∀ digits ∈ fraction, IsDigits digits) (stop : NoDigit rest)
    (noPoint : rest.head? ≠ some '.') :
    fraction? (fractionChars fraction ++ rest) = some (fraction, rest) := by
  cases fraction with
  | none =>
    rw [fractionChars, List.nil_append, fraction?]
    rintro rest rfl
    exact noPoint rfl
  | some digits =>
    rw [fractionChars, List.cons_append, fraction?, digits?_append (h digits rfl) stop]
    rfl

/-- Digits without a sign in front are read as an exponent that is not negative. -/
theorem exponent?_digits (isDigits : IsDigits digits) (stop : NoDigit rest) :
    exponent? ('e' :: (digits ++ rest)) =
      some (some (Nat.ofDigitChars 10 digits 0 : Int), rest) := by
  have read := digits?_append isDigits stop
  obtain ⟨c, others, rfl⟩ := List.exists_cons_of_ne_nil isDigits.nonempty
  have digit := isDigits.digit c List.mem_cons_self
  rw [List.cons_append] at read ⊢
  simp only [exponent?, true_or, if_true]
  split
  · next minus =>
    cases minus
    cases digit
  · next sign =>
    cases sign
    cases digit
  · rw [read]
    rfl

theorem exponent?_append (isPlus : IsPlus plus) (exponent : Option Int) (ends : Ends rest) :
    exponent? (exponentChars plus exponent ++ rest) = some (exponent, rest) := by
  cases exponent with
  | none =>
    cases rest with
    | nil => rfl
    | cons c rest =>
      obtain ⟨-, -, small, large⟩ := ends c rfl
      simp [exponentChars, exponent?, small, large]
  | some exponent =>
    have isDigits := isDigits_toDigits exponent.natAbs
    have read := digits?_append isDigits ends.noDigit
    by_cases negative : exponent < 0
    · simp [exponentChars, exponent?, negative, read, Nat.ofDigitChars_ten_toDigits,
        abs_of_neg negative]
    · rcases isPlus with rfl | rfl
      · simp [exponentChars, negative, exponent?_digits isDigits ends.noDigit,
          Nat.ofDigitChars_ten_toDigits, abs_of_nonneg (not_lt.mp negative)]
      · simp [exponentChars, exponent?, negative, read, Nat.ofDigitChars_ten_toDigits,
          abs_of_nonneg (not_lt.mp negative)]

/-- The text of an exponent cannot go on with a fraction. -/
theorem exponentChars_append (plus : String) (exponent : Option Int) (ends : Ends rest) :
    NoDigit (exponentChars plus exponent ++ rest) ∧
      (exponentChars plus exponent ++ rest).head? ≠ some '.' := by
  cases exponent with
  | none => exact ⟨ends.noDigit, fun point => (ends '.' point).2.1 rfl⟩
  | some exponent =>
    refine ⟨fun c first => ?_, by simp [exponentChars]⟩
    obtain rfl : 'e' = c := by simpa [exponentChars] using first
    rfl

theorem fractionChars_append (fraction : Option (List Char)) (stop : NoDigit rest) :
    NoDigit (fractionChars fraction ++ rest) := by
  cases fraction with
  | none => exact stop
  | some digits =>
    intro c first
    obtain rfl : '.' = c := by simpa [fractionChars] using first
    rfl

/-- The sign tells itself apart from the first digit. -/
theorem sign_append (negative : Bool) {body : List Char} (noSign : body.head? ≠ some '-') :
    decide (((if negative then ['-'] else []) ++ body).head? = some '-') = negative ∧
      (if ((if negative then ['-'] else []) ++ body).head? = some '-' then
        ((if negative then ['-'] else []) ++ body).drop 1
      else (if negative then ['-'] else []) ++ body) = body := by
  cases negative <;> simp [noSign]

/-- The text of a numeral is read back, whatever follows it. -/
theorem read?_chars {n : Numeral} (wellFormed : n.WellFormed) (isPlus : IsPlus plus)
    (ends : Ends rest) : read? (n.chars plus ++ rest) = some (n, rest) := by
  obtain ⟨stop, noPoint⟩ := exponentChars_append plus n.exponent ends
  have whole := digits?_append wellFormed.whole (fractionChars_append n.fraction stop)
  have fraction := fraction?_append wellFormed.fraction stop noPoint
  have exponent := exponent?_append isPlus n.exponent ends
  have zero : ¬ (n.whole.head? = some '0' ∧ n.whole.length ≠ 1) :=
    fun h => h.2 (wellFormed.leadingZero h.1)
  have noSign :
      (n.whole ++ (fractionChars n.fraction ++ (exponentChars plus n.exponent ++ rest))).head? ≠
        some '-' := by
    obtain ⟨c, others, cons⟩ := List.exists_cons_of_ne_nil wellFormed.whole.nonempty
    rw [cons, List.cons_append, List.head?_cons]
    rintro ⟨rfl⟩
    exact absurd (wellFormed.whole.digit '-' (by simp [cons])) (by decide)
  obtain ⟨sign, body⟩ := sign_append n.negative noSign
  have text : n.chars plus ++ rest = (if n.negative then ['-'] else []) ++
      (n.whole ++ (fractionChars n.fraction ++ (exponentChars plus n.exponent ++ rest))) := by
    simp [chars]
  rw [text, read?]
  simp only [body, sign, whole, zero, fraction, exponent, Option.bind_eq_bind, Option.bind_some,
    if_false, Option.pure_def]

theorem isDigits_of_digits? {chars : List Char} (read : digits? chars = some (digits, rest)) :
    IsDigits digits := by
  unfold digits? at read
  dsimp only at read
  split at read
  · cases read
  · next nonempty =>
    cases read
    exact ⟨by simpa using nonempty, fun c mem => List.mem_takeWhile_imp mem⟩

theorem isDigits_of_fraction? {chars : List Char} {fraction : Option (List Char)}
    (read : fraction? chars = some (fraction, rest)) : ∀ digits ∈ fraction, IsDigits digits := by
  unfold fraction? at read
  split at read
  · obtain ⟨⟨digits, behind⟩, inner, same⟩ := Option.map_eq_some_iff.mp read
    cases same
    rintro _ ⟨⟩
    exact isDigits_of_digits? inner
  · cases read
    rintro _ ⟨⟩

/-- What is read as a numeral is well formed. -/
theorem wellFormed_of_read? {n : Numeral} {chars : List Char}
    (read : read? chars = some (n, rest)) : n.WellFormed := by
  unfold read? at read
  simp only [Option.bind_eq_bind, Option.pure_def] at read
  obtain ⟨⟨whole, behindWhole⟩, readWhole, read⟩ := Option.bind_eq_some_iff.mp read
  split at read
  · cases read
  · next noZero =>
    obtain ⟨⟨fraction, behindFraction⟩, readFraction, read⟩ := Option.bind_eq_some_iff.mp read
    obtain ⟨⟨exponent, behind⟩, -, read⟩ := Option.bind_eq_some_iff.mp read
    cases read
    exact ⟨isDigits_of_digits? readWhole,
      fun zero => not_not.mp fun longer => noZero ⟨zero, longer⟩,
      isDigits_of_fraction? readFraction⟩

/-- All that a numeral is written with are digits, the point and the exponent apart. -/
theorem WellFormed.isDigit {n : Numeral} (wellFormed : n.WellFormed) :
    ∀ c ∈ n.digits, c.isDigit = true := by
  intro c mem
  rcases List.mem_append.mp mem with mem | mem
  · exact wellFormed.whole.digit c mem
  · cases fraction : n.fraction with
    | none =>
      rw [fraction] at mem
      cases mem
    | some digits =>
      rw [fraction] at mem
      exact (wellFormed.fraction digits fraction).digit c mem

/-- A numeral begins with its sign or with a digit. -/
theorem exists_cons_chars {n : Numeral} (wellFormed : n.WellFormed) (plus : String) :
    ∃ c others, n.chars plus = c :: others ∧ (c = '-' ∨ c.isDigit = true) := by
  obtain ⟨c, others, cons⟩ := List.exists_cons_of_ne_nil wellFormed.whole.nonempty
  rw [chars, cons]
  cases n.negative with
  | true => exact ⟨_, _, rfl, .inl rfl⟩
  | false => exact ⟨c, _, rfl, .inr (wellFormed.whole.digit c (by simp [cons]))⟩

/-- A fraction has a point, and an exponent its letter. -/
theorem mem_chars {n : Numeral} (plus : String) (marked : n.fraction.isSome ∨ n.exponent.isSome) :
    '.' ∈ n.chars plus ∨ 'e' ∈ n.chars plus := by
  obtain ⟨negative, whole, fraction, exponent⟩ := n
  rcases marked with point | marks
  · obtain ⟨digits, rfl⟩ := Option.isSome_iff_exists.mp point
    left
    simp [chars, fractionChars]
  · obtain ⟨exponent, rfl⟩ := Option.isSome_iff_exists.mp marks
    right
    simp [chars, exponentChars]

theorem minus_notMem_digits {digits : List Char} (isDigit : ∀ c ∈ digits, c.isDigit = true) :
    '-' ∉ digits := fun mem => absurd (isDigit '-' mem) (by decide)

theorem mem_fractionChars {n : Numeral} (wellFormed : n.WellFormed) {c : Char}
    (mem : c ∈ fractionChars n.fraction) : c.isDigit = true ∨ c = '.' := by
  cases fraction : n.fraction with
  | none =>
    rw [fraction] at mem
    cases mem
  | some digits =>
    rw [fraction, fractionChars, List.mem_cons] at mem
    exact mem.symm.imp_left ((wellFormed.fraction digits fraction).digit c)

/-- In the text of a numeral without a sign there is no minus in front of the exponent. -/
theorem minus_notMem_body {n : Numeral} (wellFormed : n.WellFormed) :
    '-' ∉ n.whole ++ fractionChars n.fraction := by
  intro mem
  rcases List.mem_append.mp mem with mem | mem
  · exact minus_notMem_digits wellFormed.whole.digit mem
  · exact absurd (mem_fractionChars wellFormed mem) (by decide)

/-- A minus in such a text is the sign of a negative exponent. -/
theorem of_chars_eq_minus {n : Numeral} (wellFormed : n.WellFormed) (unsigned : n.negative = false)
    (isPlus : IsPlus plus) {left right : List Char} (text : n.chars plus = left ++ '-' :: right) :
    (∃ exponent, n.exponent = some exponent ∧ exponent < 0) ∧ left.getLast? = some 'e' := by
  have body := minus_notMem_body wellFormed
  have mem : '-' ∈ n.chars plus := by simp [text]
  rw [chars, unsigned, if_neg Bool.false_ne_true, List.nil_append] at text mem
  have inExponent := (List.mem_append.mp mem).resolve_left body
  cases exponent : n.exponent with
  | none =>
    rw [exponent] at inExponent
    cases inExponent
  | some e =>
    have digits := minus_notMem_digits (isDigits_toDigits e.natAbs).digit
    have negative : e < 0 := by
      by_contra notNegative
      rw [exponent, exponentChars, if_neg notNegative] at inExponent
      rcases isPlus with rfl | rfl <;> simp [digits] at inExponent
    rw [exponent, exponentChars, if_pos negative, List.singleton_append,
      List.append_cons (n.whole ++ fractionChars n.fraction)] at text
    have before : '-' ∉ n.whole ++ fractionChars n.fraction ++ ['e'] := by simpa using body
    obtain ⟨rfl, -, -⟩ := (List.append_cons_inj_of_notMem before digits).mp text
    exact ⟨⟨e, rfl, negative⟩, List.getLast?_concat⟩

theorem minus_mem_chars {n : Numeral} {exponent : Int} (plus : String)
    (is : n.exponent = some exponent) (negative : exponent < 0) : '-' ∈ n.chars plus := by
  simp [chars, exponentChars, is, negative]

/-- The characters that texts of numerals are made of. -/
theorem mem_chars_cases {n : Numeral} (wellFormed : n.WellFormed) {c : Char}
    (mem : c ∈ n.chars plus) :
    c.isDigit = true ∨ c = '.' ∨ c = 'e' ∨ c = '-' ∨ c ∈ plus.toList := by
  simp only [chars, List.mem_append] at mem
  rcases mem with ((sign | whole) | fraction) | exponent
  · split at sign
    · exact .inr (.inr (.inr (.inl (List.mem_singleton.mp sign))))
    · cases sign
  · exact .inl (wellFormed.whole.digit c whole)
  · exact (mem_fractionChars wellFormed fraction).imp_right .inl
  · cases is : n.exponent with
    | none =>
      rw [is] at exponent
      cases exponent
    | some e =>
      rw [is, exponentChars, List.mem_cons, List.mem_append] at exponent
      rcases exponent with letter | sign | digit
      · exact .inr (.inr (.inl letter))
      · split at sign
        · exact .inr (.inr (.inr (.inl (List.mem_singleton.mp sign))))
        · exact .inr (.inr (.inr (.inr sign)))
      · exact .inl ((isDigits_toDigits e.natAbs).digit c digit)

/-- The numeral of a natural number: its digits alone. -/
def ofNat (n : Nat) : Numeral where
  negative := false
  whole := Nat.toDigits 10 n

theorem chars_ofNat (plus : String) (n : Nat) : (ofNat n).chars plus = (toString n).toList := by
  rw [Nat.toString_eq_repr, Nat.toList_repr]
  simp [chars, ofNat, fractionChars, exponentChars]

theorem wellFormed_ofNat (n : Nat) : (ofNat n).WellFormed where
  whole := isDigits_toDigits n
  leadingZero first := by
    rcases Nat.eq_zero_or_pos n with rfl | pos
    · rfl
    · exact absurd first (head?_toDigits pos)
  fraction _ mem := by cases mem

theorem natural?_ofNat (n : Nat) : (ofNat n).natural? = some n := by
  simp [natural?, ofNat, Nat.ofDigitChars_ten_toDigits]

theorem ofNat_inj {n n' : Nat} (equal : ofNat n = ofNat n') : n = n' :=
  Option.some.inj (by rw [← natural?_ofNat n, equal, natural?_ofNat])

end ColdBuild.Numeral
