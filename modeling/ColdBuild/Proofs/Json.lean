import ColdBuild.Json
import ColdBuild.Proofs.Decimal.Reading
import ColdBuild.Proofs.Text.Quoted

/-!
# Reading what was written

A value is read wherever its text stands (`Reads`): numerals, quoted texts and `null`. Space between
the parts of a document is skipped, so a reader does not see how it was laid out, and the members of
an object and the items of an array are read one after the other.
-/
namespace ColdBuild.Json

/-- The text is read as the value, whatever follows that cannot belong to a numeral. -/
structure Reads (chars : List Char) (value : Json) : Prop where
  start : ∃ c rest, chars = c :: rest ∧ isSpace c = false
  read (fuel : Nat) {rest : List Char} (ends : Numeral.Ends rest) :
    value? (fuel + 1) (chars ++ rest) = some (value, rest)

theorem Reads.skipSpace {chars : List Char} {value : Json} (reads : Reads chars value)
    (rest : List Char) : skipSpace (chars ++ rest) = chars ++ rest := by
  obtain ⟨c, others, rfl, notSpace⟩ := reads.start
  simp [Json.skipSpace, notSpace]

theorem reads_null : Reads "null".toList .null where
  start := ⟨'n', ['u', 'l', 'l'], rfl, rfl⟩
  read fuel rest _ := by
    change value? (fuel + 1) ('n' :: 'u' :: 'l' :: 'l' :: rest) = _
    rw [value?]

theorem reads_quote (text : String) : Reads (Quoted.quote text).toList (.text text) where
  start := ⟨'"', _, String.toList_ofList, rfl⟩
  read fuel rest _ := by
    have read := Quoted.read?_encode text.toList rest
    simp [Quoted.quote, value?, read]

theorem isSpace_of_isDigit {c : Char} (digit : c.isDigit = true) : isSpace c = false := by
  cases space : isSpace c with
  | false => rfl
  | true =>
    simp only [isSpace, Bool.or_eq_true, decide_eq_true_eq] at space
    rcases space with ((rfl | rfl) | rfl) | rfl <;> cases digit

theorem reads_numeral {n : Numeral} {plus : String} (wellFormed : n.WellFormed)
    (isPlus : Numeral.IsPlus plus) : Reads (n.chars plus) (.number n) where
  start := by
    obtain ⟨c, others, cons, rfl | digit⟩ := Numeral.exists_cons_chars wellFormed plus
    · exact ⟨'-', others, cons, rfl⟩
    · exact ⟨c, others, cons, isSpace_of_isDigit digit⟩
  read fuel rest ends := by
    have read := Numeral.read?_chars wellFormed isPlus ends
    -- no other value begins with a sign or a digit
    have other (c : Char) (no : ¬ (c = '-' ∨ c.isDigit = true)) (more : List Char) :
        n.chars plus ++ rest ≠ c :: more := by
      obtain ⟨first, others, cons, is⟩ := Numeral.exists_cons_chars wellFormed plus
      rw [cons]
      rintro ⟨⟩
      exact no is
    rw [value?, read]
    · rfl
    all_goals exact fun more => other _ (by decide) _

theorem reads_natural (n : Nat) : Reads (toString n).toList (.number (.ofNat n)) :=
  Numeral.chars_ofNat "" n ▸ reads_numeral (Numeral.wellFormed_ofNat n) (.inl rfl)

theorem skipSpace_newline (rest : List Char) : skipSpace ('\n' :: rest) = skipSpace rest := rfl

theorem skipSpace_blank (rest : List Char) : skipSpace (' ' :: rest) = skipSpace rest := rfl

theorem skipSpace_colon (rest : List Char) : skipSpace (':' :: rest) = ':' :: rest := rfl

/-- Space in front of a text is skipped. -/
theorem skipSpace_append {space : List Char} (isSpace : space.all isSpace = true)
    (rest : List Char) : skipSpace (space ++ rest) = skipSpace rest := by
  induction space with
  | nil => rfl
  | cons c space ih =>
    simp only [List.all_cons, Bool.and_eq_true] at isSpace
    rw [List.cons_append, skipSpace, List.dropWhile_cons, if_pos isSpace.1]
    exact ih isSpace.2

theorem ends_newline (rest : List Char) : Numeral.Ends ('\n' :: rest) := by
  rintro _ ⟨⟩
  decide

theorem ends_comma (rest : List Char) : Numeral.Ends (',' :: rest) := by
  rintro _ ⟨⟩
  decide

section

variable {fuel : Nat} {key text : String} {value : Json} {rest more left : List Char}

theorem quote_append (key : String) (rest : List Char) :
    (Quoted.quote key).toList ++ rest = '"' :: (Quoted.encode key.toList ++ '"' :: rest) := by
  simp [Quoted.quote]

/-- A member that is not the last. -/
theorem members?_comma {members : List (String × Json)} (reads : Reads text.toList value)
    (ends : Numeral.Ends rest) (comma : skipSpace rest = ',' :: more)
    (others : members? (fuel + 1) (skipSpace more) = some (members, left)) :
    members? (fuel + 2) ((Quoted.quote key).toList ++ ':' :: ' ' :: (text.toList ++ rest)) =
      some ((key, value) :: members, left) := by
  rw [quote_append, members?]
  simp only [Quoted.read?_encode, skipSpace_colon, skipSpace_blank, reads.skipSpace,
    reads.read fuel ends, comma, others, String.ofList_toList, Option.bind_eq_bind,
    Option.bind_some]
  rfl

/-- The last member. -/
theorem members?_last (reads : Reads text.toList value) (ends : Numeral.Ends rest)
    (closing : skipSpace rest = '\x7d' :: left) :
    members? (fuel + 2) ((Quoted.quote key).toList ++ ':' :: ' ' :: (text.toList ++ rest)) =
      some ([(key, value)], left) := by
  rw [quote_append, members?]
  simp only [Quoted.read?_encode, skipSpace_colon, skipSpace_blank, reads.skipSpace,
    reads.read fuel ends, closing, String.ofList_toList, Option.bind_eq_bind, Option.bind_some]
  rfl

end

/-- An object that has members. -/
theorem value?_object {fuel : Nat} {body rest : List Char} {members : List (String × Json)}
    (read : members? fuel (skipSpace body) = some (members, rest)) :
    value? (fuel + 1) ('\x7b' :: body) = some (.object members, rest) := by
  rw [value?]
  split
  · next empty =>
    rw [empty] at read
    cases fuel <;> cases read
  · rw [read]
    rfl

/-- An array that has items. -/
theorem value?_array {fuel : Nat} {body rest : List Char} {items : List Json}
    (read : items? fuel (skipSpace body) = some (items, rest)) :
    value? (fuel + 1) ('[' :: body) = some (.array items, rest) := by
  rw [value?]
  split
  · next empty =>
    rw [empty] at read
    rcases fuel with _ | _ | fuel <;> cases read
  · rw [read]
    rfl

/-- An item that is not the last. -/
theorem items?_comma {fuel : Nat} {chars rest more left : List Char} {item : Json}
    {items : List Json} (first : value? fuel chars = some (item, rest))
    (comma : skipSpace rest = ',' :: more)
    (others : items? fuel (skipSpace more) = some (items, left)) :
    items? (fuel + 1) chars = some (item :: items, left) := by
  rw [items?, first]
  simp only [comma, others, Option.bind_eq_bind, Option.bind_some]
  rfl

/-- The last item. -/
theorem items?_last {fuel : Nat} {chars rest left : List Char} {item : Json}
    (first : value? fuel chars = some (item, rest)) (closing : skipSpace rest = ']' :: left) :
    items? (fuel + 1) chars = some ([item], left) := by
  rw [items?, first]
  simp only [closing, Option.bind_eq_bind, Option.bind_some]
  rfl

end ColdBuild.Json
