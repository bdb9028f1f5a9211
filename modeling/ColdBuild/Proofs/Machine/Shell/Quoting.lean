import ColdBuild.Machine.Shell.Builtin
import ColdBuild.Proofs.Machine.Shell.Expansion
import Mathlib.Data.List.TakeWhile

/-!
# What the shell prints can be read again

A text in single quotes is read as one word, whatever its characters are (`readToken_quoted`), and
as an argument that word is the text itself (`exists_argument_of_quoted`). A variable with its value
as lists of variables show it is read as the assignment of that value (`readToken_binding`).
-/
namespace ColdBuild.Shell

open State (quoted singleQuoted)

/-! ## Reading pieces -/

section

variable {fuel : Nat} {found : Word} {source : Source} {c : Char} {rest : List Char}

@[simp] theorem Source.moved_moved (first second : List Char) (lines more : Nat) :
    (source.moved first lines).moved second more = source.moved second (lines + more) := by
  simp [Source.moved, Nat.add_assoc]

/-- Outside of quotes the character stands for itself. -/
structure IsOrdinary (c : Char) : Prop where
  not_backslash : c ≠ '\\'
  not_dollar : c ≠ '$'
  not_backquote : c ≠ backquote
  not_single : c ≠ '\''
  not_double : c ≠ '"'
  not_break : isBreak c = false

/-- Nothing else of a word stands here. -/
def EndsWord (rest : List Char) : Prop := ∀ c ∈ rest.head?, isBreak c = true

theorem ne_of_isBreak {other : Char} (h : isBreak c = true) (hother : isBreak other = false) :
    c ≠ other :=
  ne_of_apply_ne isBreak (by simp [h, hother])

theorem readPieces_end (hend : EndsWord source.rest) :
    readPieces (fuel + 1) .plain found source = .ok (found, source) := by
  unfold readPieces
  cases hrest : source.rest with
  | nil => rfl
  | cons c rest =>
    have hbreak : isBreak c = true := hend c (by rw [hrest]; rfl)
    have hbackslash := @ne_of_isBreak c '\\' hbreak (by decide)
    have hdollar := @ne_of_isBreak c '$' hbreak (by decide)
    have hbackquote := @ne_of_isBreak c backquote hbreak (by decide)
    have hsingle := @ne_of_isBreak c '\'' hbreak (by decide)
    have hdouble := @ne_of_isBreak c '"' hbreak (by decide)
    simp [hbackslash, hbackquote, hsingle, hdouble, hbreak]

theorem readPieces_ordinary (h : IsOrdinary c) (hrest : source.rest = c :: rest) :
    readPieces (fuel + 1) .plain found source =
      readPieces fuel .plain (.text [c] false :: found) (source.moved rest 0) := by
  have hline : c ≠ '\n' := by
    rintro rfl
    exact absurd h.not_break (by decide)
  rw [readPieces, hrest]
  simp [h.not_backslash, h.not_dollar, h.not_backquote, h.not_single, h.not_double, h.not_break,
    hline]

/-- What stands between two single quotes is one piece. -/
theorem readPieces_single {text : List Char} (htext : '\'' ∉ text)
    (hrest : source.rest = '\'' :: (text ++ '\'' :: rest)) :
    readPieces (fuel + 1) .plain found source =
      readPieces fuel .plain (.text text true :: found) (source.moved rest (text.count '\n')) := by
  have htake : (text ++ '\'' :: rest).takeWhile (fun c => !decide (c = '\'')) = text := by
    rw [List.takeWhile_append_of_pos, List.takeWhile_cons_of_neg (by simp), List.append_nil]
    intro c hc
    simpa using ne_of_mem_of_not_mem hc htext
  rw [readPieces, hrest]
  simp [htake, backquote, Quoting.knowsSingleQuotes, Quoting.isQuoted]

/-- A single quote between double quotes. -/
theorem readPieces_double (hrest : source.rest = '"' :: '\'' :: '"' :: rest) :
    readPieces (fuel + 3) .plain found source =
      readPieces (fuel + 2) .plain (.text ['\''] true :: .text [] true :: found)
        (source.moved rest 0) := by
  have hinside : readPieces (fuel + 2) .double [.text [] true]
      (source.moved ('\'' :: '"' :: rest) 0) =
        .ok ([.text ['\''] true, .text [] true], source.moved rest 0) := by
    simp [readPieces, Source.moved, Quoting.knowsSingleQuotes, Quoting.isQuoted, backquote]
  rw [readPieces, hrest]
  simp [hinside, backquote, bind, Except.bind, withoutMark]

theorem flatMap_singleQuoted {text : List Char} (htext : '\'' ∉ text) :
    text.flatMap singleQuoted = text := by
  induction text with
  | nil => rfl
  | cons c text ih =>
    rw [List.mem_cons, not_or] at htext
    rw [List.flatMap_cons, ih htext.2, singleQuoted, if_neg (Ne.symm htext.1)]
    rfl

/-- Between single quotes every text is read piece by piece. -/
theorem readPieces_quoted {chars : List Char}
    (hrest : source.rest = '\'' :: (chars.flatMap singleQuoted ++ '\'' :: rest))
    (hend : EndsWord rest) (hfuel : 2 * chars.length + 2 ≤ fuel) :
    ∃ texts : List (List Char), texts ≠ [] ∧ texts.flatten = chars ∧
      readPieces fuel .plain found source =
        .ok ((texts.map (Piece.text · true)).reverse ++ found,
          source.moved rest (chars.count '\n')) := by
  -- by the length of the text: each single quote leaves a shorter one behind it
  induction hlength : chars.length using Nat.strong_induction_on
    generalizing chars fuel found source with
  | _ length ih =>
    by_cases hquote : '\'' ∈ chars
    · obtain ⟨text, more, rfl, htext⟩ := List.eq_append_cons_of_mem hquote
      rw [List.length_append, List.length_cons] at hfuel hlength
      obtain ⟨fuel, rfl⟩ : ∃ n, fuel = n + 4 := ⟨fuel - 4, by omega⟩
      have hsplit : source.rest = '\'' :: (text ++ '\'' ::
          ('"' :: '\'' :: '"' :: '\'' :: (more.flatMap singleQuoted ++ '\'' :: rest))) := by
        simp [hrest, flatMap_singleQuoted htext, singleQuoted]
      let behind := source.moved ('\'' :: (more.flatMap singleQuoted ++ '\'' :: rest))
        (text.count '\n')
      obtain ⟨texts, -, rfl, hread⟩ := @ih more.length (by omega) (fuel + 2)
        (.text ['\''] true :: .text [] true :: .text text true :: found) behind more rfl
        (by omega) rfl
      refine ⟨text :: [] :: ['\''] :: texts, by simp, by simp, ?_⟩
      rw [readPieces_single htext hsplit, readPieces_double rfl, Source.moved_moved]
      refine hread.trans ?_
      simp [behind]
    · rw [flatMap_singleQuoted hquote] at hrest
      obtain ⟨fuel, rfl⟩ : ∃ n, fuel = n + 2 := ⟨fuel - 2, by omega⟩
      refine ⟨[chars], by simp, by simp, ?_⟩
      rw [readPieces_single hquote hrest]
      exact readPieces_end hend

theorem readPieces_ordinaries {chars : List Char} (h : ∀ c ∈ chars, IsOrdinary c)
    (hrest : source.rest = chars ++ rest) :
    readPieces (fuel + chars.length) .plain found source =
      readPieces fuel .plain ((chars.map (Piece.text [·] false)).reverse ++ found)
        (source.moved rest 0) := by
  induction chars generalizing found source with
  | nil =>
    have hsource : source.moved rest 0 = source := by
      rw [List.nil_append] at hrest
      simp [Source.moved, ← hrest]
    rw [hsource]
    rfl
  | cons c chars ih =>
    rw [List.forall_mem_cons] at h
    rw [List.length_cons, ← Nat.add_assoc, readPieces_ordinary h.1 hrest, ih h.2 rfl]
    simp

end

/-! ## Reading words -/

section

variable {texts : List (List Char)} {quoted : Bool}

theorem joinPieces_texts (h : texts ≠ []) :
    joinPieces (texts.map (Piece.text · quoted)) = [.text texts.flatten quoted] := by
  induction texts with
  | nil => exact absurd rfl h
  | cons text texts ih =>
    by_cases hrest : texts = []
    · subst hrest
      simp [joinPieces]
    · rw [List.map_cons, joinPieces, ih hrest]
      simp

/-- Texts of the one kind in front of a text of the other kind. -/
theorem joinPieces_append (h : texts ≠ []) {rest : Word} {other : List Char}
    (hrest : joinPieces rest = [.text other (!quoted)]) :
    joinPieces (texts.map (Piece.text · quoted) ++ rest) =
      [.text texts.flatten quoted, .text other (!quoted)] := by
  induction texts with
  | nil => exact absurd rfl h
  | cons text texts ih =>
    by_cases hmore : texts = []
    · subst hmore
      simp [joinPieces, hrest]
    · rw [List.map_cons, List.cons_append, joinPieces, ih hmore]
      simp

theorem joinPieces_chars {chars : List Char} (h : chars ≠ []) {rest : Word} {other : List Char}
    (hrest : joinPieces rest = [.text other (!quoted)]) :
    joinPieces (chars.map (Piece.text [·] quoted) ++ rest) =
      [.text chars quoted, .text other (!quoted)] := by
  have hflat : (chars.map ([·])).flatten = chars := List.flatMap_singleton' chars
  have hjoin := @joinPieces_append (chars.map ([·])) quoted (by simpa using h) rest other hrest
  rw [List.map_map, hflat] at hjoin
  exact hjoin

end

section

variable {fuel : Nat} {source : Source} {c : Char} {rest : List Char} {text : String}

/-- Where a word begins, no blank, comment or operator stands. -/
structure BeginsWord (c : Char) : Prop where
  not_backslash : c ≠ '\\'
  not_comment : c ≠ '#'
  not_digit : c.isDigit = false
  not_break : isBreak c = false

theorem BeginsWord.ne (h : BeginsWord c) {other : Char} (hother : isBreak other = true) :
    c ≠ other :=
  ne_of_apply_ne isBreak (by simp [h.not_break, hother])

theorem toPart_of_beginsWord (h : BeginsWord c) (hrest : source.rest = c :: rest) :
    source.toPart = source := by
  have hblank : c ≠ ' ' := h.ne (by decide)
  have htab : c ≠ '\t' := h.ne (by decide)
  rw [Source.toPart, hrest, List.length_cons, Source.toPart.go, hrest]
  simp [h.not_backslash, h.not_comment, hblank, htab]

theorem readToken_word (h : BeginsWord c) (hrest : source.rest = c :: rest) {pieces : Word}
    {behind : Source} (hread : readPieces fuel .plain [] source = .ok (pieces, behind)) :
    readToken (fuel + 1) source = .ok (.word (joinPieces pieces.reverse), behind) := by
  have hline : c ≠ '\n' := h.ne (by decide)
  have hredirect : redirectOperator? (c :: rest) = none := by
    have hless : c ≠ '<' := h.ne (by decide)
    have hgreater : c ≠ '>' := h.ne (by decide)
    simp [redirectOperator?, hless, hgreater]
  have hsymbol : symbol? (c :: rest) = none := by
    have hand : c ≠ '&' := h.ne (by decide)
    have hbar : c ≠ '|' := h.ne (by decide)
    have hsemicolon : c ≠ ';' := h.ne (by decide)
    have hopening : c ≠ '(' := h.ne (by decide)
    have hclosing : c ≠ ')' := h.ne (by decide)
    simp [symbol?, hand, hbar, hsemicolon, hopening, hclosing]
  rw [readToken, toPart_of_beginsWord h hrest, hrest]
  simp [h.not_digit, hredirect, hsymbol, hread, bind, Except.bind, pure, Except.pure]

/-- A quoted text is read as one word, which is that text. -/
theorem readToken_quoted (hrest : source.rest = (quoted text).toList ++ rest)
    (hend : EndsWord rest) (hfuel : 2 * text.length + 3 ≤ fuel) :
    readToken fuel source = .ok (.word [.text text.toList true],
      source.moved rest (text.toList.count '\n')) := by
  obtain ⟨fuel, rfl⟩ : ∃ n, fuel = n + 1 := ⟨fuel - 1, by omega⟩
  have hquoted : source.rest =
      '\'' :: (text.toList.flatMap singleQuoted ++ '\'' :: rest) := by
    simp [hrest, quoted]
  obtain ⟨texts, hne, hjoin, hread⟩ := @readPieces_quoted fuel [] source rest text.toList hquoted
    hend (by rw [String.length_toList]; omega)
  have hbegins : BeginsWord '\'' := ⟨by decide, by decide, by decide, by decide⟩
  rw [readToken_word hbegins hquoted hread, List.append_nil, List.reverse_reverse,
    joinPieces_texts hne, hjoin]

/-- A quoted text becomes one argument of a command, which is the text itself. -/
theorem exists_argument_of_quoted (run : Runner) {s : State} (going : s.departure = none)
    (hrest : source.rest = (quoted text).toList ++ rest) (hend : EndsWord rest)
    (hfuel : 2 * text.length + 3 ≤ fuel) :
    ∃ word behind, readToken fuel source = .ok (.word word, behind) ∧ behind.rest = rest ∧
      State.expandFields run word s = ([text], s) := by
  refine ⟨_, _, readToken_quoted hrest hend hfuel, rfl, ?_⟩
  rw [State.expandFields_quoted run text.toList going, String.ofList_toList]

theorem ne_of_isNameChar (h : isNameChar c = true) {other : Char}
    (hother : isNameChar other = false) : c ≠ other :=
  ne_of_apply_ne isNameChar (by simp [h, hother])

theorem not_isBreak_of_isNameChar (h : isNameChar c = true) : isBreak c = false := by
  by_contra hbreak
  simp only [isBreak, Bool.not_eq_false, Bool.or_eq_true, decide_eq_true_eq, or_assoc] at hbreak
  obtain rfl | rfl | rfl | rfl | rfl | rfl | rfl | rfl | rfl | rfl := hbreak <;>
    exact absurd h (by decide)

theorem isOrdinary_of_isNameChar (h : isNameChar c = true) : IsOrdinary c where
  not_backslash := ne_of_isNameChar h (by decide)
  not_dollar := ne_of_isNameChar h (by decide)
  not_backquote := ne_of_isNameChar h (by decide)
  not_single := ne_of_isNameChar h (by decide)
  not_double := ne_of_isNameChar h (by decide)
  not_break := not_isBreak_of_isNameChar h

theorem isOrdinary_equals : IsOrdinary '=' :=
  ⟨by decide, by decide, by decide, by decide, by decide, by decide⟩

theorem isNameChar_of_isNameStart (h : isNameStart c = true) : isNameChar c = true := by
  simp only [isNameStart, isNameChar, Char.isAlphanum, Bool.or_eq_true, decide_eq_true_eq] at h ⊢
  exact h.imp_left .inl

theorem not_isDigit_of_isAlpha (h : c.isAlpha = true) : c.isDigit = false := by
  have hletter : 65 ≤ c.val.toNat := by
    obtain hupper | hlower := Bool.or_eq_true_iff.mp h
    · exact (of_decide_eq_true hupper).1
    · have hfirst : 97 ≤ c.val.toNat := of_decide_eq_true (Bool.and_eq_true_iff.mp hlower).1
      omega
  by_contra hdigit
  rw [Bool.not_eq_false, Char.isDigit_iff_toNat] at hdigit
  have hlast : c.val.toNat ≤ 57 := hdigit.2
  omega

theorem beginsWord_of_isNameStart (h : isNameStart c = true) : BeginsWord c := by
  have hname := isNameChar_of_isNameStart h
  have hdigit : c.isDigit = false := by
    rw [isNameStart, Bool.or_eq_true, decide_eq_true_eq] at h
    obtain h | rfl := h
    · exact not_isDigit_of_isAlpha h
    · decide
  exact ⟨ne_of_isNameChar hname (by decide), ne_of_isNameChar hname (by decide), hdigit,
    not_isBreak_of_isNameChar hname⟩

theorem isNameChar_of_mem {name : List Char} (h : isName name = true) (hc : c ∈ name) :
    isNameChar c = true := by
  cases name with
  | nil => cases hc
  | cons first name =>
    rw [isName, Bool.and_eq_true, List.all_eq_true] at h
    obtain rfl | hc := List.mem_cons.mp hc
    · exact isNameChar_of_isNameStart h.1
    · exact h.2 c hc

theorem assignment?_binding {name value : List Char} (h : isName name = true) :
    assignment? [.text (name ++ ['=']) false, .text value true] =
      some (String.ofList name, [.text value true]) := by
  have htake : (name ++ ['=']).takeWhile (fun c => !decide (c = '=')) = name := by
    rw [List.takeWhile_append_of_pos, List.takeWhile_cons_of_neg (by simp), List.append_nil]
    intro c hc
    simpa using ne_of_isNameChar (isNameChar_of_mem h hc) (by decide)
  simp [assignment?, htake, h]

/-- A variable with its value is read as one word, which assigns that value to it. -/
theorem readToken_binding {name : List Char} (hname : isName name = true)
    (hrest : source.rest = name ++ '=' :: ((quoted text).toList ++ rest)) (hend : EndsWord rest)
    (hfuel : name.length + 2 * text.length + 4 ≤ fuel) :
    ∃ word, readToken fuel source = .ok (.word word, source.moved rest (text.toList.count '\n')) ∧
      assignment? word = some (String.ofList name, [.text text.toList true]) := by
  refine ⟨[.text (name ++ ['=']) false, .text text.toList true], ?_, assignment?_binding hname⟩
  obtain ⟨fuel, rfl⟩ : ∃ n, fuel = n + (name ++ ['=']).length + 1 :=
    ⟨fuel - (name ++ ['=']).length - 1, by simp; omega⟩
  rw [List.length_append, List.length_singleton] at hfuel
  have hordinary : ∀ c ∈ name ++ ['='], IsOrdinary c := by
    intro c hc
    obtain hc | rfl := List.mem_append.mp hc |>.imp_right List.mem_singleton.mp
    · exact isOrdinary_of_isNameChar (isNameChar_of_mem hname hc)
    · exact isOrdinary_equals
  have hfront := @readPieces_ordinaries fuel [] source ((quoted text).toList ++ rest)
    (name ++ ['=']) hordinary (by simp [hrest])
  obtain ⟨texts, hne, hjoin, hread⟩ := @readPieces_quoted fuel
    (((name ++ ['=']).map (Piece.text [·] false)).reverse ++ [])
    (source.moved ((quoted text).toList ++ rest) 0) rest text.toList
    (by simp [quoted, Source.moved]) hend (by rw [String.length_toList]; omega)
  obtain ⟨first, more, rfl, hstart⟩ : ∃ first more, name = first :: more ∧ isNameStart first := by
    cases name with
    | nil => cases hname
    | cons first more =>
      rw [isName, Bool.and_eq_true] at hname
      exact ⟨first, more, rfl, hname.1⟩
  have hword := @joinPieces_chars false (first :: more ++ ['=']) (by simp)
    (texts.map (Piece.text · true)) text.toList (by rw [joinPieces_texts hne, hjoin]; rfl)
  rw [readToken_word (beginsWord_of_isNameStart hstart) hrest (hfront.trans hread),
    List.append_nil, List.reverse_append, List.reverse_reverse, List.reverse_reverse,
    Source.moved_moved, Nat.zero_add, hword]
  rfl

end

end ColdBuild.Shell
