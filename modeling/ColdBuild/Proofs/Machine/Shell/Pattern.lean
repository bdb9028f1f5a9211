import ColdBuild.Machine.Shell.Pattern
import Mathlib.Data.List.Forall2

/-!
# What patterns match

Each item of a pattern takes up a part of the text, and the parts follow each other
(`isMatch_iff`). Where no item is active, the pattern matches its own text only
(`isMatch_of_not_isActive`), which holds above all of text that has been quoted.

Taking off what a pattern matches leaves the rest of the text, and what has been taken off is the
longest or the shortest part that the pattern matches (`withoutFront_spec`, `withoutEnd_spec`).
As a path, a pattern stands for paths whose names its segments match, in order (`mem_paths`).
-/

namespace ColdBuild.Shell.Pattern

/-! ## Matching -/

/-- What an item takes up of a text. -/
inductive Takes : PatternItem → List Char → Prop where
  | char (c : Char) : Takes (.char c) [c]
  | anyChar (c : Char) : Takes .anyChar [c]
  | anyText (text : List Char) : Takes .anyText text
  | oneOf {inverted : Bool} {ranges : Regex.Ranges} {c : Char} (h : ranges.has c ≠ inverted) :
      Takes (.oneOf inverted ranges) [c]

/-- The items take up a text one after the other. -/
inductive Matches : List PatternItem → List Char → Prop where
  | nil : Matches [] []
  | cons {item : PatternItem} {items : List PatternItem} {part text : List Char}
      (hpart : Takes item part) (hrest : Matches items text) :
      Matches (item :: items) (part ++ text)

theorem isMatch_of_takes {item : PatternItem} {items : List PatternItem} {part text : List Char}
    (hpart : Takes item part) (hrest : isMatch items text = true) :
    isMatch (item :: items) (part ++ text) = true := by
  cases hpart with
  | char c => simp [isMatch, hrest]
  | anyChar c => simp [isMatch, hrest]
  | anyText part =>
    rw [isMatch, List.any_eq_true]
    refine ⟨part.length, ?_, ?_⟩
    · simp only [List.mem_range, List.length_append]
      omega
    · rwa [List.drop_left]
  | oneOf h => simp [isMatch, hrest, h]

theorem exists_takes_of_isMatch {item : PatternItem} {items : List PatternItem} {text : List Char}
    (h : isMatch (item :: items) text = true) :
    ∃ part rest, text = part ++ rest ∧ Takes item part ∧ isMatch items rest = true := by
  cases item with
  | char d =>
    cases text with
    | nil => simp [isMatch] at h
    | cons c text =>
      simp only [isMatch, Bool.and_eq_true, decide_eq_true_eq] at h
      obtain ⟨rfl, hrest⟩ := h
      exact ⟨[c], text, rfl, .char c, hrest⟩
  | anyChar =>
    cases text with
    | nil => simp [isMatch] at h
    | cons c text => exact ⟨[c], text, rfl, .anyChar c, by simpa [isMatch] using h⟩
  | anyText =>
    rw [isMatch, List.any_eq_true] at h
    obtain ⟨n, -, hrest⟩ := h
    exact ⟨text.take n, text.drop n, (List.take_append_drop n text).symm, .anyText _, hrest⟩
  | oneOf inverted ranges =>
    cases text with
    | nil => simp [isMatch] at h
    | cons c text =>
      simp only [isMatch, Bool.and_eq_true, bne_iff_ne] at h
      exact ⟨[c], text, rfl, .oneOf h.1, h.2⟩

theorem isMatch_iff {items : List PatternItem} {text : List Char} :
    isMatch items text = true ↔ Matches items text := by
  constructor
  · intro h
    induction items generalizing text with
    | nil =>
      rw [isMatch, List.isEmpty_iff] at h
      rw [h]
      exact .nil
    | cons item items ih =>
      obtain ⟨part, rest, rfl, hpart, hrest⟩ := exists_takes_of_isMatch h
      exact .cons hpart (ih hrest)
  · intro h
    induction h with
    | nil => rfl
    | cons hpart _ ih => exact isMatch_of_takes hpart ih

theorem matches_char_iff {chars text : List Char} :
    Matches (chars.map .char) text ↔ text = chars := by
  induction chars generalizing text with
  | nil =>
    constructor
    · rintro ⟨⟩
      rfl
    · rintro rfl
      exact .nil
  | cons c chars ih =>
    constructor
    · rintro (_ | ⟨⟨⟩, hrest⟩)
      rw [ih.mp hrest]
      rfl
    · rintro rfl
      exact .cons (.char c) (ih.mpr rfl)

/-! ## Text that stands for itself -/

theorem itemsFrom_cons (fuel : Nat) (glyph : Glyph) (rest : List Glyph) :
    itemsFrom (fuel + 1) (glyph :: rest) = .char glyph.char :: itemsFrom fuel rest ∨
      ∃ item behind, (∀ c, item ≠ .char c) ∧ glyph.quoted = false ∧
        itemsFrom (fuel + 1) (glyph :: rest) = item :: itemsFrom fuel behind := by
  obtain ⟨c, quoted⟩ := glyph
  generalize hmore : itemsFrom fuel = more
  unfold itemsFrom
  simp only [hmore]
  split
  · exact .inl rfl
  · rename_i hplain
    have hplain : quoted = false := by simpa using hplain
    split
    · exact .inr ⟨.anyText, rest, nofun, hplain, rfl⟩
    · exact .inr ⟨.anyChar, rest, nofun, hplain, rfl⟩
    · split
      · exact .inr ⟨.oneOf _ _, _, nofun, hplain, rfl⟩
      · exact .inl rfl
    · exact .inl rfl

theorem itemsFrom_eq_map {fuel : Nat} {glyphs : List Glyph} (hfuel : glyphs.length ≤ fuel)
    (h : ∀ item ∈ itemsFrom fuel glyphs, ∃ c, item = .char c) :
    itemsFrom fuel glyphs = glyphs.map fun glyph => .char glyph.char := by
  induction fuel generalizing glyphs with
  | zero =>
    rw [List.length_eq_zero_iff.mp (Nat.le_zero.mp hfuel)]
    rfl
  | succ fuel ih =>
    cases glyphs with
    | nil => rfl
    | cons glyph rest =>
      obtain heq | ⟨item, behind, hactive, -, heq⟩ := itemsFrom_cons fuel glyph rest
      · rw [heq] at h ⊢
        rw [ih (Nat.le_of_succ_le_succ hfuel) fun item mem => h item (.tail _ mem)]
        rfl
      · rw [heq] at h
        obtain ⟨c, hchar⟩ := h item (.head _)
        exact absurd hchar (hactive c)

theorem items_of_not_isActive {glyphs : List Glyph} (h : isActive glyphs = false) :
    items glyphs = ((unescaped glyphs).map (·.char)).map .char := by
  rw [List.map_map]
  apply itemsFrom_eq_map (Nat.le_refl _)
  intro item mem
  rw [isActive, List.any_eq_false] at h
  have := h item mem
  cases item with
  | char c => exact ⟨c, rfl⟩
  | _ => simp at this

theorem isMatch_of_not_isActive {glyphs : List Glyph} {text : List Char}
    (h : isActive glyphs = false) :
    isMatch (items glyphs) text = true ↔ text = (unescaped glyphs).map (·.char) := by
  rw [isMatch_iff, items_of_not_isActive h, matches_char_iff]

theorem unescaped_of_quoted {glyphs : List Glyph} (h : ∀ glyph ∈ glyphs, glyph.quoted = true) :
    unescaped glyphs = glyphs := by
  induction glyphs with
  | nil => rfl
  | cons glyph rest ih =>
    obtain ⟨c, quoted⟩ := glyph
    have hquoted : quoted = true := h _ (.head _)
    subst hquoted
    rw [unescaped, ih fun glyph mem => h glyph (.tail _ mem)]
    rintro _ _ ⟨⟩

/-- A pattern that has been quoted as a whole is not active. -/
theorem not_isActive_of_quoted {glyphs : List Glyph} (h : ∀ glyph ∈ glyphs, glyph.quoted = true) :
    isActive glyphs = false := by
  rw [isActive, items, unescaped_of_quoted h]
  generalize glyphs.length = fuel
  induction fuel generalizing glyphs with
  | zero => cases glyphs <;> rfl
  | succ fuel ih =>
    cases glyphs with
    | nil => rfl
    | cons glyph rest =>
      obtain heq | ⟨_, _, _, hplain, _⟩ := itemsFrom_cons fuel glyph rest
      · rw [heq, List.any_cons, ih fun glyph mem => h glyph (.tail _ mem)]
        rfl
      · rw [h glyph (.head _)] at hplain
        cases hplain

/-! ## Taking off what matches -/

section

variable {fits : Nat → Bool} {length n : Nat}

/-- The first place that fits is the least one. -/
theorem head?_cuts (h : ((List.range (length + 1)).filter fits).head? = some n) :
    n ≤ length ∧ fits n = true ∧ ∀ m ≤ length, fits m = true → n ≤ m := by
  rw [List.head?_filter, List.find?_range_eq_some] at h
  obtain ⟨hfits, hle, hbefore⟩ := h
  refine ⟨Nat.le_of_lt_succ (List.mem_range.mp hle), hfits, ?_⟩
  intro m _ hm
  by_contra hlt
  have := hbefore m (Nat.lt_of_not_le hlt)
  simp [hm] at this

/-- The last place that fits is the greatest one. -/
theorem getLast?_cuts (h : ((List.range (length + 1)).filter fits).getLast? = some n) :
    n ≤ length ∧ fits n = true ∧ ∀ m ≤ length, fits m = true → m ≤ n := by
  obtain ⟨front, hcuts⟩ := List.getLast?_eq_some_iff.mp h
  have hmem {m : Nat} : m ∈ front ++ [n] ↔ m ≤ length ∧ fits m = true := by
    rw [← hcuts, List.mem_filter, List.mem_range, Nat.lt_succ_iff]
  have hsorted : (front ++ [n]).Pairwise (· < ·) := by
    rw [← hcuts]
    exact List.pairwise_lt_range.filter _
  refine ⟨(hmem.mp (by simp)).1, (hmem.mp (by simp)).2, ?_⟩
  intro m hm hfits
  obtain mem | mem := List.mem_append.mp (hmem.mpr ⟨hm, hfits⟩)
  · exact Nat.le_of_lt ((List.pairwise_append.mp hsorted).2.2 m mem n (.head _))
  · exact Nat.le_of_eq (List.mem_singleton.mp mem)

theorem cuts_eq_nil_iff :
    (List.range (length + 1)).filter fits = [] ↔ ∀ m ≤ length, fits m = false := by
  simp [List.filter_eq_nil_iff, Nat.lt_succ_iff]

theorem cut_cases (last : Bool) (fits : Nat → Bool) (length : Nat) :
    let cuts := (List.range (length + 1)).filter fits
    (∃ n ≤ length, (if last then cuts.getLast? else cuts.head?) = some n ∧ fits n = true ∧
      ∀ m ≤ length, fits m = true → if last then m ≤ n else n ≤ m) ∨
    (if last then cuts.getLast? else cuts.head?) = none ∧ ∀ m ≤ length, fits m = false := by
  intro cuts
  cases hcut : if last then cuts.getLast? else cuts.head? with
  | none =>
    have hnil : cuts = [] := by
      cases last <;> simpa using hcut
    exact .inr ⟨rfl, cuts_eq_nil_iff.mp hnil⟩
  | some n =>
    left
    cases last with
    | false =>
      obtain ⟨hle, hfits, hleast⟩ := head?_cuts hcut
      exact ⟨n, hle, rfl, hfits, by simpa using hleast⟩
    | true =>
      obtain ⟨hle, hfits, hgreatest⟩ := getLast?_cuts hcut
      exact ⟨n, hle, rfl, hfits, by simpa using hgreatest⟩

end

/-- What a pattern takes off at the front of a text is the longest or the shortest part there
that it matches. -/
theorem withoutFront_spec (longest : Bool) (pattern : List Glyph) (text : List Char) :
    (∃ front, text = front ++ withoutFront longest pattern text ∧ Matches (items pattern) front ∧
      ∀ other rest, text = other ++ rest → Matches (items pattern) other →
        if longest then other.length ≤ front.length else front.length ≤ other.length) ∨
    withoutFront longest pattern text = text ∧
      ∀ other rest, text = other ++ rest → ¬ Matches (items pattern) other := by
  have hother {other rest : List Char} (htext : text = other ++ rest) :
      other.length ≤ text.length ∧ text.take other.length = other := by
    simp [htext]
  unfold withoutFront
  obtain ⟨n, hle, hcut, hfits, hall⟩ | ⟨hcut, hnone⟩ :=
    cut_cases longest (fun n => isMatch (items pattern) (text.take n)) text.length
  · simp only [hcut]
    refine .inl ⟨text.take n, (List.take_append_drop n text).symm, isMatch_iff.mp hfits, ?_⟩
    intro other rest htext hmatches
    obtain ⟨hlength, htake⟩ := hother htext
    rw [List.length_take_of_le hle]
    exact hall _ hlength (isMatch_iff.mpr (by rwa [htake]))
  · simp only [hcut]
    refine .inr ⟨trivial, ?_⟩
    intro other rest htext hmatches
    obtain ⟨hlength, htake⟩ := hother htext
    have hno := hnone _ hlength
    rw [isMatch_iff.mpr (by rwa [htake])] at hno
    cases hno

/-- What a pattern takes off at the end of a text is the longest or the shortest part there that
it matches. -/
theorem withoutEnd_spec (longest : Bool) (pattern : List Glyph) (text : List Char) :
    (∃ behind, text = withoutEnd longest pattern text ++ behind ∧
      Matches (items pattern) behind ∧
      ∀ front other, text = front ++ other → Matches (items pattern) other →
        if longest then other.length ≤ behind.length else behind.length ≤ other.length) ∨
    withoutEnd longest pattern text = text ∧
      ∀ front other, text = front ++ other → ¬ Matches (items pattern) other := by
  have hother {front other : List Char} (htext : text = front ++ other) :
      front.length ≤ text.length ∧ text.drop front.length = other := by
    simp [htext]
  have hlast {cuts : List Nat} : (if longest then cuts.head? else cuts.getLast?) =
      if !longest then cuts.getLast? else cuts.head? := by
    cases longest <;> rfl
  unfold withoutEnd
  obtain ⟨n, hle, hcut, hfits, hall⟩ | ⟨hcut, hnone⟩ :=
    cut_cases (!longest) (fun n => isMatch (items pattern) (text.drop n)) text.length
  · simp only [hlast, hcut]
    refine .inl ⟨text.drop n, (List.take_append_drop n text).symm, isMatch_iff.mp hfits, ?_⟩
    intro front other htext hmatches
    obtain ⟨hlength, hdrop⟩ := hother htext
    have hcompare := hall _ hlength (isMatch_iff.mpr (by rwa [hdrop]))
    have hsum : text.length = front.length + other.length := by simp [htext]
    rw [List.length_drop]
    cases longest <;> simp at hcompare ⊢ <;> omega
  · simp only [hlast, hcut]
    refine .inr ⟨trivial, ?_⟩
    intro front other htext hmatches
    obtain ⟨hlength, hdrop⟩ := hother htext
    have hno := hnone _ hlength
    rw [isMatch_iff.mpr (by rwa [hdrop])] at hno
    cases hno

/-! ## Paths -/

/-- A name that a segment of a path stands for. A dot at its beginning is matched by a dot
only. -/
structure Fits (segment : List Glyph) (name : String) : Prop where
  isMatch : Matches (items segment) name.toList
  hidden : name.toList.head? = some '.' → (unescaped segment).head?.any (·.char = '.') = true

theorem fits_of_mem_namesIn {p : Process} {directory name : String} {segment : List Glyph}
    (h : name ∈ namesIn p directory segment) : Fits segment name := by
  unfold namesIn at h
  split at h
  · cases h
  · split at h
    · simp only [List.mem_filter, Bool.and_eq_true, Bool.or_eq_true, decide_eq_true_eq] at h
      obtain ⟨-, hhidden, hmatch⟩ := h
      refine ⟨isMatch_iff.mp hmatch, ?_⟩
      intro hdot
      exact hhidden.resolve_right fun hplain => hplain hdot
    · cases h

theorem fits_of_not_isActive {segment : List Glyph} (h : isActive segment = false) :
    Fits segment (String.ofList ((unescaped segment).map (·.char))) := by
  refine ⟨?_, ?_⟩
  · rw [String.toList_ofList, ← isMatch_iff, isMatch_of_not_isActive h]
  · intro hdot
    rw [String.toList_ofList, List.head?_map] at hdot
    cases hhead : (unescaped segment).head? with
    | none => simp [hhead] at hdot
    | some glyph => simpa [hhead] using hdot

/-- A path that segments are expanded to is made of a name for each segment. -/
theorem mem_expand {p : Process} {front path : String} {segments : List (List Glyph)}
    (h : path ∈ expand p front segments) :
    ∃ names, path = front ++ "/".intercalate names ∧ List.Forall₂ Fits segments names := by
  induction segments generalizing front with
  | nil =>
    rw [expand, List.mem_singleton] at h
    exact ⟨[], by simp [h], .nil⟩
  | cons segment rest ih =>
    cases rest with
    | nil =>
      obtain ⟨name, rfl, hfits⟩ : ∃ name, path = front ++ name ∧ Fits segment name := by
        rw [expand] at h
        split at h
        · obtain ⟨name, mem, rfl⟩ := List.mem_map.mp h
          exact ⟨name, rfl, fits_of_mem_namesIn mem⟩
        · rename_i hplain
          refine ⟨_, ?_, fits_of_not_isActive (by simpa using hplain)⟩
          dsimp only at h
          split at h
          · exact List.mem_singleton.mp h
          · cases h
      exact ⟨[name], by simp, .cons hfits .nil⟩
    | cons second rest =>
      obtain ⟨name, hrest, hfits⟩ : ∃ name,
          path ∈ expand p (front ++ name ++ "/") (second :: rest) ∧ Fits segment name := by
        simp only [expand] at h
        split at h
        · obtain ⟨name, mem, hrest⟩ := List.mem_flatMap.mp h
          exact ⟨name, hrest, fits_of_mem_namesIn (List.mem_filter.mp mem).1⟩
        · rename_i hplain
          exact ⟨_, h, fits_of_not_isActive (by simpa using hplain)⟩
      obtain ⟨names, rfl, hnames⟩ := ih hrest
      refine ⟨name :: names, ?_, .cons hfits hnames⟩
      cases hnames
      simp [String.append_assoc]

/-- The paths that a pattern stands for come in order, and each of them is made of names that
its segments match. -/
theorem paths_spec (p : Process) (glyphs : List Glyph) :
    (paths p glyphs).Pairwise (· ≤ ·) ∧ ∀ path ∈ paths p glyphs, ∃ names,
      path = "/".intercalate names ∧ List.Forall₂ Fits (segments glyphs) names := by
  refine ⟨?_, ?_⟩
  · have htrans (a b c : String) (hab : decide (a ≤ b) = true) (hbc : decide (b ≤ c) = true) :
        decide (a ≤ c) = true :=
      decide_eq_true (String.le_trans (of_decide_eq_true hab) (of_decide_eq_true hbc))
    have htotal (a b : String) : (decide (a ≤ b) || decide (b ≤ a)) = true := by
      simpa using String.le_total a b
    exact (List.pairwise_mergeSort htrans htotal _).imp of_decide_eq_true
  · intro path mem
    rw [paths, List.mem_mergeSort] at mem
    simpa using mem_expand mem

end ColdBuild.Shell.Pattern
