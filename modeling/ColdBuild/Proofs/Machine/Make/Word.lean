import ColdBuild.Machine.Make.Word
import Mathlib.Data.List.Induction
import Mathlib.Data.List.Nodup
import Mathlib.Data.List.TakeWhile

/-!
# Lists of words and patterns of names

A list of words is one text, and the words are read off it again (`words_unwords`). A pattern with
a percent sign matches the names that it gives with some text in the place of the sign, which is
the stem (`stem?_eq_some_iff`); a matching name is replaced by the other pattern with the same stem
(`replaced_withStem`).
-/

namespace ColdBuild.Make

variable {pattern name stem text : String}

/-! ## Words -/

/-- The text is one word of a list. -/
structure IsWord (word : String) : Prop where
  ne_empty : word ≠ ""
  noGap : ∀ c ∈ word.toList, isGap c = false

theorem noGap_of_mem_splitOnP {chars piece : List Char} (h : piece ∈ chars.splitOnP isGap) :
    ∀ c ∈ piece, isGap c = false := by
  induction chars generalizing piece with
  | nil =>
    rw [List.splitOnP_nil, List.mem_singleton] at h
    simp [h]
  | cons c chars ih =>
    rw [List.splitOnP_cons_eq_if_modifyHead] at h
    split at h
    · obtain rfl | h := List.mem_cons.mp h
      · simp
      · exact ih h
    · next hplain =>
      obtain ⟨first, rest, hsplit⟩ := List.exists_cons_of_ne_nil (List.splitOnP_ne_nil isGap chars)
      rw [hsplit, List.modifyHead_cons] at h
      rw [hsplit] at ih
      obtain rfl | h := List.mem_cons.mp h
      · exact List.forall_mem_cons.mpr ⟨by simpa using hplain, ih (.head _)⟩
      · exact ih (.tail _ h)

theorem isWord_of_mem_words {word : String} (h : word ∈ words text) : IsWord word := by
  obtain ⟨chars, mem, rfl⟩ := List.mem_map.mp h
  obtain ⟨mem, hne⟩ := List.mem_filter.mp mem
  refine ⟨?_, ?_⟩
  · simpa using hne
  · rw [String.toList_ofList]
    exact noGap_of_mem_splitOnP mem

theorem words_unwords {list : List String} (h : ∀ word ∈ list, IsWord word) :
    words (unwords list) = list := by
  induction list with
  | nil => rfl
  | cons word rest ih =>
    obtain ⟨hword, hrest⟩ := List.forall_mem_cons.mp h
    have hne : word.toList ≠ [] := by simpa using hword.ne_empty
    cases rest with
    | nil =>
      simp [words, unwords, List.splitOnP_eq_singleton hword.noGap, hne]
    | cons next rest =>
      have hsplit : (unwords (word :: next :: rest)).toList =
          word.toList ++ ' ' :: (unwords (next :: rest)).toList := by
        simp [unwords]
      have hmore := ih hrest
      unfold words at hmore ⊢
      rw [hsplit, List.splitOnP_append_cons_of_forall_mem hword.noGap ' ' rfl]
      rw [List.filter_cons_of_pos (by simpa using hne), List.map_cons, hmore, String.ofList_toList]

/-- Writing a list of words out anew keeps its words. -/
theorem words_unwords_words (text : String) : words (unwords (words text)) = words text :=
  words_unwords fun _ => isWord_of_mem_words

/-! ## Patterns -/

theorem stem?_eq_some_iff (h : isPattern pattern = true) :
    stem? pattern name = some stem ↔ name = withStem pattern stem := by
  rw [isPattern, Option.isSome_iff_exists] at h
  obtain ⟨⟨front, behind⟩, hparts⟩ := h
  unfold stem? withStem
  simp only [hparts]
  rw [← String.toList_inj, String.toList_ofList]
  constructor
  · intro h
    split at h
    · next hfits =>
      simp only [Bool.and_eq_true, decide_eq_true_eq] at hfits
      obtain ⟨⟨hlength, hfront⟩, hbehind⟩ := hfits
      cases h
      rw [String.toList_ofList]
      have hdrop : (name.toList.take (name.toList.length - behind.length)).take front.length =
          front := by
        rw [List.take_take, Nat.min_eq_left (by omega), hfront]
      calc name.toList
        _ = name.toList.take (name.toList.length - behind.length) ++ behind := by
          conv => lhs; rw [← List.take_append_drop (name.toList.length - behind.length) name.toList]
          rw [hbehind]
        _ = front ++ (name.toList.take (name.toList.length - behind.length)).drop front.length ++
            behind := by
          conv => lhs; rw [← List.take_append_drop front.length (List.take _ _), hdrop]
    · cases h
  · intro h
    rw [h]
    have hlength : (front ++ stem.toList ++ behind).length - behind.length =
        (front ++ stem.toList).length := by
      rw [List.length_append, Nat.add_sub_cancel]
    rw [hlength, List.take_left, List.drop_left]
    simp

theorem replaced_withStem (h : isPattern pattern = true) (replacement stem : String) :
    replaced pattern replacement (withStem pattern stem) = withStem replacement stem := by
  rw [replaced, (stem?_eq_some_iff h).mpr rfl]
  simp [h]

theorem replaced_of_stem?_eq_none {replacement word : String} (h : stem? pattern word = none) :
    replaced pattern replacement word = word := by
  rw [replaced, h]

/-! ## Directories -/

theorem directoryOf_append_fileOf (h : '/' ∈ name.toList) :
    directoryOf name ++ fileOf name = name := by
  have hdirectory : (name.toList.reverse.dropWhile (· ≠ '/')).reverse ≠ [] := by
    intro hnil
    have hwhole := @List.takeWhile_append_dropWhile _ (· ≠ '/') name.toList.reverse
    rw [List.reverse_eq_nil_iff.mp hnil, List.append_nil] at hwhole
    rw [← List.mem_reverse, ← hwhole] at h
    simpa using List.mem_takeWhile_imp h
  rw [← String.toList_inj, String.toList_append, directoryOf, fileOf,
    if_neg (by simpa using hdirectory), String.toList_ofList, String.toList_ofList,
    ← List.reverse_append, List.takeWhile_append_dropWhile, List.reverse_reverse]

/-! ## Each once -/

theorem distinct_concat (items : List String) (item : String) : distinct (items ++ [item]) =
    if item ∈ distinct items then distinct items else distinct items ++ [item] := by
  rw [distinct, List.foldl_append]
  simp [distinct]

theorem mem_distinct {items : List String} {item : String} :
    item ∈ distinct items ↔ item ∈ items := by
  induction items using List.reverseRecOn with
  | nil => rfl
  | append_singleton items last ih =>
    rw [distinct_concat, List.mem_append, List.mem_singleton, ← ih]
    split
    · next hold =>
      constructor
      · exact .inl
      · rintro (h | rfl)
        · exact h
        · exact hold
    · rw [List.mem_append, List.mem_singleton]

theorem nodup_distinct (items : List String) : (distinct items).Nodup := by
  induction items using List.reverseRecOn with
  | nil => exact .nil
  | append_singleton items last ih =>
    rw [distinct_concat]
    split
    · exact ih
    · next hnew => exact ih.append (by simp) (by simpa using hnew)

end ColdBuild.Make
