import ColdBuild.Log
import ColdBuild.Proofs.Regex.Matching
import Mathlib.Data.List.Induction

/-!
# Which records are shown

The directive that decides about a module is the last of the longest ones that cover it
(`LogFilter.deciding?_eq_some_iff`). A record is shown if that directive admits its level and its
message has a part that matches the expression of the filter, where it has one
(`LogFilter.shows_iff`).

A filter has one directive for a name, and refining it keeps that (`LogFilter.Named.refine`). A
directive that does not cover a module changes nothing for it (`LogFilter.deciding?_insert`).
Directives that are written out are read back (`LogFilter.refine_text`).
-/
namespace ColdBuild

/-- The one of two directives that decides, where the first may be missing and comes earlier. -/
def LogDirective.after : Option LogDirective → LogDirective → LogDirective
  | none, e => e
  | some d, e => if d.weight ≤ e.weight then e else d

namespace LogFilter

section

variable {directives : List LogDirective} {d : LogDirective} {target : String}
  {expression : Option (Regex.Expression Regex.Atom)}

theorem deciding?_concat (e : LogDirective) :
    deciding? ⟨directives ++ [e], expression⟩ target =
      if e.covers target then some (.after (deciding? ⟨directives, expression⟩ target) e)
      else deciding? ⟨directives, expression⟩ target := by
  cases covered : e.covers target with
  | false => simp [deciding?, List.filter_append, covered]
  | true =>
    simp only [deciding?, List.filter_append, List.filter_cons, covered, List.filter_nil, if_true,
      List.foldl_append, List.foldl_cons, List.foldl_nil]
    generalize List.foldl _ none _ = best
    cases best with
    | none => rfl
    | some d =>
      simp only [LogDirective.after]
      split <;> rfl

theorem deciding?_eq_none_iff : deciding? ⟨directives, expression⟩ target = none ↔
    ∀ e ∈ directives, e.covers target = false := by
  induction directives using List.reverseRecOn with
  | nil => simp [deciding?]
  | append_singleton directives e ih =>
    rw [deciding?_concat]
    cases covered : e.covers target with
    | false => simp [ih, covered, or_imp, forall_and]
    | true =>
      simp only [if_true, reduceCtorEq, false_iff]
      intro uncovered
      exact absurd (uncovered e (by simp)) (by simp [covered])

theorem exists_of_deciding? (h : deciding? ⟨directives, expression⟩ target = some d) :
    ∃ before after, directives = before ++ d :: after ∧ d.covers target = true ∧
      (∀ e ∈ before, e.covers target = true → e.weight ≤ d.weight) ∧
      ∀ e ∈ after, e.covers target = true → e.weight < d.weight := by
  induction directives using List.reverseRecOn generalizing d with
  | nil => cases h
  | append_singleton directives e ih =>
    rw [deciding?_concat] at h
    cases covered : e.covers target with
    | false =>
      rw [if_neg (by simp [covered])] at h
      obtain ⟨before, after, rfl, cover, atMost, below⟩ := ih h
      refine ⟨before, after ++ [e], by simp, cover, atMost, ?_⟩
      simpa [or_imp, forall_and, covered] using below
    | true =>
      rw [if_pos covered] at h
      cases earlier : deciding? ⟨directives, expression⟩ target with
      | none =>
        rw [earlier] at h
        cases h
        refine ⟨directives, [], rfl, covered, ?_, by simp⟩
        intro e mem cover
        simp [deciding?_eq_none_iff.mp earlier e mem] at cover
      | some c =>
        rw [earlier] at h
        obtain ⟨before, after, rfl, cover, atMost, below⟩ := ih earlier
        simp only [LogDirective.after] at h
        split at h
        · next longer =>
          cases h
          refine ⟨before ++ c :: after, [], rfl, covered, ?_, by simp⟩
          intro e mem cover
          rcases List.mem_append.mp mem with mem | mem
          · exact Nat.le_trans (atMost e mem cover) longer
          · rcases List.mem_cons.mp mem with rfl | mem
            · exact longer
            · exact Nat.le_trans (Nat.le_of_lt (below e mem cover)) longer
        · next shorter =>
          cases h
          refine ⟨before, after ++ [e], by simp, cover, atMost, ?_⟩
          intro e' mem cover
          rcases List.mem_append.mp mem with mem | mem
          · exact below e' mem cover
          · rw [List.mem_singleton.mp mem]
            omega

/-- The directive that decides is the last of the longest that cover the module. -/
theorem deciding?_eq_some_iff : deciding? ⟨directives, expression⟩ target = some d ↔
    ∃ before after, directives = before ++ d :: after ∧ d.covers target = true ∧
      (∀ e ∈ before, e.covers target = true → e.weight ≤ d.weight) ∧
      ∀ e ∈ after, e.covers target = true → e.weight < d.weight := by
  refine ⟨exists_of_deciding?, ?_⟩
  rintro ⟨before, after, rfl, covered, atMost, below⟩
  induction after using List.reverseRecOn with
  | nil =>
    rw [deciding?_concat, if_pos covered]
    cases earlier : deciding? ⟨before, expression⟩ target with
    | none => rfl
    | some c =>
      obtain ⟨front, back, rfl, cover, -, -⟩ := exists_of_deciding? earlier
      simp [LogDirective.after, atMost c (by simp) cover]
  | append_singleton after e ih =>
    have others := ih fun e mem => below e (List.mem_append_left _ mem)
    rw [← List.cons_append, ← List.append_assoc, deciding?_concat, others]
    cases cover : e.covers target with
    | false => simp
    | true =>
      have shorter := below e (by simp) cover
      simp [LogDirective.after, show ¬d.weight ≤ e.weight by omega]

/-- A record is shown if the directive that decides about its module admits its level, and its
message has a part that matches. -/
theorem shows_iff {filter : LogFilter} {entry : LogRecord} : filter.shows entry = true ↔
    (∃ d ∈ filter.deciding? entry.target, ∃ level, d.threshold = .upTo level ∧
      entry.level.rank ≤ level.rank) ∧
    ∀ e ∈ filter.expression, ∃ i k, i ≤ entry.message.toList.length ∧
      e.Matches entry.message.toList i k := by
  have matching : filter.expression.all (·.isFoundIn entry.message) = true ↔
      ∀ e ∈ filter.expression, ∃ i k, i ≤ entry.message.toList.length ∧
        e.Matches entry.message.toList i k := by
    simp only [Option.all_eq_true, Regex.Expression.isFoundIn_iff, Option.mem_def]
  rw [shows, Bool.and_eq_true, matching]
  refine and_congr_left fun _ => ?_
  cases filter.deciding? entry.target with
  | none => simp
  | some d =>
    cases threshold : d.threshold with
    | off => simp [LogThreshold.admits, threshold]
    | upTo level => simp [LogThreshold.admits, threshold]

/-- One threshold for all modules admits the levels up to its own. -/
theorem upTo_shows_iff {level : LogLevel} {entry : LogRecord} :
    (upTo level).shows entry = true ↔ entry.level.rank ≤ level.rank := by
  simp [shows, upTo, deciding?, LogDirective.covers, LogThreshold.admits]

/-! ### Refining a filter -/

/-- No two directives have the same name. -/
def Named (directives : List LogDirective) : Prop := (directives.map LogDirective.name).Nodup

theorem map_name_insert (e : LogDirective) (directives : List LogDirective) :
    (insert e directives).map LogDirective.name =
      if e.name ∈ directives.map LogDirective.name then directives.map LogDirective.name
      else directives.map LogDirective.name ++ [e.name] := by
  induction directives with
  | nil => simp [insert]
  | cons d directives ih =>
    rw [insert]
    split
    · next same => simp [same]
    · next other =>
      rw [List.map_cons, ih]
      split
      · next mem => simp [mem]
      · next mem => simp [mem, Ne.symm other]

theorem Named.insert (named : Named directives) (e : LogDirective) :
    Named (LogFilter.insert e directives) := by
  rw [Named, map_name_insert]
  split
  · exact named
  · next fresh =>
    have distinct : (directives.map LogDirective.name).Nodup := named
    simpa [List.nodup_append, distinct] using fresh

/-- What a directive that does not cover a module says is nothing to it. -/
theorem deciding?_insert {e : LogDirective} (uncovered : e.covers target = false) :
    deciding? ⟨insert e directives, expression⟩ target =
      deciding? ⟨directives, expression⟩ target := by
  have same : (insert e directives).filter (·.covers target) =
      directives.filter (·.covers target) := by
    induction directives with
    | nil => simp [insert, uncovered]
    | cons d directives ih =>
      rw [insert]
      split
      · next same =>
        have cover : d.covers target = false := by
          rw [← uncovered, LogDirective.covers, LogDirective.covers, same]
        simp [uncovered, cover]
      · rw [List.filter_cons, List.filter_cons, ih]
  simp only [deciding?, same]

def directivesOf (parts : List (List Char)) : List LogDirective :=
  (parts.filter (· ≠ [])).filterMap fun part => (LogDirective.parse part).toOption

def unreadOf (parts : List (List Char)) : List (List Char) :=
  (parts.filter (· ≠ [])).filterMap fun part =>
    match LogDirective.parse part with
    | .ok _ => none
    | .error unread => some unread

/-- Every part that can be read is inserted, in order, and no other part has an effect. -/
theorem addAll_eq (filter : LogFilter) (parts : List (List Char)) :
    filter.addAll parts =
      ({ filter with
          directives := (directivesOf parts).foldl (fun all d => insert d all) filter.directives },
        unreadOf parts) := by
  induction parts generalizing filter with
  | nil => rfl
  | cons part parts ih =>
    rw [addAll]
    split
    · next empty =>
      rw [ih]
      simp [directivesOf, unreadOf, empty]
    · next nonempty =>
      split
      · next directive read =>
        rw [ih]
        simp [directivesOf, unreadOf, nonempty, read, Except.toOption]
      · next unread read =>
        rw [ih]
        simp [directivesOf, unreadOf, nonempty, read, Except.toOption]

theorem Named.addAll {filter : LogFilter} (named : Named filter.directives)
    (parts : List (List Char)) : Named (filter.addAll parts).1.directives := by
  rw [addAll_eq]
  dsimp only
  generalize directivesOf parts = more
  generalize filter.directives = directives at named
  induction more generalizing directives with
  | nil => exact named
  | cons d more ih => exact ih _ (named.insert d)

/-- Refining a filter leaves it with one directive for a name. -/
theorem Named.refine {filter : LogFilter} (named : Named filter.directives) (text : String) :
    Named (filter.refine text).1.directives := by
  unfold LogFilter.refine
  split
  · exact named
  · split
    · exact named
    · dsimp only
      split <;> exact named.addAll _

end

end LogFilter

/-! ### Directives as text -/

theorem stripped_eq {text : List Char} (first : ∀ c ∈ text.head?, isBlank c = false)
    (last : ∀ c ∈ text.getLast?, isBlank c = false) : stripped text = text := by
  have front : text.dropWhile isBlank = text := by
    cases text with
    | nil => rfl
    | cons c text => simp [first c rfl]
  have back : text.reverse.dropWhile isBlank = text.reverse := by
    rw [← List.head?_reverse] at last
    cases reversed : text.reverse with
    | nil => rfl
    | cons c rest => simp [last c (by simp [reversed])]
  rw [stripped, front, back, List.reverse_reverse]

def LogThreshold.text : LogThreshold → List Char
  | .off => "off".toList
  | .upTo level => level.name.toList

theorem LogThreshold.parse?_text (threshold : LogThreshold) :
    parse? threshold.text = some threshold := by
  cases threshold with
  | off => decide
  | upTo level => cases level <;> decide

theorem LogThreshold.text_ne_nil (threshold : LogThreshold) : threshold.text ≠ [] := by
  cases threshold with
  | off => decide
  | upTo level => cases level <;> decide

namespace LogDirective

def text (d : LogDirective) : List Char :=
  match d.name with
  | none => d.threshold.text
  | some name => name ++ '=' :: d.threshold.text

/-- The character has no meaning of its own in a text of directives. -/
def IsPlain (c : Char) : Prop := c ≠ ',' ∧ c ≠ '/' ∧ c ≠ '=' ∧ isBlank c = false

instance (c : Char) : Decidable (IsPlain c) := inferInstanceAs (Decidable (_ ∧ _))

theorem isPlain_text {c : Char} {threshold : LogThreshold} (mem : c ∈ threshold.text) :
    IsPlain c := by
  have all : threshold.text.all (fun c => decide (IsPlain c)) = true := by
    cases threshold with
    | off => decide
    | upTo level => cases level <;> decide
  exact of_decide_eq_true (List.all_eq_true.mp all c mem)

theorem parse_text {d : LogDirective} (plain : ∀ name ∈ d.name, ∀ c ∈ name, IsPlain c) :
    parse d.text = .ok d := by
  obtain ⟨name, threshold⟩ := d
  cases name with
  | none =>
    have single : threshold.text.splitOn '=' = [threshold.text] :=
      List.splitOn_eq_singleton fun mem => (isPlain_text mem).2.2.1 rfl
    simp [text, parse, single, LogThreshold.parse?_text]
  | some name =>
    have parts : (name ++ '=' :: threshold.text).splitOn '=' = [name, threshold.text] := by
      rw [List.splitOn_append_cons_self_of_not_mem fun mem => (plain name rfl _ mem).2.2.1 rfl,
        List.splitOn_eq_singleton fun mem => (isPlain_text mem).2.2.1 rfl]
    have tight : stripped threshold.text = threshold.text := stripped_eq
      (fun c mem => (isPlain_text (List.mem_of_mem_head? mem)).2.2.2)
      (fun c mem => (isPlain_text (List.mem_of_mem_getLast? mem)).2.2.2)
    simp [text, parse, parts, tight, threshold.text_ne_nil, LogThreshold.parse?_text]

theorem isPlain_of_mem_text {d : LogDirective} {c : Char}
    (plain : ∀ name ∈ d.name, ∀ c ∈ name, IsPlain c) (mem : c ∈ d.text) :
    IsPlain c ∨ c = '=' := by
  obtain ⟨name, threshold⟩ := d
  cases name with
  | none => exact .inl (isPlain_text mem)
  | some name =>
    rcases List.mem_append.mp mem with mem | mem
    · exact .inl (plain name rfl c mem)
    · rcases List.mem_cons.mp mem with same | mem
      · exact .inr same
      · exact .inl (isPlain_text mem)

theorem text_ne_nil (d : LogDirective) : d.text ≠ [] := by
  obtain ⟨name, threshold⟩ := d
  cases name with
  | none => exact threshold.text_ne_nil
  | some name => simp [text]

theorem stripped_text {d : LogDirective} (plain : ∀ name ∈ d.name, ∀ c ∈ name, IsPlain c) :
    stripped d.text = d.text := by
  have noBlank : ∀ c ∈ d.text, isBlank c = false := by
    intro c mem
    rcases isPlain_of_mem_text plain mem with plain | rfl
    · exact plain.2.2.2
    · rfl
  exact stripped_eq (fun c mem => noBlank c (List.mem_of_mem_head? mem))
    (fun c mem => noBlank c (List.mem_of_mem_getLast? mem))

end LogDirective

theorem mem_intercalate {α : Type} {x separator : α} {lists : List (List α)}
    (mem : x ∈ [separator].intercalate lists) : x = separator ∨ ∃ l ∈ lists, x ∈ l := by
  induction lists with
  | nil => cases mem
  | cons first rest ih =>
    cases rest with
    | nil => exact .inr ⟨first, by simp, by simpa [List.intercalate] using mem⟩
    | cons second rest =>
      rw [List.intercalate_cons_cons, List.append_assoc, List.mem_append, List.cons_append,
        List.nil_append, List.mem_cons] at mem
      rcases mem with mem | same | mem
      · exact .inr ⟨first, by simp, mem⟩
      · exact .inl same
      · rcases ih mem with same | ⟨l, within, mem⟩
        · exact .inl same
        · exact .inr ⟨l, List.mem_cons_of_mem _ within, mem⟩

namespace LogFilter

theorem refine_of_noSlash {text : String} (noSlash : '/' ∉ text.toList) (filter : LogFilter) :
    filter.refine text =
      ((filter.addAll ((text.toList.splitOn ',').map stripped)).1,
        (filter.addAll ((text.toList.splitOn ',').map stripped)).2.map fun part =>
          s!"invalid logging spec '{String.ofList part}'") := by
  rw [refine, List.splitOn_eq_singleton noSlash]
  rfl

section

variable {directives : List LogDirective}
  (plain : ∀ d ∈ directives, ∀ name ∈ d.name, ∀ c ∈ name, LogDirective.IsPlain c)

include plain

theorem read_texts : directivesOf (directives.map LogDirective.text) = directives ∧
    unreadOf (directives.map LogDirective.text) = [] := by
  induction directives with
  | nil => exact ⟨rfl, rfl⟩
  | cons d directives ih =>
    obtain ⟨read, unread⟩ := ih fun e mem => plain e (List.mem_cons_of_mem _ mem)
    have parsed := LogDirective.parse_text (plain d List.mem_cons_self)
    rw [List.map_cons, directivesOf, unreadOf, List.filter_cons_of_pos (by simp [d.text_ne_nil])]
    simp only [List.filterMap_cons, parsed, Except.toOption]
    exact ⟨congrArg (d :: ·) read, unread⟩

theorem map_stripped_texts : (directives.map LogDirective.text).map stripped =
    directives.map LogDirective.text := by
  rw [List.map_map]
  exact List.map_congr_left fun d mem => LogDirective.stripped_text (plain d mem)

theorem notMem_texts {c : Char} (special : ¬LogDirective.IsPlain c) (other : c ≠ '=') :
    ∀ part ∈ directives.map LogDirective.text, c ∉ part := by
  intro part within mem
  obtain ⟨d, inside, rfl⟩ := List.mem_map.mp within
  rcases LogDirective.isPlain_of_mem_text (plain d inside) mem with isPlain | same
  · exact special isPlain
  · exact other same

/-- Directives that are written out, with commas between, are read and inserted in their order. -/
theorem refine_text (filter : LogFilter) :
    filter.refine (String.ofList ([','].intercalate (directives.map LogDirective.text))) =
      ({ filter with
          directives := directives.foldl (fun all d => insert d all) filter.directives }, []) := by
  have noSlash : '/' ∉ [','].intercalate (directives.map LogDirective.text) := by
    intro mem
    rcases mem_intercalate mem with same | ⟨part, within, mem⟩
    · cases same
    · exact notMem_texts plain (by decide) (by decide) part within mem
  rw [refine_of_noSlash (by rwa [String.toList_ofList]), String.toList_ofList]
  cases directives with
  | nil => rfl
  | cons d directives =>
    rw [List.splitOn_intercalate ',' (notMem_texts plain (by decide) (by decide)) (by simp),
      map_stripped_texts plain, addAll_eq, (read_texts plain).1, (read_texts plain).2]
    rfl

end

end LogFilter

end ColdBuild
