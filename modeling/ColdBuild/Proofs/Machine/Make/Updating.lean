import ColdBuild.Machine.Make.Updating
import ColdBuild.Proofs.Machine.Make.Word
import Mathlib.Data.List.Basic

/-!
# Bringing targets up to date

A rule with patterns that is considered for a target makes that very target
(`exists_filled_of_mem_candidates`), and those with shorter stems come first
(`pairwise_candidates`). What comes of a target is kept (`lookup_outcomes_update`), so to bring it up
to date again gives the same outcome and changes nothing (`update_update`).
-/
namespace ColdBuild.Make

/-! ## Rules with patterns -/

section

variable {m : Maker} {name : String} {c : Candidate}

theorem dropEnd_append_fileOf (name : String) :
    (name.dropEnd (fileOf name).length).toString ++ fileOf name = name := by
  have hsuffix : (fileOf name).toList <:+ name.toList := by
    rw [fileOf, String.toList_ofList, ← List.reverse_prefix, List.reverse_reverse]
    exact List.takeWhile_prefix _
  rw [← String.toList_inj, String.toList_append]
  change (name.dropEnd (fileOf name).length).copy.toList ++ _ = _
  rw [String.toList_copy_dropEnd]
  exact List.suffix_iff_eq_append.mp hsuffix

/-- A rule that is considered for a target has commands and is filled in to that target. -/
theorem exists_filled_of_mem_candidates
    (hpatterns : ∀ rule ∈ m.patternRules, ∀ pattern ∈ rule.targets, isPattern pattern = true)
    (h : c ∈ candidates m name) :
    c.rule ∈ m.patternRules ∧ c.rule.clause.recipe.isSome = true ∧
      ∃ pattern ∈ c.rule.targets, c.filled pattern = name := by
  rw [candidates, List.mem_mergeSort, List.mem_filter, List.mem_flatMap] at h
  obtain ⟨⟨rule, hrule, hfound⟩, hrecipe⟩ := h
  obtain ⟨pattern, hpattern, hfound⟩ := List.mem_filterMap.mp hfound
  have hmarked := hpatterns rule hrule pattern hpattern
  split at hfound
  · obtain ⟨stem, hstem, rfl⟩ := Option.map_eq_some_iff.mp hfound
    refine ⟨hrule, hrecipe, pattern, hpattern, ?_⟩
    rw [Candidate.filled, if_pos hmarked, ← (stem?_eq_some_iff hmarked).mp hstem]
    simp
  · obtain ⟨stem, hstem, hfound⟩ := Option.bind_eq_some_iff.mp hfound
    split at hfound
    · cases hfound
    · cases hfound
      refine ⟨hrule, hrecipe, pattern, hpattern, ?_⟩
      rw [Candidate.filled, if_pos hmarked, ← (stem?_eq_some_iff hmarked).mp hstem]
      exact dropEnd_append_fileOf name

theorem pairwise_candidates (m : Maker) (name : String) :
    (candidates m name).Pairwise fun c other => c.stem.length ≤ other.stem.length := by
  rw [candidates]
  have hsorted := @List.pairwise_mergeSort Candidate
    (fun c other => decide (c.stem.length ≤ other.stem.length)) (by simp; omega) (by simp; omega)
  simpa using hsorted _

end

/-! ## Targets are made once -/

variable (name : String) (parent : Option String)

theorem settle_fst (scopes : List Scope) (outcome : Outcome) (m : Maker) :
    (settle name parent scopes outcome m).1 = outcome := by
  simp only [settle, bind, StateT.bind, get, getThe, MonadStateOf.get, StateT.get, pure, modify,
    modifyGet, MonadStateOf.modifyGet, StateT.modifyGet]
  split <;> rfl

theorem lookup_outcomes_settle (scopes : List Scope) (outcome : Outcome) (m : Maker) :
    (settle name parent scopes outcome m).2.outcomes.lookup name =
      some (settle name parent scopes outcome m).1 := by
  rw [settle_fst]
  simp only [settle, bind, StateT.bind, get, getThe, MonadStateOf.get, StateT.get, pure, modify,
    modifyGet, MonadStateOf.modifyGet, StateT.modifyGet]
  split
  · exact List.lookup_cons_self
  · exact List.lookup_cons_self

variable (tools : Tools) (fuel : Nat) {m : Maker}

theorem update_of_lookup {outcome : Outcome} (h : m.outcomes.lookup name = some outcome) :
    update tools (fuel + 1) parent name m = (outcome, m) := by
  rw [update]
  simp only [bind, StateT.bind, get, getThe, MonadStateOf.get, StateT.get, pure, h]
  rfl

theorem lookup_outcomes_update (m : Maker) :
    (update tools (fuel + 1) parent name m).2.outcomes.lookup name =
      some (update tools (fuel + 1) parent name m).1 := by
  cases h : m.outcomes.lookup name with
  | some outcome => rw [update_of_lookup name parent tools fuel h, h]
  | none =>
    rw [update]
    simp only [bind, StateT.bind, get, getThe, MonadStateOf.get, StateT.get, pure, h]
    exact lookup_outcomes_settle name parent _ _ _

/-- A target is brought up to date once. -/
theorem update_update (fuel' : Nat) (parent' : Option String) (m : Maker) :
    update tools (fuel' + 1) parent' name (update tools (fuel + 1) parent name m).2 =
      update tools (fuel + 1) parent name m :=
  update_of_lookup name parent' tools fuel' (lookup_outcomes_update name parent tools fuel m)

end ColdBuild.Make
