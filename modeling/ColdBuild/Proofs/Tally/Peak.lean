import ColdBuild.Proofs.Tally.Book
import Mathlib.Order.Bounds.Basic

/-!
# The peak of readings

The peak is the least upper bound of the readings, and one of them if there are any (`IsPeak`). One
more reading keeps a running maximum the peak of all readings so far (`IsPeak.observe`); so it is
their peak after any of them, and a tally that takes in trials holds the peak of theirs. A least
upper bound depends on the set of readings alone: neither their order nor how often one is read
counts, and the times of trials are not among them.
-/
namespace ColdBuild

/-- The figure is the least upper bound of the readings, and one of them if there are any. -/
structure IsPeak (readings : List Nat) (peak : Nat) : Prop where
  isLUB : IsLUB {kb | kb ∈ readings} peak
  attained : peak ∈ readings ∨ readings = [] ∧ peak = 0

namespace IsPeak

variable {xs ys readings : List Nat} {m n peak : Nat}

theorem nil : IsPeak [] 0 :=
  ⟨⟨fun _ mem => (List.not_mem_nil mem).elim, fun _ _ => Nat.zero_le _⟩, .inr ⟨rfl, rfl⟩⟩

theorem singleton (kb : Nat) : IsPeak [kb] kb := by
  have mem : kb ∈ [kb] := List.mem_singleton_self kb
  exact ⟨⟨fun _ same => (List.mem_singleton.mp same).le, fun _ upper => upper mem⟩, .inl mem⟩

/-- The peak of two lists is the greater of their peaks. -/
theorem append (left : IsPeak xs m) (right : IsPeak ys n) : IsPeak (xs ++ ys) (max m n) := by
  refine ⟨?_, ?_⟩
  · simp only [List.mem_append]
    exact left.isLUB.union right.isLUB
  · rcases left.attained with inLeft | ⟨rfl, rfl⟩
    · rcases right.attained with inRight | ⟨rfl, rfl⟩
      · rcases Nat.le_total n m with le | le
        · rw [Nat.max_eq_left le]
          exact .inl (List.mem_append_left _ inLeft)
        · rw [Nat.max_eq_right le]
          exact .inl (List.mem_append_right _ inRight)
      · rw [List.append_nil, Nat.max_zero]
        exact .inl inLeft
    · rw [List.nil_append, Nat.zero_max]
      exact right.attained

theorem eq_of_mem_iff (left : IsPeak xs m) (right : IsPeak ys n)
    (same : ∀ kb, kb ∈ xs ↔ kb ∈ ys) : m = n := by
  have sets : {kb | kb ∈ xs} = {kb | kb ∈ ys} := Set.ext same
  exact left.isLUB.unique (sets ▸ right.isLUB)

/-- If readings never drop, the last is their peak. -/
theorem getLast? (isPeak : IsPeak readings peak) (nonempty : readings ≠ [])
    (ascending : readings.Pairwise (· ≤ ·)) : readings.getLast? = some peak := by
  obtain ⟨before, last, rfl⟩ := (List.eq_nil_or_concat readings).resolve_left nonempty
  rw [List.concat_eq_append] at *
  obtain ⟨-, -, below⟩ := List.pairwise_append.mp ascending
  have above : last ≤ peak := isPeak.isLUB.1 (by simp)
  have least : peak ≤ last := isPeak.isLUB.2 fun kb mem => by
    rcases List.mem_append.mp mem with earlier | now
    · exact below kb earlier last (List.mem_singleton_self last)
    · exact (List.mem_singleton.mp now).le
  rw [List.getLast?_concat, above.antisymm least]

/-- One more reading gives the peak with it, which is the maximum from then on. -/
theorem observe {before : List Nat} {peak : PeakMemory} (isPeak : IsPeak before peak.maxKb)
    (kb : Nat) : IsPeak (before ++ [kb]) (peak.observe kb).1 ∧
      IsPeak (before ++ [kb]) (peak.observe kb).2.maxKb := by
  rw [PeakMemory.observe_fst, PeakMemory.maxKb_observe, and_self_iff]
  exact isPeak.append (singleton kb)

end IsPeak

namespace PeakMemory

/-- What the observations of several readings, one after another, return. -/
def figures (peak : PeakMemory) : List Nat → List Nat
  | [] => []
  | kb :: rest => (peak.observe kb).1 :: (peak.observe kb).2.figures rest

theorem length_figures (peak : PeakMemory) (readings : List Nat) :
    (peak.figures readings).length = readings.length := by
  induction readings generalizing peak with
  | nil => rfl
  | cons kb rest ih => rw [figures, List.length_cons, ih, List.length_cons]

/-- Each figure returned is the peak of the readings up to its own. -/
theorem isPeak_figures {before : List Nat} {peak : PeakMemory} (isPeak : IsPeak before peak.maxKb)
    (readings : List Nat) {k : Nat} (within : k < readings.length) :
    ∃ figure, (peak.figures readings)[k]? = some figure ∧
      IsPeak (before ++ readings.take (k + 1)) figure := by
  induction readings generalizing before peak k with
  | nil => cases within
  | cons kb rest ih =>
    cases k with
    | zero => exact ⟨_, rfl, (isPeak.observe kb).1⟩
    | succ k =>
      obtain ⟨figure, stands, later⟩ := ih (isPeak.observe kb).2 (Nat.lt_of_succ_lt_succ within)
      rw [List.append_assoc] at later
      exact ⟨figure, stands, later⟩

end PeakMemory

namespace Tally

/-- After any trials a tally holds the peak of all readings. -/
theorem isPeak_pushAll {before : List Nat} {tally : Tally} (isPeak : IsPeak before tally.peak.maxKb)
    (trials : List Trial) :
    IsPeak (before ++ trials.map Trial.peakKb) (tally.pushAll trials).peak.maxKb := by
  induction trials generalizing before tally with
  | nil => rwa [List.map_nil, List.append_nil]
  | cons trial rest ih =>
    have step : IsPeak (before ++ [trial.peakKb]) (tally.push trial).peak.maxKb :=
      (isPeak.observe trial.peakKb).2
    have others := ih step
    rwa [List.append_assoc] at others

theorem isPeak_empty_pushAll (trials : List Trial) :
    IsPeak (trials.map Trial.peakKb) (empty.pushAll trials).peak.maxKb :=
  @isPeak_pushAll [] empty .nil trials

/-- Which readings there are decides on the peak, and nothing else about the trials. -/
theorem maxKb_eq_of_mem_iff {trials trials' : List Trial}
    (same : ∀ kb, kb ∈ trials.map Trial.peakKb ↔ kb ∈ trials'.map Trial.peakKb) :
    (empty.pushAll trials).peak.maxKb = (empty.pushAll trials').peak.maxKb :=
  (isPeak_empty_pushAll trials).eq_of_mem_iff (isPeak_empty_pushAll trials') same

theorem maxKb_perm {trials trials' : List Trial} (perm : trials.Perm trials') :
    (empty.pushAll trials).peak.maxKb = (empty.pushAll trials').peak.maxKb :=
  maxKb_eq_of_mem_iff fun _ => (perm.map Trial.peakKb).mem_iff

theorem maxKb_replicate (trials : List Trial) {copies : Nat} (pos : 0 < copies) :
    (empty.pushAll (List.replicate copies trials).flatten).peak.maxKb =
      (empty.pushAll trials).peak.maxKb := by
  have mem (trial : Trial) : trial ∈ (List.replicate copies trials).flatten ↔ trial ∈ trials := by
    simp [List.mem_flatten, List.mem_replicate, pos.ne']
  refine maxKb_eq_of_mem_iff fun kb => ?_
  simp only [List.mem_map, mem]

theorem maxKb_append (xs ys : List Trial) :
    (empty.pushAll (xs ++ ys)).peak.maxKb =
      max (empty.pushAll xs).peak.maxKb (empty.pushAll ys).peak.maxKb := by
  have whole := isPeak_empty_pushAll (xs ++ ys)
  have parts := (isPeak_empty_pushAll xs).append (isPeak_empty_pushAll ys)
  rw [← List.map_append] at parts
  exact whole.isLUB.unique parts.isLUB

theorem trials_append (xs ys : List Trial) :
    (empty.pushAll (xs ++ ys)).trials = (empty.pushAll xs).trials + (empty.pushAll ys).trials := by
  rw [trials_empty_pushAll, trials_empty_pushAll, trials_empty_pushAll, List.length_append,
    UInt64.ofNat_add]

theorem maxKb_le_push (tally : Tally) (trial : Trial) :
    tally.peak.maxKb ≤ (tally.push trial).peak.maxKb := Nat.le_max_left _ _

end Tally

/-- A report carries the totals of its trials. -/
theorem totals_of_aggregate {trials : List Trial} {label : String} {report : Report}
    (success : aggregate trials label = .ok report) :
    trials ≠ [] ∧ report.maxKb = (Tally.empty.pushAll trials).peak.maxKb ∧
      report.runs = (Tally.empty.pushAll trials).trials.toNat := by
  obtain ⟨pos, peak, runs, -⟩ := Tally.totals_of_finish success
  refine ⟨?_, peak, runs⟩
  rintro rfl
  cases pos

/-- Two lists taken together have the greater of their peaks, and as many trials as both. -/
theorem aggregate_append {xs ys : List Trial} (few : (xs ++ ys).length < UInt64.size)
    {label label' : String} {report report' : Report}
    (success : aggregate xs label = .ok report) (success' : aggregate ys label' = .ok report')
    (whole : String) : ∃ both, aggregate (xs ++ ys) whole = .ok both ∧
      both.maxKb = max report.maxKb report'.maxKb ∧ both.runs = report.runs + report'.runs := by
  obtain ⟨nonempty, peak, -⟩ := totals_of_aggregate success
  obtain ⟨-, peak', -⟩ := totals_of_aggregate success'
  have together :=
    aggregate_of_ne_nil (List.append_ne_nil_of_left_ne_nil nonempty ys) few whole
  rw [List.length_append] at few
  have runs := runs_of_aggregate (by omega) success
  have runs' := runs_of_aggregate (by omega) success'
  refine ⟨_, together, ?_, ?_⟩
  · rw [Tally.maxKb_append, peak, peak']
  · rw [runs, runs', List.length_append]

end ColdBuild
