import ColdBuild.Tally

/-!
# When there is a report

A tally gives a report exactly when it counts a trial, and then the report is made of its three
totals. A list shorter than the range of the counter is counted exactly, so there is a report on it
unless it is empty, and the number in the report is the length of the list.
-/
namespace ColdBuild

namespace Tally

theorem finish_of_eq_zero {tally : Tally} (none : tally.trials.toNat = 0) (label : String) :
    tally.finish label = .error .noTrials :=
  if_pos none

theorem finish_of_pos {tally : Tally} (pos : 0 < tally.trials.toNat) (label : String) :
    tally.finish label = .ok {
      averageSeconds := tally.elapsedTotal / .ofNat tally.trials.toNat
      maxKb := tally.peak.maxKb
      runs := tally.trials.toNat
      label } :=
  if_neg (Nat.ne_of_gt pos)

/-- A report carries the totals of its tally. -/
theorem totals_of_finish {tally : Tally} {label : String} {report : Report}
    (success : tally.finish label = .ok report) :
    0 < tally.trials.toNat ∧ report.maxKb = tally.peak.maxKb ∧
      report.runs = tally.trials.toNat ∧ report.label = label := by
  rcases Nat.eq_zero_or_pos tally.trials.toNat with none | pos
  · cases (finish_of_eq_zero none label).symm.trans success
  · rw [finish_of_pos pos] at success
    cases success
    exact ⟨pos, rfl, rfl, rfl⟩

theorem trials_empty_pushAll (trials : List Trial) :
    (empty.pushAll trials).trials = .ofNat trials.length := by
  rw [trials_pushAll]
  exact UInt64.zero_add _

theorem toNat_trials_pushAll {trials : List Trial} (few : trials.length < UInt64.size) :
    (empty.pushAll trials).trials.toNat = trials.length := by
  rw [trials_empty_pushAll, UInt64.toNat_ofNat_of_lt' few]

theorem elapsedTotal_pushAll (tally : Tally) (trials : List Trial) :
    (tally.pushAll trials).elapsedTotal =
      trials.foldl (fun sum trial => sum + trial.elapsed) tally.elapsedTotal := by
  induction trials generalizing tally with
  | nil => rfl
  | cons trial rest ih =>
    rw [pushAll_cons, ih]
    rfl

theorem maxKb_pushAll (tally : Tally) (trials : List Trial) :
    (tally.pushAll trials).peak.maxKb = (trials.map Trial.peakKb).foldl max tally.peak.maxKb := by
  induction trials generalizing tally with
  | nil => rfl
  | cons trial rest ih =>
    rw [pushAll_cons, ih]
    rfl

end Tally

theorem aggregate_of_ne_nil {trials : List Trial} (nonempty : trials ≠ [])
    (few : trials.length < UInt64.size) (label : String) :
    aggregate trials label = .ok {
      averageSeconds := (Tally.empty.pushAll trials).elapsedTotal / .ofNat trials.length
      maxKb := (Tally.empty.pushAll trials).peak.maxKb
      runs := trials.length
      label } := by
  have count := Tally.toNat_trials_pushAll few
  have pos : 0 < (Tally.empty.pushAll trials).trials.toNat := by
    rw [count]
    exact List.length_pos_iff.mpr nonempty
  rw [aggregate, Tally.finish_of_pos pos, count]

theorem label_of_aggregate {trials : List Trial} {label : String} {report : Report}
    (h : aggregate trials label = .ok report) : report.label = label :=
  (Tally.totals_of_finish h).2.2.2

theorem runs_of_aggregate {trials : List Trial} (few : trials.length < UInt64.size) {label : String}
    {report : Report} (h : aggregate trials label = .ok report) : report.runs = trials.length := by
  rw [(Tally.totals_of_finish h).2.2.1, Tally.toNat_trials_pushAll few]

end ColdBuild
