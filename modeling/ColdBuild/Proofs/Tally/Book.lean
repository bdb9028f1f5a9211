import ColdBuild.Proofs.Tally.Aggregate
import Mathlib.Data.List.Forall2

/-!
# Tallies stand for lists

A tally forgets its trials and a tally book is sent back and forth between two tallies. The machine
that keeps the trials themselves, one list in use and one aside, does the same operations. Each step
of a book is that machine's step (`Ledger.step_book`), so after any operations a book shows what the
two lists say and a finished tally is the batch aggregate of its list (`Ledger.trace_shows`).
-/
namespace ColdBuild

namespace Tally

/-- Readings are not negative, so zero stands for none of them. -/
theorem maxKb_empty_pushAll (trials : List Trial) :
    (empty.pushAll trials).peak.maxKb = (trials.map Trial.peakKb).max?.getD 0 := by
  rw [maxKb_pushAll, List.foldl_max]
  exact Nat.zero_max _

theorem pushAll_concat (tally : Tally) (trials : List Trial) (trial : Trial) :
    tally.pushAll (trials ++ [trial]) = (tally.pushAll trials).push trial := by
  rw [pushAll, List.foldl_append]
  rfl

/-- What can be seen of a tally that stands for a list of trials. It is finished as the list is
aggregated. As long as the list is shorter than the range of the counter, the number is exact, and
the report is missing only where there is no trial. -/
structure Shows (tally : Tally) (trials : List Trial) : Prop where
  trials_eq : tally.trials = .ofNat trials.length
  maxKb_eq : tally.peak.maxKb = (trials.map Trial.peakKb).max?.getD 0
  finish_eq (label : String) : tally.finish label = aggregate trials label
  toNat_trials_eq (few : trials.length < UInt64.size) : tally.trials.toNat = trials.length
  report_eq (few : trials.length < UInt64.size) (label : String) : tally.finish label =
    if trials = [] then .error .noTrials
    else .ok {
      averageSeconds :=
        trials.foldl (fun sum trial => sum + trial.elapsed) .zero / .ofNat trials.length
      maxKb := (trials.map Trial.peakKb).max?.getD 0
      runs := trials.length
      label }

theorem shows_pushAll (trials : List Trial) : (empty.pushAll trials).Shows trials where
  trials_eq := trials_empty_pushAll trials
  maxKb_eq := maxKb_empty_pushAll trials
  finish_eq _ := rfl
  toNat_trials_eq few := toNat_trials_pushAll few
  report_eq few label := by
    split
    · next none =>
      rw [none]
      rfl
    · next some =>
      have report := aggregate_of_ne_nil some few label
      rw [elapsedTotal_pushAll, maxKb_empty_pushAll] at report
      exact report

end Tally

/-- There is no report exactly when there is no trial, and that is the only reason. -/
theorem aggregate_eq_error_iff {trials : List Trial} (few : trials.length < UInt64.size)
    {label : String} {error : Error} :
    aggregate trials label = .error error ↔ trials = [] ∧ error = .noTrials := by
  have report := (Tally.shows_pushAll trials).report_eq few label
  rw [aggregate, report]
  split
  · next none => simp [none, eq_comm]
  · next some => simp [some]

/-- The trials in use, and those of the copy that was kept. -/
structure Ledger where
  current : List Trial := []
  kept : List Trial := []

namespace Ledger

open TallyBook (Operation)

/-- Does one operation on lists. A finished list is aggregated as a whole. -/
def step (ledger : Ledger) : Operation → Option (Except Error Report) × Ledger
  | .push trial => (none, { ledger with current := ledger.current ++ [trial] })
  | .save => (none, { ledger with kept := ledger.current })
  | .restore => (none, { ledger with current := ledger.kept })
  | .finish label => (some (aggregate ledger.current label), { ledger with current := [] })

/-- Does operations one after another and gives the result and the lists after each. -/
def trace (ledger : Ledger) : List Operation → List (Option (Except Error Report) × Ledger)
  | [] => []
  | operation :: rest =>
    let (result, next) := ledger.step operation
    (result, next) :: next.trace rest

/-- The tally book that stands for two lists. -/
def book (ledger : Ledger) : TallyBook where
  current := Tally.empty.pushAll ledger.current
  kept := Tally.empty.pushAll ledger.kept

/-- A step on lists and a step of the book that stands for them have the same result, and the lists
and the book they lead to still belong together. -/
theorem step_book (ledger : Ledger) (operation : Operation) :
    ledger.book.step operation = ((ledger.step operation).1, (ledger.step operation).2.book) := by
  cases operation with
  | push trial =>
    rw [step, book, book, Tally.pushAll_concat]
    rfl
  | save => rfl
  | restore => rfl
  | finish label => rfl

theorem trace_book (ledger : Ledger) (operations : List Operation) :
    ledger.book.trace operations =
      (ledger.trace operations).map fun (result, next) => (result, next.book) := by
  induction operations generalizing ledger with
  | nil => rfl
  | cons operation rest ih =>
    rw [TallyBook.trace, step_book, trace, List.map_cons]
    exact congrArg _ (ih _)

/-- After any operations a book shows what two lists say. Each finish gives the aggregate of the
list in use, which fails only without a trial, and no other operation gives anything. The kept tally
stays what it was except where the one in use is saved. Counts are exact for lists shorter than the
range of a machine word. -/
theorem trace_shows (operations : List Operation) :
    List.Forall₂
        (fun expected shown => shown.1 = expected.1 ∧
          shown.2.current.Shows expected.2.current ∧ shown.2.kept.Shows expected.2.kept)
        (Ledger.trace {} operations) (TallyBook.trace {} operations) ∧
      (∀ trials : List Trial, trials.length < UInt64.size → ∀ label error,
        aggregate trials label = .error error ↔ trials = [] ∧ error = .noTrials) ∧
      ∀ (book : TallyBook) (operation : Operation),
        (book.step operation).2.kept = if operation = .save then book.current else book.kept := by
  refine ⟨?_, fun _ few _ _ => aggregate_eq_error_iff few, ?_⟩
  · have lists : TallyBook.trace {} operations = _ := trace_book {} operations
    rw [lists, List.forall₂_map_right_iff, List.forall₂_same]
    intro step _
    exact ⟨rfl, Tally.shows_pushAll step.2.current, Tally.shows_pushAll step.2.kept⟩
  · intro book operation
    cases operation <;> rfl

/-- A trial taken in after the book was saved is gone when the saved copy comes back. -/
def restoring : List Operation :=
  [.push ⟨.ofNat 2, 1000⟩, .save, .push ⟨.ofNat 5, 4000⟩, .restore, .finish "one"]

theorem trace_shows_restoring :
    [(⟨.ofNat 2, 1000⟩ : Trial)].length < UInt64.size ∧
      (TallyBook.trace {} restoring)[4]?.map Prod.fst = some (some (.ok {
        averageSeconds := .ofNat 2
        maxKb := 1000
        runs := 1
        label := "one" })) := by
  have few : [(⟨.ofNat 2, 1000⟩ : Trial)].length < UInt64.size := by decide
  obtain ⟨shows, -⟩ := trace_shows restoring
  obtain ⟨finished, -, kept⟩ := @List.Forall₂.get _ _ _ _ _ shows 4 (by decide) (by decide)
  have report := (kept.finish_eq "one").symm.trans (kept.report_eq few "one")
  have mean : (Binary64.zero + .ofNat 2) / .ofNat 1 = .ofNat 2 := by decide +kernel
  refine ⟨few, congrArg some (finished.trans (congrArg some (report.trans ?_)))⟩
  change Except.ok (⟨(.zero + .ofNat 2) / .ofNat 1, 1000, 1, "one"⟩ : Report) = _
  rw [mean]

end Ledger

end ColdBuild
