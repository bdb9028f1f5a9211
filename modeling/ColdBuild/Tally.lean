import ColdBuild.Report
import ColdBuild.Trial

/-!
# Tallies

A tally folds trials as they arrive and keeps three running totals: the sum of their times, in
order of arrival, their number and the peak of their readings. It gives a report as soon as it
holds a trial. Aggregating a list of trials is the same fold over the whole list. The number is a
machine word that starts again at zero when it runs over, so it counts lists shorter than 2⁶⁴.

A `TallyBook` is a tally with a second one kept aside; its operations are the ones a user of
tallies has.
-/

namespace ColdBuild

/-- Running totals over trials. -/
structure Tally where
  elapsedTotal : Binary64 := .zero
  trials : UInt64 := 0
  peak : PeakMemory := {}
  deriving DecidableEq, Repr

namespace Tally

def empty : Tally := {}

instance : Inhabited Tally := ⟨empty⟩

def push (tally : Tally) (trial : Trial) : Tally where
  elapsedTotal := tally.elapsedTotal + trial.elapsed
  trials := tally.trials + 1
  peak := (tally.peak.observe trial.peakKb).2

def pushAll (tally : Tally) (trials : List Trial) : Tally := trials.foldl push tally

/-- The report on the trials so far; there is none without a trial. -/
def finish (tally : Tally) (label : String) : Except Error Report :=
  let runs := tally.trials.toNat
  if runs = 0 then .error .noTrials
  else .ok {
    averageSeconds := tally.elapsedTotal / .ofNat runs
    maxKb := tally.peak.maxKb
    runs
    label }

@[simp] theorem trials_push (tally : Tally) (trial : Trial) :
    (tally.push trial).trials = tally.trials + 1 := rfl

theorem pushAll_cons (tally : Tally) (trial : Trial) (trials : List Trial) :
    tally.pushAll (trial :: trials) = (tally.push trial).pushAll trials := rfl

theorem trials_pushAll (tally : Tally) (trials : List Trial) :
    (tally.pushAll trials).trials = tally.trials + .ofNat trials.length := by
  induction trials generalizing tally with
  | nil => simp [pushAll]
  | cons trial rest ih =>
    rw [pushAll_cons, ih, trials_push, List.length_cons, UInt64.ofNat_add, UInt64.add_assoc,
      UInt64.add_comm 1]
    rfl

end Tally

/-- The report on a whole list of trials. -/
def aggregate (trials : List Trial) (label : String) : Except Error Report :=
  (Tally.empty.pushAll trials).finish label

/-- A tally, and the copy of one that was kept. -/
structure TallyBook where
  current : Tally := .empty
  kept : Tally := .empty
  deriving DecidableEq, Repr

namespace TallyBook

inductive Operation where
  | push (trial : Trial)
  | save
  | restore
  | finish (label : String)
  deriving DecidableEq, Repr

/-- Does one operation. Only `finish` has a result; an empty tally takes the finished one's
place, while the kept copy stays. -/
def step (book : TallyBook) : Operation → Option (Except Error Report) × TallyBook
  | .push trial => (none, { book with current := book.current.push trial })
  | .save => (none, { book with kept := book.current })
  | .restore => (none, { book with current := book.kept })
  | .finish label => (some (book.current.finish label), { book with current := .empty })

def trace (book : TallyBook) :
    List Operation → List (Option (Except Error Report) × TallyBook)
  | [] => []
  | operation :: rest =>
    let (result, next) := book.step operation
    (result, next) :: next.trace rest

end TallyBook

end ColdBuild
