import ColdBuild.Binary64

/-!
# Trials and their peak memory

A trial is one clean build: how long the build took, and the memory reading taken after it. The
system only keeps a high-water mark over all children that have ended, so a reading says nothing
about its own trial alone, and the only figure kept over several readings is their maximum.
-/

namespace ColdBuild

/-- The measurement of one clean build. -/
structure Trial where
  elapsed : Binary64
  /-- The high-water mark over all ended children, in KB. -/
  peakKb : Nat
  deriving DecidableEq, Repr

/-- Trials are compared by the values measured: a time that is no number equals nothing. -/
def Trial.same (a b : Trial) : Bool := a.elapsed.equal b.elapsed && a.peakKb = b.peakKb

/-- Lists of trials of one length that are pairwise the same. -/
def Trial.sameList (a b : List Trial) : Bool :=
  a.length = b.length && (a.zip b).all fun (x, y) => x.same y

/-- The running maximum of memory readings, in KB; zero before the first. -/
structure PeakMemory where
  maxKb : Nat := 0
  deriving DecidableEq, Repr, Inhabited

namespace PeakMemory

/-- Takes one more reading into account and gives the maximum with it. -/
def observe (peak : PeakMemory) (readingKb : Nat) : Nat × PeakMemory :=
  let maxKb := max peak.maxKb readingKb
  (maxKb, { maxKb })

@[simp] theorem observe_fst (peak : PeakMemory) (readingKb : Nat) :
    (peak.observe readingKb).1 = max peak.maxKb readingKb := rfl

@[simp] theorem maxKb_observe (peak : PeakMemory) (readingKb : Nat) :
    (peak.observe readingKb).2.maxKb = max peak.maxKb readingKb := rfl

end PeakMemory

end ColdBuild
