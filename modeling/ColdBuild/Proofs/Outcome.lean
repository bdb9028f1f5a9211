/-!
# Steps that may fail

When a step is followed by another one, the whole succeeds exactly if both do. A proof takes such a
row of steps apart with `bind_ok_iff`, one success at a time.
-/

namespace ColdBuild

variable {ε α β : Type} {first : Except ε α}

theorem bind_ok_iff {next : α → Except ε β} {b : β} :
    (first >>= next) = .ok b ↔ ∃ a, first = .ok a ∧ next a = .ok b := by
  cases first <;> simp [bind, Except.bind]

theorem return_ok_iff {f : α → β} {b : β} :
    (do return f (← first)) = (.ok b : Except ε β) ↔ ∃ a, first = .ok a ∧ f a = b := by
  cases first <;> simp [bind, Except.bind, pure, Except.pure]

theorem return_error_iff {f : α → β} {fault : ε} :
    (do return f (← first)) = (.error fault : Except ε β) ↔ first = .error fault := by
  cases first <;> simp [bind, Except.bind, pure, Except.pure]

end ColdBuild
