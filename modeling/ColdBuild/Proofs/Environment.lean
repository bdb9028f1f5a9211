import ColdBuild.Session

/-!
# What the environment decides

A session depends on its environment through a few variables only (`Session.run_congr`). Nothing is
coloured where none of those that force it is set (`Environment.colour_of_unforced`).
-/
namespace ColdBuild

namespace Environment

/-- Two environments agree on all variables that a session looks up. -/
def Agree (first second : Environment) : Prop :=
  ∀ name ∈ names, first.lookup name = second.lookup name

section

variable {first second : Environment} (agree : first.Agree second)

include agree

theorem Agree.isSetNonzero {name : String} (listed : name ∈ names) :
    first.isSetNonzero name = second.isSetNonzero name := by
  simp only [Environment.isSetNonzero, agree name listed]

theorem Agree.inBuildService : first.inBuildService = second.inBuildService := by
  have services : (buildServices.any fun name => (first.lookup name).isSome) =
      buildServices.any fun name => (second.lookup name).isSome := by
    rw [Bool.eq_iff_iff, List.any_eq_true, List.any_eq_true]
    refine exists_congr fun name => and_congr_right fun mem => ?_
    rw [agree name (List.mem_append_right _ mem)]
  simp only [Environment.inBuildService, services, agree "CI" (by decide)]

theorem Agree.hasColourTerminal : first.hasColourTerminal = second.hasColourTerminal := by
  simp only [Environment.hasColourTerminal, agree "TERM" (by decide),
    agree "COLORTERM" (by decide), agree "TERM_PROGRAM" (by decide),
    agree.isSetNonzero (show "CLICOLOR" ∈ names by decide), agree.inBuildService]

theorem Agree.colour : first.colour = second.colour := by
  simp only [Environment.colour, colourForced, agree "FORCE_COLOR" (by decide),
    agree "TERM" (by decide), agree.isSetNonzero (show "CLICOLOR_FORCE" ∈ names by decide),
    agree.isSetNonzero (show "NO_COLOR" ∈ names by decide),
    agree.isSetNonzero (show "IGNORE_IS_TERMINAL" ∈ names by decide), agree.hasColourTerminal]

theorem Agree.messageColour : first.messageColour = second.messageColour := by
  have noColour := agree "NO_COLOR" (by decide)
  have force := agree "CLICOLOR_FORCE" (by decide)
  simp only [Environment.messageColour, isNonempty, noColour, force]

theorem Agree.logColour : first.logColour = second.logColour := by
  have style := agree "RUST_LOG_STYLE" (by decide)
  simp only [Environment.logColour, logStyle, style, agree.messageColour]

theorem Agree.logFilter (verbosity : Nat) :
    first.logFilter verbosity = second.logFilter verbosity := by
  have log := agree "RUST_LOG" (by decide)
  simp only [Environment.logFilter, log]

theorem Agree.tool : first.tool = second.tool := agree "MAKE" (by decide)

end

section

variable {environment : Environment}

/-- The output is no terminal, so by itself nothing that the program shows is coloured. -/
theorem colour_of_unforced (force : environment.lookup "FORCE_COLOR" = none)
    (cliForce : environment.lookup "CLICOLOR_FORCE" = none)
    (terminal : environment.lookup "IGNORE_IS_TERMINAL" = none) : environment.colour = false := by
  simp [colour, colourForced, isSetNonzero, force, cliForce, terminal]

/-- The same of what is said about the command line. -/
theorem messageColour_of_unforced (cliForce : environment.lookup "CLICOLOR_FORCE" = none) :
    environment.messageColour = false := by
  simp [messageColour, isNonempty, cliForce]

/-- The log is coloured where that has been asked for by name, or else as messages are. -/
theorem logColour_iff : environment.logColour = true ↔
    environment.lookup "RUST_LOG_STYLE" = some "always" ∨
      environment.lookup "RUST_LOG_STYLE" ≠ some "never" ∧ environment.messageColour = true := by
  by_cases always : environment.lookup "RUST_LOG_STYLE" = some "always"
  · simp [logColour, logStyle, always]
  · by_cases never : environment.lookup "RUST_LOG_STYLE" = some "never"
    · simp [logColour, logStyle, never]
    · have style : environment.logStyle = .automatic := by
        unfold logStyle
        split <;> trivial
      simp [logColour, style, always, never]

end

end Environment

/-- A session is the same in environments that agree on the variables that it looks up. -/
theorem Session.run_congr {σ : Type} {host : Host σ} {first second : Environment}
    (agree : first.Agree second) (arguments : List String) (world : σ) :
    run host first arguments world = run host second arguments world := by
  simp only [run, perform, agree.colour, agree.messageColour, agree.logColour, agree.logFilter,
    agree.tool]

end ColdBuild
