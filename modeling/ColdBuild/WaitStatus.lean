/-!
# Wait statuses

How a child process ended, as the 32-bit word the kernel hands to its parent. A status means
success only when the whole word is zero. For reporting, the word is read as a normal exit, a
death by signal, a stop or a continuation; a word that is none of these is reported in decimal,
signed, and in hexadecimal, unsigned.
-/

namespace ColdBuild

structure WaitStatus where
  word : UInt32
  deriving DecidableEq, Repr

inductive Ending where
  | exited (code : Nat)
  | killed (signal : Nat) (coreDumped : Bool)
  | stopped (signal : Nat)
  | continued
  | unrecognised (word : UInt32)
  deriving DecidableEq, Repr

namespace WaitStatus

/-- The status of a normal exit; only the lowest byte of the exit code is kept. -/
def ofExitCode (code : Nat) : WaitStatus := ⟨UInt32.ofNat (code % 256 * 256)⟩

/-- The status of a death by signal without a core dump. -/
def ofSignal (signal : Nat) : WaitStatus := ⟨UInt32.ofNat (signal % 128)⟩

def success (status : WaitStatus) : Bool := status.word = 0

/-- Reads the word. The low seven bits are zero for an exit and 127 for a stop; anything else
there is the signal that ended the child. -/
def ending (status : WaitStatus) : Ending :=
  let w := status.word.toNat
  if w % 128 = 0 then .exited (w / 256 % 256)
  else if w % 128 ≠ 127 then .killed (w % 128) (w / 128 % 2 = 1)
  else if w % 256 = 127 then .stopped (w / 256 % 256)
  else if w = 0xFFFF then .continued
  else .unrecognised status.word

def signalNames : List String :=
  ["HUP", "INT", "QUIT", "ILL", "TRAP", "ABRT", "BUS", "FPE", "KILL", "USR1", "SEGV", "USR2",
    "PIPE", "ALRM", "TERM", "STKFLT", "CHLD", "CONT", "STOP", "TSTP", "TTIN", "TTOU", "URG",
    "XCPU", "XFSZ", "VTALRM", "PROF", "WINCH", "IO", "PWR", "SYS"]

/-- A signal's number, with its name when it has one. -/
def signalText (signal : Nat) : String :=
  match signal with
  | 0 => "0"
  | k + 1 =>
    match signalNames[k]? with
    | some name => s!"{signal} (SIG{name})"
    | none => s!"{signal}"

def message (status : WaitStatus) : String :=
  match status.ending with
  | .exited code => s!"exit status: {code}"
  | .killed signal coreDumped =>
    s!"signal: {signalText signal}" ++ if coreDumped then " (core dumped)" else ""
  | .stopped signal => s!"stopped (not terminated) by signal: {signalText signal}"
  | .continued => "continued (WIFCONTINUED)"
  | .unrecognised word =>
    s!"unrecognised wait status: {word.toInt32.toInt} 0x" ++
      String.ofList (Nat.toDigits 16 word.toNat)

theorem success_iff (status : WaitStatus) : status.success = true ↔ status.word = 0 := by
  simp [success]

end WaitStatus

end ColdBuild
