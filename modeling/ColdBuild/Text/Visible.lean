import ColdBuild.Text.Styled
import ColdBuild.Text.Utf8

/-!
# Visible text

What is left of a text when it goes to something that is no terminal: the sequences that control
a terminal are taken out, and so are control characters that are no blanks. The text is read
octet by octet by a machine that knows whether it is inside a sequence, and of which kind.

A sequence begins with an escape character. A line feed, a tab, a form feed or a carriage return
inside one of the short kinds is shown, and so is what follows it. The long kinds, which carry
text of their own, swallow everything up to their end.
-/

namespace ColdBuild.Visible

inductive State where
  | ground
  /-- Inside a character of several octets, so many of which are still to come. -/
  | character (owed : Nat)
  | escape
  | escapeIntermediate
  | control
  | controlParameter
  | controlIntermediate
  | controlIgnored
  | device
  | deviceParameter
  | deviceIntermediate
  /-- A sequence with text of its own, up to the string terminator. -/
  | string
  /-- A command to the operating system, up to a bell. -/
  | command
  deriving DecidableEq, Repr

/-- The octet is shown although it is a control character. -/
def isShownControl (n : Nat) : Bool := n = 0x09 || n = 0x0A || n = 0x0C || n = 0x0D

/-- How many octets follow the first one of a character. -/
def owed? (n : Nat) : Option Nat :=
  if 0xC2 ≤ n && n ≤ 0xDF then some 1
  else if 0xE0 ≤ n && n ≤ 0xEF then some 2
  else if 0xF0 ≤ n && n ≤ 0xF4 then some 3
  else none

def next (state : State) (n : Nat) : State :=
  let intermediate := 0x20 ≤ n && n ≤ 0x2F
  let parameter := 0x30 ≤ n && n ≤ 0x3F
  let secondary := 0x3C ≤ n && n ≤ 0x3F
  let final := 0x40 ≤ n && n ≤ 0x7E
  if n = 0x18 || n = 0x1A then .ground
  else if n = 0x1B then .escape
  else match state with
    | .ground | .character _ => state
    | .escape =>
      if intermediate then .escapeIntermediate
      else if n = 0x50 then .device
      else if n = 0x58 || n = 0x5E || n = 0x5F then .string
      else if n = 0x5B then .control
      else if n = 0x5D then .command
      else if parameter || final then .ground
      else state
    | .escapeIntermediate => if parameter || final then .ground else state
    | .control =>
      if intermediate then .controlIntermediate
      else if parameter then .controlParameter
      else if final then .ground
      else state
    | .controlParameter =>
      if intermediate then .controlIntermediate
      else if secondary then .controlIgnored
      else if final then .ground
      else state
    | .controlIntermediate =>
      if parameter then .controlIgnored else if final then .ground else state
    | .controlIgnored => if final then .ground else state
    | .device =>
      if intermediate then .deviceIntermediate
      else if parameter then .deviceParameter
      else if final then .string
      else state
    | .deviceParameter =>
      if intermediate then .deviceIntermediate
      else if secondary || final then .string
      else state
    | .deviceIntermediate => if parameter || final then .string else state
    | .string => if n = 0x9C then .ground else state
    | .command => if n = 0x07 then .ground else state

/-- A blank control character is shown in this state. -/
def showsControls : State → Bool
  | .ground | .character _ | .escape | .escapeIntermediate | .control | .controlParameter
  | .controlIntermediate | .controlIgnored => true
  | .device | .deviceParameter | .deviceIntermediate | .string | .command => false

def isPlain (n : Nat) : Bool :=
  (0x20 ≤ n && n ≤ 0x7E) || isShownControl n || (owed? n).isSome

/-- The octets that are shown. While `showing` is set, the text is read as if it stood outside of
any sequence, up to the first octet that is not shown there. -/
def octets (state : State) (showing : Bool) : List UInt8 → List UInt8
  | [] => []
  | octet :: rest =>
    let n := octet.toNat
    match state with
    | .character owed =>
      octet :: octets (if owed ≤ 1 then .ground else .character (owed - 1)) true rest
    | _ =>
      let shown := if showing || state = .ground then isPlain n
        else isShownControl n && showsControls state
      if shown then
        octet :: octets (match owed? n with | some owed => .character owed | none => state) true rest
      else
        let left := if showing then next .ground n else state
        octets (next (if left = .ground then state else left) n) false rest

/-- The text as it is shown where there is no terminal. -/
def ofText (text : String) : String :=
  Utf8.decode (octets .ground false (Utf8.encode text))

end ColdBuild.Visible

namespace ColdBuild

/-- Spans as they are shown: with their emphasis and with every control sequence that their texts
hold, or without either. -/
def Span.showAll (colour : Bool) (spans : List Span) : String :=
  if colour then renderAll true spans else Visible.ofText (renderAll true spans)

end ColdBuild
