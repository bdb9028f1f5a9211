import ColdBuild.Regex.Expression

/-!
# Longest matches and what their groups hold

Of the matches that begin at one place the longest is taken. What its groups hold is then found
by trying repetitions from the longest on, with the end of the whole match given. An expression
may also refer to what a group holds; where its matches can end is not known before, and the first
one that is found is taken.
-/

namespace ColdBuild.Regex

/-- An atom, or what a group holds. -/
inductive Symbol where
  | plain (atom : Atom)
  | back (group : Nat)
  deriving DecidableEq, Repr

/-- What groups hold: from which place to which. The whole match is group zero. -/
abbrev Captures := List (Nat × Nat × Nat)

namespace Captures

def group? (captures : Captures) (n : Nat) : Option (Nat × Nat) := captures.lookup n

def put (captures : Captures) (n first last : Nat) : Captures :=
  (n, first, last) :: captures.filter (·.1 ≠ n)

end Captures

/-- What is to follow a match of a part. -/
abbrev Next := Nat → Captures → Option Captures

namespace Expression

def plain? : Expression Symbol → Option (Expression Atom)
  | .empty => some .empty
  | .atom (.plain a) => some (.atom a)
  | .atom (.back _) => none
  | .concat first second => do return .concat (← first.plain?) (← second.plain?)
  | .either first second => do return .either (← first.plain?) (← second.plain?)
  | .times least most body => do return .times least most (← body.plain?)
  | .captured index body => do return .captured index (← body.plain?)

def groupCount : Expression Symbol → Nat
  | .empty | .atom _ => 0
  | .concat first second | .either first second => max (groupCount first) (groupCount second)
  | .times _ _ body => groupCount body
  | .captured n body => max n (groupCount body)

/-- Repeats a part from some place on, as often as that leads further. -/
def repeated (step : Nat → Captures → Next → Option Captures) (least : Nat) (most : Option Nat)
    (next : Next) : (fuel : Nat) → (done place : Nat) → Captures → Option Captures
  | 0, _, _, _ => none
  | fuel + 1, done, place, captures =>
    let further := if most.all (done < ·) then
        step place captures fun after captures =>
          if after = place && least ≤ done then none
          else repeated step least most next fuel (done + 1) after captures
      else none
    match further with
    | some found => some found
    | none => if least ≤ done then next place captures else none

/-- Matches an expression at a place, and goes on behind it. -/
def capture (text : Array Char) : Expression Symbol → Nat → Captures → Next → Option Captures
  | .empty, place, captures, next => next place captures
  | .atom (.plain (.within ranges)), place, captures, next =>
    match text[place]? with
    | some c => if ranges.has c then next (place + 1) captures else none
    | none => none
  | .atom (.plain (.place kind)), place, captures, next =>
    let before := if place = 0 then none else text[place - 1]?
    if kind.holds before text[place]? then next place captures else none
  | .atom (.back group), place, captures, next =>
    match captures.group? group with
    | none => none
    | some (first, last) =>
      let held := text.extract first last
      if text.extract place (place + held.size) = held then next (place + held.size) captures
      else none
  | .concat first second, place, captures, next =>
    first.capture text place captures fun place captures =>
      second.capture text place captures next
  | .either first second, place, captures, next =>
    match first.capture text place captures next with
    | some found => some found
    | none => second.capture text place captures next
  | .times least most body, place, captures, next =>
    repeated (body.capture text) least most next (text.size + least + 2) 0 place captures
  | .captured index body, place, captures, next =>
    body.capture text place captures fun after captures =>
      next after (captures.put index place after)

/-- The match that begins at a place, with its groups. -/
def matchAt (expression : Expression Symbol) (masks : Option (Expression Mask)) (text : Array Char)
    (place : Nat) : Option Captures :=
  let whole (last : Nat) (captures : Captures) : Captures := captures.put 0 place last
  match masks with
  | none => expression.capture text place [] fun last captures => some (whole last captures)
  | some masks =>
    let ends := masks.ends text.size (1 <<< place)
    if ends = 0 then none
    else
      let goal := Nat.log2 ends
      expression.capture text place [] fun last captures =>
        if last = goal then some (whole last captures) else none

/-- The first of the longest matches that begin at a place or behind it. -/
def findFrom (expression : Expression Symbol) (text : Array Char) (place : Nat) : Option Captures :=
  let masks := expression.plain?.map (Expression.on · text.toList)
  ((List.range (text.size + 1)).drop place).findSome? fun place =>
    expression.matchAt masks text place

def occursIn (expression : Expression Symbol) (text : String) : Bool :=
  match expression.plain? with
  | some plain => plain.isFoundIn text
  | none => (expression.findFrom text.toList.toArray 0).isSome

end Expression

end ColdBuild.Regex
