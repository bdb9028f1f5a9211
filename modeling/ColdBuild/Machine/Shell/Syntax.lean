/-!
# The language of build scripts

A word is a list of pieces, because expansion treats quoted and unquoted pieces differently. A
command is a tree; the text of a document that stands in a script behind a command is kept apart
from it, under a number.
-/

namespace ColdBuild.Shell

/-- What is made of a parameter's value. -/
inductive ParameterForm where
  | value
  | length
  /-- Another word in its place if it is not set, or if it is set or empty. -/
  | other (emptyToo : Bool)
  | assigned (emptyToo : Bool)
  | demanded (emptyToo : Bool)
  /-- Another word in its place if it is set. -/
  | replaced (emptyToo : Bool)
  | withoutFront (longest : Bool)
  | withoutEnd (longest : Bool)
  | malformed
  deriving DecidableEq

inductive Direction where
  | input
  | output
  /-- Over a file that may be there already, whatever the options say. -/
  | overwriting
  | append
  | both
  | duplicate
  /-- From the document with a number. -/
  | document (number : Nat)
  deriving DecidableEq

mutual

inductive Piece where
  | text (chars : List Char) (quoted : Bool)
  | parameter (name : String) (form : ParameterForm) (word : List Piece) (quoted : Bool)
  | substitution (body : Command) (quoted : Bool)
  | arithmetic (source : List Piece) (quoted : Bool)

inductive Redirection where
  | mk (descriptor : Nat) (direction : Direction) (target : List Piece)

/-- A command; some kinds know the line they begin in. -/
inductive Command where
  | skip
  | simple (line : Nat) (assignments : List (String × List Piece)) (words : List (List Piece))
      (redirections : List Redirection)
  | redirected (line : Nat) (body : Command) (redirections : List Redirection)
  | sequence (first second : Command)
  | background (body : Command)
  | both (first second : Command)
  | either (first second : Command)
  | negated (body : Command)
  | pipeline (commands : List Command)
  | subshell (line : Nat) (body : Command)
  | conditional (test yes no : Command)
  | loop (expected : Bool) (test body : Command)
  /-- Without items the loop goes through the arguments. -/
  | forEach (line : Nat) (name : String) (items : List (List Piece)) (body : Command)
  | choice (line : Nat) (subject : List Piece) (arms : List (List (List Piece) × Command))
  | definition (name : String) (line : Nat) (body : Command)

end

abbrev Word := List Piece

def Redirection.descriptor : Redirection → Nat
  | .mk descriptor _ _ => descriptor

def Redirection.direction : Redirection → Direction
  | .mk _ direction _ => direction

def Redirection.target : Redirection → Word
  | .mk _ _ target => target

/-- The word is one unquoted text. -/
def Word.bare? : Word → Option (List Char)
  | [.text chars false] => some chars
  | _ => none

def Command.isSkip : Command → Bool
  | .skip => true
  | _ => false

end ColdBuild.Shell
