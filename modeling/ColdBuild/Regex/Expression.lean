/-!
# Regular expressions and where they match

An expression is built from atoms by sequence, choice and repetition. An atom takes up one
character of a class, or nothing at a place of some kind. Groups are numbered.

A text of `n` characters has `n + 1` places, and a set of places is a number: place `i` is in it
if bit `i` is set. An expression leads from a set of places to the set of places where a match
that began in one of them can end. So matching goes through all alternatives at once, and takes
no longer for expressions that could match in many ways.
-/

namespace ColdBuild.Regex

/-- Codes of characters: disjoint ranges in ascending order. -/
abbrev Ranges := List (Nat × Nat)

namespace Ranges

def has (ranges : Ranges) (c : Char) : Bool :=
  ranges.any fun (first, last) => first ≤ c.toNat && c.toNat ≤ last

/-- Joins a range with those behind it that overlap or touch it. They have to be in ascending
order of their beginnings. -/
def joinedFrom (first last : Nat) : Ranges → Ranges
  | [] => [(first, last)]
  | (next, end_) :: rest =>
    if next ≤ last + 1 then joinedFrom first (max last end_) rest
    else (first, last) :: joinedFrom next end_ rest

def joined : Ranges → Ranges
  | [] => []
  | (first, last) :: rest => joinedFrom first last rest

/-- Any ranges, put in order. -/
def ordered (ranges : Ranges) : Ranges :=
  joined (ranges.mergeSort fun a b => a.1 ≤ b.1)

def union (a b : Ranges) : Ranges := ordered (a ++ b)

/-- The codes from `first` to `last` that are in none of the ranges. -/
def complementFrom (first last : Nat) : Ranges → Ranges
  | [] => if first ≤ last then [(first, last)] else []
  | (a, b) :: rest =>
    (if first < a then [(first, a - 1)] else []) ++ complementFrom (b + 1) last rest

/-- The codes up to `last` that are in none of the ranges. -/
def complement (last : Nat) (ranges : Ranges) : Ranges := complementFrom 0 last ranges

def intersection (last : Nat) (a b : Ranges) : Ranges :=
  complement last (union (complement last a) (complement last b))

def difference (last : Nat) (a b : Ranges) : Ranges := intersection last a (complement last b)

def symmetricDifference (last : Nat) (a b : Ranges) : Ranges :=
  difference last (union a b) (intersection last a b)

/-- The codes from `low` to `high` that are in the ranges, each moved. -/
def moved (low high : Nat) (move : Nat → Nat) (ranges : Ranges) : Ranges :=
  ranges.filterMap fun (first, last) =>
    let first := max first low
    let last := min last high
    if first ≤ last then some (move first, move last) else none

/-- The ranges with the other case of every ASCII letter. -/
def foldAscii (ranges : Ranges) : Ranges :=
  ordered (ranges ++ moved 0x41 0x5A (· + 32) ranges ++ moved 0x61 0x7A (· - 32) ranges)

end Ranges

inductive PlaceKind where
  | start
  | stop
  | lineStart
  | lineEnd
  /-- A line may also begin behind a carriage return, or between it and a line feed it does not. -/
  | lineStartOrReturn
  | lineEndOrReturn
  | wordBoundary
  | notWordBoundary
  | wordStart
  | wordEnd
  | wordStartHalf
  | wordEndHalf
  deriving DecidableEq, Repr

/-- A character of a word of ASCII letters, digits and underscores. -/
def isWordChar (c : Char) : Bool := c.isAlphanum || c = '_'

def PlaceKind.holds (kind : PlaceKind) (before behind : Option Char) : Bool :=
  let left := before.any isWordChar
  let right := behind.any isWordChar
  match kind with
  | .start => before = none
  | .stop => behind = none
  | .lineStart => before = none || before = some '\n'
  | .lineEnd => behind = none || behind = some '\n'
  | .lineStartOrReturn =>
    before = none || before = some '\n' || (before = some '\r' && behind ≠ some '\n')
  | .lineEndOrReturn =>
    behind = none || behind = some '\r' || (behind = some '\n' && before ≠ some '\r')
  | .wordBoundary => left != right
  | .notWordBoundary => left == right
  | .wordStart => !left && right
  | .wordEnd => left && !right
  | .wordStartHalf => !left
  | .wordEndHalf => !right

inductive Atom where
  | within (ranges : Ranges)
  | place (kind : PlaceKind)
  deriving DecidableEq, Repr

inductive Expression (α : Type) where
  | empty
  | atom (a : α)
  | concat (first second : Expression α)
  | either (first second : Expression α)
  | times (least : Nat) (most : Option Nat) (body : Expression α)
  | captured (index : Nat) (body : Expression α)
  deriving DecidableEq, Repr

/-- The bits of a number, the least first. -/
def ofBits : List Bool → Nat
  | [] => 0
  | bit :: rest => 2 * ofBits rest + (if bit then 1 else 0)

/-- An atom on a text: the places where it can be used, and whether it takes up a character. -/
structure Mask where
  consumes : Bool
  places : Nat
  deriving DecidableEq, Repr

def Atom.mask (text : List Char) : Atom → Mask
  | .within ranges => ⟨true, ofBits (text.map ranges.has)⟩
  | .place kind =>
    let chars := text.map some
    ⟨false, ofBits (List.zipWith kind.holds (none :: chars) (chars ++ [none]))⟩

namespace Expression

def map {α β : Type} (f : α → β) : Expression α → Expression β
  | .empty => .empty
  | .atom a => .atom (f a)
  | .concat first second => .concat (first.map f) (second.map f)
  | .either first second => .either (first.map f) (second.map f)
  | .times least most body => .times least most (body.map f)
  | .captured index body => .captured index (body.map f)

/-- Takes a step so many times, or until it changes nothing any more. -/
def iterate (step : Nat → Nat) : (count : Nat) → (places : Nat) → Nat
  | 0, places => places
  | count + 1, places =>
    let next := step places
    if next = places then places else iterate step count next

/-- The places where a match can end that began in one of the given places. -/
def ends (length : Nat) : Expression Mask → Nat → Nat
  | .empty, places => places
  | .atom mask, places =>
    if mask.consumes then (places &&& mask.places) <<< 1 else places &&& mask.places
  | .concat first second, places => second.ends length (first.ends length places)
  | .either first second, places => first.ends length places ||| second.ends length places
  | .times least most body, places =>
    let further := match most with
      | none => length + 1
      | some most => most - least
    iterate (fun places => places ||| body.ends length places) further
      (iterate (body.ends length) least places)
  | .captured _ body, places => body.ends length places

def on (expression : Expression Atom) (text : List Char) : Expression Mask :=
  expression.map (Atom.mask text)

def isFoundIn (expression : Expression Atom) (text : String) : Bool :=
  let chars := text.toList
  (expression.on chars).ends chars.length (1 <<< (chars.length + 1) - 1) ≠ 0

end Expression

end ColdBuild.Regex
