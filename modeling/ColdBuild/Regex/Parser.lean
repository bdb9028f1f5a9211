import ColdBuild.Regex.Class

/-!
# Reading a pattern

The parts of a pattern are read one after another. A group that is still open is kept on a stack
with the parts before it, and so are the branches before a bar. A group that only sets flags is a
part of its own, which cannot be repeated.
-/

namespace ColdBuild.Regex

/-- What is still open around the parts that are being read. -/
inductive Frame where
  /-- A group, with the parts, last one first, before it, and where these begin. -/
  | group (before : List Tree) (start : Position) (opening : Extent) (items : List FlagItem)
      (captures : Bool) (ignoreBlanks : Bool)
  /-- The branches, last one first, before a bar, and where the first of them begins. -/
  | branches (start : Position) (before : List Tree)

structure Progress where
  cursor : Cursor
  frames : List Frame := []
  /-- Where the parts that are being read begin. -/
  start : Position := {}
  /-- The parts, last one first. -/
  parts : List Tree := []
  /-- The names of groups. -/
  names : List (List Char × Extent) := []

def Tree.ofParts (start stop : Position) (parts : List Tree) : Tree :=
  match parts.reverse with
  | [] => .empty
  | [part] => part
  | all => .concat ⟨start, stop⟩ all

def nestLimit : Nat := 250

namespace ClassTree

/-- The first part of a class, from outside to inside, that is nested too deeply. -/
def tooDeep? (depth : Nat) : ClassTree → Option Extent
  | .bracketed extent _ inside =>
    if nestLimit < depth then some extent else inside.tooDeep? (depth + 1)
  | .union extent parts =>
    if nestLimit < depth then some extent else tooDeepAmong? (depth + 1) parts
  | .operation extent _ left right =>
    if nestLimit < depth then some extent
    else (left.tooDeep? (depth + 1)).or (right.tooDeep? (depth + 1))
  | _ => none
where
  tooDeepAmong? (depth : Nat) : List ClassTree → Option Extent
    | [] => none
    | part :: rest => (part.tooDeep? depth).or (tooDeepAmong? depth rest)

end ClassTree

namespace Tree

/-- The first part of a pattern, from outside to inside, that is nested too deeply. -/
def tooDeep? (depth : Nat) : Tree → Option Extent
  | .bracketed extent _ inside =>
    if nestLimit < depth then some extent else inside.tooDeep? (depth + 1)
  | .repetition extent _ _ body | .group extent _ _ body =>
    if nestLimit < depth then some extent else body.tooDeep? (depth + 1)
  | .alternation extent parts | .concat extent parts =>
    if nestLimit < depth then some extent else tooDeepAmong? (depth + 1) parts
  | _ => none
where
  tooDeepAmong? (depth : Nat) : List Tree → Option Extent
    | [] => none
    | part :: rest => (part.tooDeep? depth).or (tooDeepAmong? depth rest)

end Tree

namespace Cursor

def flag? (c : Char) : Option Flag :=
  match c with
  | 'i' => some .caseInsensitive
  | 's' => some .dotMatchesLineEnd
  | 'm' => some .multiLine
  | 'U' => some .swapGreed
  | 'u' => some .unicode
  | 'R' => some .carriageReturn
  | 'x' => some .ignoreBlanks
  | _ => none

/-- Reads flags, last one first and each with its extent, up to what ends them. -/
def flagsFrom : (fuel : Nat) → List (FlagItem × Extent) → Cursor →
    Except Fault ((List (FlagItem × Extent)) × Cursor)
  | 0, _, cursor => fail .flagUnexpectedEnd cursor.position.extent
  | fuel + 1, found, cursor =>
    match cursor.rest with
    | [] => fail .flagUnexpectedEnd cursor.position.extent
    | c :: _ =>
      if c = ':' || c = ')' then
        match found with
        | (.negation, extent) :: _ => fail .flagDanglingNegation extent
        | _ => .ok (found, cursor)
      else
        let item := if c = '-' then some .negation else (flag? c).map .flag
        match item with
        | none => fail .flagUnrecognized cursor.here
        | some item =>
          match found.lookup item with
          | some earlier =>
            .error ⟨if item = .negation then .flagRepeatedNegation else .flagDuplicate,
              cursor.here, some earlier⟩
          | none => flagsFrom fuel ((item, cursor.here) :: found) cursor.bump

/-- A character that can stand in the name of a group; letters and digits of other scripts can. -/
def isNameChar (first : Bool) (c : Char) : Bool :=
  c = '_' || c.isAlpha || (0xAA ≤ c.toNat && !isBlank c) ||
    (!first && (c.isDigit || c = '.' || c = '[' || c = ']'))

/-- Reads the name of a group up to an angle bracket; the cursor stays at the bracket. -/
def nameFrom (start : Position) : (fuel : Nat) → (name : List Char) → Cursor → Except Fault (List Char × Cursor)
  | 0, _, cursor => fail .groupNameUnexpectedEnd cursor.position.extent
  | fuel + 1, name, cursor =>
    match cursor.rest with
    | [] => fail .groupNameUnexpectedEnd cursor.position.extent
    | c :: _ =>
      if c = '>' then .ok (name.reverse, cursor)
      else if isNameChar name.isEmpty c then nameFrom start fuel (c :: name) cursor.bump
      else fail .groupNameInvalid cursor.here

end Cursor

namespace Progress

def fail {α : Type} (kind : FaultKind) (extent : Extent) : Except Fault α :=
  .error ⟨kind, extent, none⟩

def add (progress : Progress) (part : Tree) (behind : Cursor) : Progress :=
  { progress with parts := part :: progress.parts, cursor := behind }

def openGroup (progress : Progress) (opening : Extent) (items : List FlagItem) (captures : Bool)
    (inside : Cursor) : Progress :=
  let before := progress.cursor.ignoreBlanks
  { progress with
    frames := .group progress.parts progress.start opening items captures before :: progress.frames
    parts := []
    start := inside.position
    cursor := { inside with ignoreBlanks := (flagState? .ignoreBlanks items).getD before } }

def group (progress : Progress) : Except Fault Progress := do
  let opening := progress.cursor.here
  let inside := progress.cursor.advance
  let lookAround := ["?=", "?!", "?<=", "?<!"].findSome? inside.after?
  match lookAround with
  | some behind => fail .lookAround ⟨opening.start, behind.position⟩
  | none =>
    match (inside.after? "?P<").or (inside.after? "?<") with
    | some named =>
      if named.atEnd then fail .groupNameUnexpectedEnd named.position.extent
      else
        let (name, closing) ← named.nameFrom named.position named.rest.length []
        let extent : Extent := ⟨named.position, closing.position⟩
        if name.isEmpty then fail .groupNameEmpty named.position.extent
        else match progress.names.lookup name with
          | some earlier => throw ⟨.groupNameDuplicate, extent, some earlier⟩
          | none =>
            return { progress with names := (name, extent) :: progress.names }.openGroup
              opening [] true closing.bump
    | none =>
      if !inside.isAt '?' then return progress.openGroup opening [] true inside
      else
        let flags := inside.bump
        if flags.atEnd then fail .groupUnclosed opening
        else
          let (found, closing) ← flags.flagsFrom (flags.rest.length + 1) []
          let items := (found.map Prod.fst).reverse
          if !closing.isAt ')' then return progress.openGroup opening items false closing.bump
          else if items.isEmpty then fail .repetitionMissing inside.position.extent
          else
            let ignoreBlanks := (flagState? .ignoreBlanks items).getD progress.cursor.ignoreBlanks
            return progress.add (.flags items) { closing.bump with ignoreBlanks }

/-- The parts that have been read, with the branches before them. -/
def branch (progress : Progress) (stop : Position) : Tree × List Frame :=
  let last := Tree.ofParts progress.start stop progress.parts
  match progress.frames with
  | .branches start before :: frames => (.alternation ⟨start, stop⟩ (last :: before).reverse, frames)
  | frames => (last, frames)

def closeGroup (progress : Progress) : Except Fault Progress := do
  let cursor := progress.cursor
  let (body, frames) := progress.branch cursor.position
  match frames with
  | .group before start opening items captures ignoreBlanks :: frames =>
    let behind := cursor.bump
    let whole := .group ⟨opening.start, behind.position⟩ items captures body
    return { progress with
      frames, start, parts := whole :: before, cursor := { behind with ignoreBlanks } }
  | _ => fail .groupUnopened cursor.here

def nextBranch (progress : Progress) : Progress :=
  let stop := progress.cursor.position
  let last := Tree.ofParts progress.start stop progress.parts
  let behind := progress.cursor.bump
  let frames := match progress.frames with
    | .branches start before :: frames => .branches start (last :: before) :: frames
    | frames => .branches progress.start [last] :: frames
  { progress with frames, parts := [], start := behind.position, cursor := behind }

def repeated (progress : Progress) : Except Fault (Tree × List Tree) :=
  match progress.parts with
  | [] | .flags _ :: _ | .empty :: _ => fail .repetitionMissing progress.cursor.position.extent
  | part :: parts => .ok (part, parts)

def addRepetition (progress : Progress) (part : Tree) (parts : List Tree) (least : Nat)
    (most : Option Nat) (behind : Cursor) : Progress :=
  let start := part.start?.getD progress.cursor.position
  { progress with
    parts := .repetition ⟨start, behind.position⟩ least most part :: parts, cursor := behind }

/-- Reads a repetition that one character stands for. -/
def repeatShort (progress : Progress) (least : Nat) (most : Option Nat) :
    Except Fault Progress := do
  let (part, parts) ← progress.repeated
  let behind := progress.cursor.bump
  let behind := if behind.isAt '?' then behind.bump else behind
  return progress.addRepetition part parts least most behind

/-- Reads a repetition with its counts in braces. -/
def repeatCounted (progress : Progress) : Except Fault Progress := do
  let (part, parts) ← progress.repeated
  let start := progress.cursor.position
  let unclosed (cursor : Cursor) : Except Fault (Nat × Option Nat × Cursor) :=
    fail .repetitionCountUnclosed ⟨start, cursor.position⟩
  let inside := progress.cursor.advance
  let (least, most, closing) ← (do
    if inside.atEnd then unclosed inside
    else
      let (least, behind) := inside.decimal
      if behind.atEnd then unclosed behind
      else if behind.isAt ',' then
        let second := behind.advance
        if second.atEnd then unclosed second
        else if second.isAt '\x7d' then return (← least, none, second)
        else
          let least ← least
          let (most, behind) := second.decimal
          return (least, some (← most), behind)
      else
        let least ← least
        return (least, some least, behind))
  if !closing.isAt '\x7d' then
    fail .repetitionCountUnclosed ⟨start, closing.position⟩
  else
    let behind := closing.advance
    let behind := if behind.isAt '?' then behind.bump else behind
    if most.any (· < least) then fail .repetitionCountInvalid ⟨start, behind.position⟩
    else return progress.addRepetition part parts least most behind

def single (progress : Progress) (c : Char) : Except Fault Progress := do
  let cursor := progress.cursor
  match c with
  | '\\' =>
    let (item, behind) ← cursor.escaped
    return progress.add (match item with
      | .literal l => .literal l
      | .perl extent kind negated => .perl extent kind negated
      | .property extent negated name hasValue => .property extent negated name hasValue
      | .assertion extent kind => .assertion extent kind) behind
  | '.' => return progress.add (.dot cursor.here) cursor.bump
  | '^' => return progress.add (.assertion cursor.here .startLine) cursor.bump
  | '$' => return progress.add (.assertion cursor.here .endLine) cursor.bump
  | c => return progress.add (.literal ⟨cursor.here, c, false⟩) cursor.bump

/-- The whole pattern, once its end has been reached. -/
def finish (progress : Progress) : Except Fault Tree :=
  let (tree, frames) := progress.branch progress.cursor.position
  match frames with
  | .group _ _ opening .. :: _ => fail .groupUnclosed opening
  | _ => .ok tree

def run : (fuel : Nat) → Progress → Except Fault Tree
  | 0, progress => progress.finish
  | fuel + 1, progress => do
    let progress := { progress with cursor := progress.cursor.skip }
    match progress.cursor.rest with
    | [] => progress.finish
    | '(' :: _ => run fuel (← progress.group)
    | ')' :: _ => run fuel (← progress.closeGroup)
    | '|' :: _ => run fuel progress.nextBranch
    | '[' :: _ =>
      let (tree, behind) ← progress.cursor.classTree
      run fuel (progress.add tree behind)
    | '?' :: _ => run fuel (← progress.repeatShort 0 (some 1))
    | '*' :: _ => run fuel (← progress.repeatShort 0 none)
    | '+' :: _ => run fuel (← progress.repeatShort 1 none)
    | '\x7b' :: _ => run fuel (← progress.repeatCounted)
    | c :: _ => run fuel (← progress.single c)

end Progress

def Tree.parse (pattern : String) : Except Fault Tree := do
  let tree ← Progress.run (pattern.length + 1) { cursor := { rest := pattern.toList } }
  match tree.tooDeep? 1 with
  | some extent => throw ⟨.nestLimitExceeded nestLimit, extent, none⟩
  | none => return tree

end ColdBuild.Regex
