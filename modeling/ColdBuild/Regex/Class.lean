import ColdBuild.Regex.Cursor

/-!
# Reading classes of characters

A class stands in brackets and holds characters, ranges, named classes and further classes, which
two-character operators join from left to right. What is still open is kept on a stack: a class
with the parts that have been read before it, or an operator with what stands on its left.
-/

namespace ColdBuild.Regex

/-- What is still open around a class that is being read. -/
inductive ClassFrame where
  /-- A class, with the parts, last one first, of the class around it. -/
  | opened (around : List ClassTree) (extent : Extent) (negated : Bool)
  | operation (kind : ClassOperation) (left : ClassTree)

def ClassTree.ofParts (parts : List ClassTree) : ClassTree :=
  match parts.reverse with
  | [] => .empty
  | [part] => part
  | all =>
    let extents := all.filterMap ClassTree.extent?
    match extents.head?, extents.getLast? with
    | some first, some last => .union ⟨first.start, last.stop⟩ all
    | _, _ => .union ({} : Position).extent all

/-- Joins a class with the operator that is waiting for it, if there is one. -/
def joinWaiting (right : ClassTree) : List ClassFrame → ClassTree × List ClassFrame
  | .operation kind left :: frames =>
    let extent : Extent := match left.extent?, right.extent? with
      | some a, some b => ⟨a.start, b.stop⟩
      | some a, none | none, some a => a
      | none, none => ({} : Position).extent
    (.operation extent kind left right, frames)
  | frames => (right, frames)

/-- What is wrong when a pattern ends inside a class: the innermost one is not closed. -/
def unclosed (frames : List ClassFrame) : Fault :=
  let extent := frames.findSome? fun
    | .opened _ extent _ => some extent
    | .operation .. => none
  ⟨.classUnclosed, extent.getD ({} : Position).extent, none⟩

namespace Cursor

/-- Reads the opening of a class: whether it is negated, and dashes or a bracket that stand at
its very beginning, last one first. -/
def classOpening (cursor : Cursor) : Except Fault ((Extent × Bool × List ClassTree) × Cursor) := do
  let start := cursor.position
  let open₁ := cursor.advance
  if open₁.atEnd then fail .classUnclosed ⟨start, open₁.position⟩
  else
    let negated := open₁.isAt '^'
    let open₂ := if negated then open₁.advance else open₁
    if open₂.atEnd then fail .classUnclosed ⟨start, open₂.position⟩
    else
      let rec dashes : (fuel : Nat) → List ClassTree → Cursor → Except Fault (List ClassTree × Cursor)
        | 0, found, cursor => .ok (found, cursor)
        | fuel + 1, found, cursor =>
          if cursor.isAt '-' then
            let behind := cursor.advance
            if behind.atEnd then fail .classUnclosed start.extent
            else dashes fuel (.literal ⟨cursor.here, '-', false⟩ :: found) behind
          else .ok (found, cursor)
      let (found, open₃) ← dashes open₂.rest.length [] open₂
      if found.isEmpty && open₃.isAt ']' then
        let behind := open₃.advance
        if behind.atEnd then fail .classUnclosed ⟨start, behind.position⟩
        else return ((⟨start, behind.position⟩, negated, [.literal ⟨open₃.here, ']', false⟩]), behind)
      else return ((⟨start, open₃.position⟩, negated, found), open₃)

def namedClass? (cursor : Cursor) : Option (ClassTree × Cursor) := do
  let inside ← cursor.after? "[:"
  let negated := inside.isAt '^'
  let named := if negated then inside.bump else inside
  let name := named.rest.takeWhile (· ≠ ':')
  let behind ← (named.bumpBy name.length).after? ":]"
  let kind ← AsciiClass.ofName? (String.ofList name)
  return (.ascii ⟨cursor.position, behind.position⟩ kind negated, behind)

/-- Reads one character of a class, or what a backslash begins. -/
def classItem (cursor : Cursor) : Except Fault (Escaped × Cursor) :=
  match cursor.rest with
  | '\\' :: _ => cursor.escaped
  | c :: _ => .ok (.literal ⟨cursor.here, c, false⟩, cursor.bump)
  | [] => fail .classUnclosed cursor.here

def classPart (item : Escaped) : Except Fault ClassTree :=
  match item with
  | .literal l => .ok (.literal l)
  | .perl extent kind negated => .ok (.perl extent kind negated)
  | .property extent negated name hasValue => .ok (.property extent negated name hasValue)
  | .assertion extent _ => .error ⟨.classEscapeInvalid, extent, none⟩

def rangeEnd (item : Escaped) : Except Fault Literal :=
  match item with
  | .literal l => .ok l
  | item => .error ⟨.classRangeLiteral, item.extent, none⟩

def classRange (frames : List ClassFrame) (cursor : Cursor) : Except Fault (ClassTree × Cursor) := do
  let (first, behind) ← cursor.classItem
  let dash := behind.skip
  if dash.atEnd then throw (unclosed frames)
  else if !dash.isAt '-' || dash.secondPart? = some ']' || dash.secondPart? = some '-' then
    return (← classPart first, dash)
  else
    let second := dash.advance
    if second.atEnd then throw (unclosed frames)
    else
      let (last, behind) ← second.classItem
      let extent : Extent := ⟨first.extent.start, last.extent.stop⟩
      let first ← rangeEnd first
      let last ← rangeEnd last
      if first.char ≤ last.char then return (.range first last, behind)
      else fail .classRangeInvalid extent

def classOperation? (cursor : Cursor) : Option ClassOperation :=
  match cursor.rest with
  | '&' :: '&' :: _ => some .intersection
  | '-' :: '-' :: _ => some .difference
  | '~' :: '~' :: _ => some .symmetricDifference
  | _ => none

def classFrom : (fuel : Nat) → List ClassFrame → List ClassTree → Cursor → Except Fault (Tree × Cursor)
  | 0, frames, _, _ => .error (unclosed frames)
  | fuel + 1, frames, parts, cursor => do
    let cursor := cursor.skip
    match cursor.rest, cursor.classOperation? with
    | [], _ => throw (unclosed frames)
    | '[' :: _, _ =>
      let named := if frames.isEmpty then none else cursor.namedClass?
      match named with
      | some (part, behind) => classFrom fuel frames (part :: parts) behind
      | none =>
        let ((extent, negated, inside), behind) ← cursor.classOpening
        classFrom fuel (.opened parts extent negated :: frames) inside behind
    | ']' :: _, _ =>
      let (inside, frames) := joinWaiting (.ofParts parts) frames
      let behind := cursor.bump
      match frames with
      | .opened around extent negated :: outer =>
        let extent : Extent := ⟨extent.start, behind.position⟩
        if outer.isEmpty then return (.bracketed extent negated inside, behind)
        else classFrom fuel outer (.bracketed extent negated inside :: around) behind
      | _ => throw (unclosed frames)
    | _, some kind =>
      let (left, frames) := joinWaiting (.ofParts parts) frames
      classFrom fuel (.operation kind left :: frames) [] (cursor.bumpBy 2)
    | _, none =>
      let (part, behind) ← cursor.classRange frames
      classFrom fuel frames (part :: parts) behind

/-- Reads a class; the cursor is at its opening bracket. -/
def classTree (cursor : Cursor) : Except Fault (Tree × Cursor) :=
  classFrom (cursor.rest.length + 1) [] [] cursor

end Cursor

end ColdBuild.Regex
