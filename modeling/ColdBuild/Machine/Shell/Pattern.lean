import ColdBuild.Machine.Process
import ColdBuild.Regex.Expression
import ColdBuild.Regex.Syntax

/-!
# Patterns

A pattern is matched against a whole text: a question mark is any character, a star any text, and
brackets hold characters of which one has to be there. A character that has been quoted stands
for itself.

As a path, a pattern stands for the existing paths that it matches, in order. A slash is matched
by itself only, and so is a dot that begins a name.
-/

namespace ColdBuild.Shell

open ColdBuild.Regex (Ranges AsciiClass)

/-- A character of an expanded word. -/
structure Glyph where
  char : Char
  quoted : Bool
  deriving DecidableEq, Repr

/-- What is to be matched next. -/
inductive PatternItem where
  | char (c : Char)
  | anyChar
  | anyText
  | oneOf (inverted : Bool) (ranges : Ranges)
  deriving DecidableEq, Repr

namespace Pattern

def plain (c : Char) : Glyph := ⟨c, false⟩

/-- Takes away backslashes that quote what comes behind them. -/
def unescaped : List Glyph → List Glyph
  | ⟨'\\', false⟩ :: next :: rest => ⟨next.char, true⟩ :: unescaped rest
  | glyph :: rest => glyph :: unescaped rest
  | [] => []

/-- A class of characters by its name between colons in brackets of its own. -/
def classOf? (glyphs : List Glyph) : Option (Ranges × List Glyph) :=
  match glyphs with
  | ⟨'[', false⟩ :: ⟨':', false⟩ :: rest => do
    let name := rest.takeWhile fun glyph => glyph.char ≠ ':'
    let behind := rest.drop name.length
    if behind.take 2 = [plain ':', plain ']'] then
      let kind ← AsciiClass.ofName? (String.ofList (name.map (·.char)))
      return (kind.ranges, behind.drop 2)
    else none
  | _ => none

/-- Reads what brackets hold, up to the closing one, which may stand first for itself. -/
def bracket (first : Bool) (fuel : Nat) (found : Ranges) (glyphs : List Glyph) :
    Option (Ranges × List Glyph) :=
  match fuel, glyphs with
  | 0, _ | _, [] => none
  | fuel + 1, glyph :: rest =>
    if glyph = plain ']' && !first then some (found, rest)
    else match classOf? glyphs, rest with
      | some (ranges, behind), _ => bracket false fuel (found ++ ranges) behind
      | none, ⟨'-', false⟩ :: last :: behind =>
        if last = plain ']' then bracket false fuel ((glyph.char.toNat, glyph.char.toNat) :: found) rest
        else bracket false fuel ((glyph.char.toNat, last.char.toNat) :: found) behind
      | none, _ => bracket false fuel ((glyph.char.toNat, glyph.char.toNat) :: found) rest

/-- Reads the items of a pattern without backslashes. -/
def itemsFrom : (fuel : Nat) → List Glyph → List PatternItem
  | 0, _ | _, [] => []
  | fuel + 1, ⟨c, quoted⟩ :: rest =>
    if quoted then .char c :: itemsFrom fuel rest
    else match c with
      | '*' => .anyText :: itemsFrom fuel rest
      | '?' => .anyChar :: itemsFrom fuel rest
      | '[' =>
        let inverted := rest.head? = some (plain '!')
        let inside := if inverted then rest.drop 1 else rest
        match bracket true (inside.length + 1) [] inside with
        | some (ranges, behind) => .oneOf inverted ranges :: itemsFrom fuel behind
        | none => .char c :: itemsFrom fuel rest
      | c => .char c :: itemsFrom fuel rest

def items (glyphs : List Glyph) : List PatternItem :=
  let glyphs := unescaped glyphs
  itemsFrom glyphs.length glyphs

/-- The items match a whole text. -/
def isMatch : List PatternItem → List Char → Bool
  | [], text => text.isEmpty
  | .char d :: rest, text =>
    match text with
    | [] => false
    | c :: text => c = d && isMatch rest text
  | .anyChar :: rest, text => !text.isEmpty && isMatch rest (text.drop 1)
  | .anyText :: rest, text =>
    (List.range (text.length + 1)).any fun n => isMatch rest (text.drop n)
  | .oneOf inverted ranges :: rest, text =>
    match text with
    | [] => false
    | c :: text => ranges.has c != inverted && isMatch rest text

/-- What is left of a text when what a pattern matches has been taken off at its front. -/
def withoutFront (longest : Bool) (pattern : List Glyph) (text : List Char) : List Char :=
  let items := items pattern
  let cuts := (List.range (text.length + 1)).filter fun n => isMatch items (text.take n)
  match if longest then cuts.getLast? else cuts.head? with
  | some n => text.drop n
  | none => text

/-- What is left of a text when what a pattern matches has been taken off at its end. -/
def withoutEnd (longest : Bool) (pattern : List Glyph) (text : List Char) : List Char :=
  let items := items pattern
  let cuts := (List.range (text.length + 1)).filter fun n => isMatch items (text.drop n)
  match if longest then cuts.head? else cuts.getLast? with
  | some n => text.take n
  | none => text

/-- The pattern is not only itself. -/
def isActive (glyphs : List Glyph) : Bool :=
  (items glyphs).any fun
    | .char _ => false
    | _ => true

def segments (glyphs : List Glyph) : List (List Glyph) :=
  glyphs.splitOnP fun glyph => glyph.char = '/'

/-- The names in a directory that a segment matches. -/
def namesIn (p : Process) (directory : String) (segment : List Glyph) : List String :=
  match p.find (if directory = "" then "." else directory) with
  | .error _ => []
  | .ok number =>
    match p.files.at? number with
    | some (.directory _ entries _) =>
      let items := items segment
      let hidden := (unescaped segment).head?.any (·.char = '.')
      let names := entries.map fun (name, _) => Octets.ofBytes name
      let names := if hidden then "." :: ".." :: names else names
      names.filter fun name =>
        (hidden || name.toList.head? ≠ some '.') && isMatch items name.toList
    | _ => []

/-- The paths that segments match behind the beginning of a path. -/
def expand (p : Process) (front : String) : List (List Glyph) → List String
  | [] => [front]
  | [last] =>
    if isActive last then (namesIn p front last).map (front ++ ·)
    else
      let path := front ++ String.ofList ((unescaped last).map (·.char))
      match p.find (if path = "" then "." else path) false with
      | .ok _ => [path]
      | .error _ => []
  | segment :: rest =>
    if isActive segment then
      let names := namesIn p front segment
      (names.filter fun name => (p.node? (front ++ name)).any Node.isDirectory).flatMap fun name =>
        expand p (front ++ name ++ "/") rest
    else expand p (front ++ String.ofList ((unescaped segment).map (·.char)) ++ "/") rest

/-- The existing paths that a pattern matches, in order. -/
def paths (p : Process) (glyphs : List Glyph) : List String :=
  (expand p "" (segments glyphs)).mergeSort fun a b => a ≤ b

end Pattern

end ColdBuild.Shell
