import ColdBuild.Decimal.Reading
import ColdBuild.Text.Quoted

/-!
# JSON documents

A reader for any JSON document, independent of how this library writes its own. Members of an
object stay in their order, and a number stays the numeral it was written as, so nothing is lost
by reading and equal keys are not merged.

The fuel of the reader is the number of characters: every value takes at least one.
-/

namespace ColdBuild

/-- A value of a JSON document. -/
inductive Json where
  | null
  | boolean (value : Bool)
  | number (numeral : Numeral)
  | text (value : String)
  | array (items : List Json)
  | object (members : List (String × Json))
  deriving Repr

namespace Json

/-- The characters that may stand between the parts of a document. -/
def isSpace (c : Char) : Bool := c = ' ' || c = '\t' || c = '\n' || c = '\r'

def skipSpace (chars : List Char) : List Char := chars.dropWhile isSpace

mutual

/-- Reads a value that begins at once. -/
def value? : (fuel : Nat) → List Char → Option (Json × List Char)
  | 0, _ => none
  | fuel + 1, chars =>
    match chars with
    | 'n' :: 'u' :: 'l' :: 'l' :: rest => some (.null, rest)
    | 't' :: 'r' :: 'u' :: 'e' :: rest => some (.boolean true, rest)
    | 'f' :: 'a' :: 'l' :: 's' :: 'e' :: rest => some (.boolean false, rest)
    | '"' :: rest => do
      let (chars, rest) ← Quoted.read? rest
      return (.text (String.ofList chars), rest)
    | '[' :: rest =>
      match skipSpace rest with
      | ']' :: rest => some (.array [], rest)
      | rest => do
        let (items, rest) ← items? fuel rest
        return (.array items, rest)
    | '\x7b' :: rest =>
      match skipSpace rest with
      | '\x7d' :: rest => some (.object [], rest)
      | rest => do
        let (members, rest) ← members? fuel rest
        return (.object members, rest)
    | _ => do
      let (numeral, rest) ← Numeral.read? chars
      return (.number numeral, rest)

def items? : (fuel : Nat) → List Char → Option (List Json × List Char)
  | 0, _ => none
  | fuel + 1, chars => do
    let (item, rest) ← value? fuel chars
    match skipSpace rest with
    | ',' :: rest =>
      let (others, rest) ← items? fuel (skipSpace rest)
      return (item :: others, rest)
    | ']' :: rest => return ([item], rest)
    | _ => none

def members? : (fuel : Nat) → List Char → Option (List (String × Json) × List Char)
  | 0, _ => none
  | fuel + 1, chars => do
    let ('"' :: rest) := chars | none
    let (key, rest) ← Quoted.read? rest
    let (':' :: rest) := skipSpace rest | none
    let (value, rest) ← value? fuel (skipSpace rest)
    let member := (String.ofList key, value)
    match skipSpace rest with
    | ',' :: rest =>
      let (others, rest) ← members? fuel (skipSpace rest)
      return (member :: others, rest)
    | '\x7d' :: rest => return ([member], rest)
    | _ => none

end

def read? (text : String) : Option Json :=
  match value? (text.length + 1) (skipSpace text.toList) with
  | some (value, rest) => if rest.all isSpace then some value else none
  | none => none

end Json

end ColdBuild
