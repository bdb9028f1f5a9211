import ColdBuild.Regex.Fault

/-!
# Regular expressions as they are written

The tree of a pattern keeps the extent of each part, because what a part means may still be a
fault once the whole pattern has been read.
-/

namespace ColdBuild.Regex

/-- The letters that switch how a pattern is read or what it means. -/
inductive Flag where
  | caseInsensitive
  | multiLine
  | dotMatchesLineEnd
  | swapGreed
  | unicode
  | carriageReturn
  | ignoreBlanks
  deriving DecidableEq, Repr

/-- A part of a list of flags; what comes after the negation is switched off. -/
inductive FlagItem where
  | negation
  | flag (flag : Flag)
  deriving DecidableEq, Repr

/-- What a list of flags says about one of them, if anything. -/
def flagState? (flag : Flag) (items : List FlagItem) : Option Bool :=
  (items.foldl (fun (negated, found) item =>
    match item with
    | .negation => (true, found)
    | .flag f => (negated, if f = flag then some !negated else found))
    (false, (none : Option Bool))).2

/-- A condition on a place in a text that takes up nothing of it. -/
inductive Assertion where
  | startLine
  | endLine
  | startText
  | endText
  | wordBoundary
  | notWordBoundary
  | wordStart
  | wordEnd
  | wordStartHalf
  | wordEndHalf
  deriving DecidableEq, Repr

structure Literal where
  extent : Extent
  char : Char
  /-- It is written as two hexadecimal digits, and may stand for an octet. -/
  isOctet : Bool := false
  deriving DecidableEq, Repr

/-- The classes of ASCII characters that have a name. -/
inductive AsciiClass where
  | alnum
  | alpha
  | ascii
  | blank
  | cntrl
  | digit
  | graph
  | lower
  | print
  | punct
  | space
  | upper
  | word
  | xdigit
  deriving DecidableEq, Repr

namespace AsciiClass

def all : List (String × AsciiClass) :=
  [("alnum", .alnum), ("alpha", .alpha), ("ascii", .ascii), ("blank", .blank),
    ("cntrl", .cntrl), ("digit", .digit), ("graph", .graph), ("lower", .lower),
    ("print", .print), ("punct", .punct), ("space", .space), ("upper", .upper),
    ("word", .word), ("xdigit", .xdigit)]

def ofName? (name : String) : Option AsciiClass := all.lookup name

def ranges : AsciiClass → List (Nat × Nat)
  | .alnum => [(0x30, 0x39), (0x41, 0x5A), (0x61, 0x7A)]
  | .alpha => [(0x41, 0x5A), (0x61, 0x7A)]
  | .ascii => [(0x00, 0x7F)]
  | .blank => [(0x09, 0x09), (0x20, 0x20)]
  | .cntrl => [(0x00, 0x1F), (0x7F, 0x7F)]
  | .digit => [(0x30, 0x39)]
  | .graph => [(0x21, 0x7E)]
  | .lower => [(0x61, 0x7A)]
  | .print => [(0x20, 0x7E)]
  | .punct => [(0x21, 0x2F), (0x3A, 0x40), (0x5B, 0x60), (0x7B, 0x7E)]
  | .space => [(0x09, 0x0D), (0x20, 0x20)]
  | .upper => [(0x41, 0x5A)]
  | .word => [(0x30, 0x39), (0x41, 0x5A), (0x5F, 0x5F), (0x61, 0x7A)]
  | .xdigit => [(0x30, 0x39), (0x41, 0x46), (0x61, 0x66)]

end AsciiClass

inductive ClassOperation where
  | intersection
  | difference
  | symmetricDifference
  deriving DecidableEq, Repr

/-- A part that stands for one character and may also stand in a class. -/
inductive Escaped where
  | literal (char : Literal)
  | perl (extent : Extent) (kind : AsciiClass) (negated : Bool)
  | property (extent : Extent) (negated : Bool) (name : String) (hasValue : Bool)
  | assertion (extent : Extent) (kind : Assertion)
  deriving DecidableEq, Repr

def Escaped.extent : Escaped → Extent
  | .literal l => l.extent
  | .perl extent .. | .property extent .. | .assertion extent _ => extent

/-- What stands between the brackets of a class. -/
inductive ClassTree where
  | empty
  | literal (char : Literal)
  | range (first last : Literal)
  | ascii (extent : Extent) (kind : AsciiClass) (negated : Bool)
  | perl (extent : Extent) (kind : AsciiClass) (negated : Bool)
  | property (extent : Extent) (negated : Bool) (name : String) (hasValue : Bool)
  | bracketed (extent : Extent) (negated : Bool) (inside : ClassTree)
  /-- Several parts; `extent` is theirs in common. -/
  | union (extent : Extent) (parts : List ClassTree)
  | operation (extent : Extent) (kind : ClassOperation) (left right : ClassTree)

def ClassTree.extent? : ClassTree → Option Extent
  | .empty => none
  | .literal l => some l.extent
  | .range first last => some ⟨first.extent.start, last.extent.stop⟩
  | .ascii extent .. | .perl extent .. | .property extent .. | .bracketed extent ..
  | .union extent _ | .operation extent .. => some extent

inductive Tree where
  | empty
  | flags (items : List FlagItem)
  | literal (char : Literal)
  | dot (extent : Extent)
  | assertion (extent : Extent) (kind : Assertion)
  | perl (extent : Extent) (kind : AsciiClass) (negated : Bool)
  | property (extent : Extent) (negated : Bool) (name : String) (hasValue : Bool)
  | bracketed (extent : Extent) (negated : Bool) (inside : ClassTree)
  | repetition (extent : Extent) (least : Nat) (most : Option Nat) (body : Tree)
  | group (extent : Extent) (items : List FlagItem) (captures : Bool) (body : Tree)
  | alternation (extent : Extent) (branches : List Tree)
  | concat (extent : Extent) (parts : List Tree)

/-- Where a part begins; the empty part is nowhere. -/
def Tree.start? : Tree → Option Position
  | .empty | .flags _ => none
  | .literal l => some l.extent.start
  | .dot extent | .assertion extent _ | .perl extent .. | .property extent ..
  | .bracketed extent .. | .repetition extent .. | .group extent .. | .alternation extent _
  | .concat extent _ => some extent.start

end ColdBuild.Regex
