import ColdBuild.Regex.Expression
import ColdBuild.Regex.Parser

/-!
# What a pattern means

A pattern that has been read becomes an expression. Flags decide what its parts mean; they hold
to the end of the group they are set in. Without tables of Unicode properties most classes that
would need them cannot be had: they are faults, and so are parts that could match in the middle
of a character, which a pattern can ask for only by switching Unicode off.

An expression whose repetitions would take too much memory when they are written out is refused,
and so is one that asks for a boundary of Unicode words.
-/

namespace ColdBuild.Regex

structure Flags where
  caseInsensitive : Bool := false
  multiLine : Bool := false
  dotMatchesLineEnd : Bool := false
  unicode : Bool := true
  carriageReturn : Bool := false
  deriving DecidableEq, Repr

/-- The flags as a list of them changes them. -/
def Flags.set (flags : Flags) (items : List FlagItem) : Flags where
  caseInsensitive := (flagState? .caseInsensitive items).getD flags.caseInsensitive
  multiLine := (flagState? .multiLine items).getD flags.multiLine
  dotMatchesLineEnd := (flagState? .dotMatchesLineEnd items).getD flags.dotMatchesLineEnd
  unicode := (flagState? .unicode items).getD flags.unicode
  carriageReturn := (flagState? .carriageReturn items).getD flags.carriageReturn

/-- The greatest code: of a character, or of an octet where Unicode is switched off. -/
def Flags.lastCode (flags : Flags) : Nat := if flags.unicode then 0x10FFFF else 0xFF

/-- An atom of an expression, or a boundary of Unicode words. -/
inductive Meaning where
  | known (atom : Atom)
  | unicodeBoundary
  deriving DecidableEq, Repr

def fault {α : Type} (kind : FaultKind) (extent : Extent) : Except Fault α :=
  .error ⟨kind, extent, none⟩

def propertyFault {α : Type} (flags : Flags) (extent : Extent) (name : String)
    (hasValue : Bool) : Except Fault α :=
  let letters := name.toList.map Char.toLower
  let letters := if ['i', 's'].isPrefixOf letters then letters.drop 2 else letters
  let letters := letters.filter fun c => c ≠ ' ' && c ≠ '_' && c ≠ '-' && c.toNat < 0x80
  if !flags.unicode then fault .unicodeNotAllowed extent
  else if !hasValue && ["cf", "sc", "lc"].contains (String.ofList letters) then
    fault .propertyValueNotFound extent
  else fault .propertyNotFound extent

/-- The class with the flags and a negation applied to it. -/
def finishClass (flags : Flags) (extent : Extent) (negated : Bool) (ranges : Ranges) :
    Except Fault Ranges := do
  if flags.unicode then
    if flags.caseInsensitive && !ranges.isEmpty then fault .caseFoldingUnavailable extent
    else return if negated then ranges.complement flags.lastCode else ranges
  else
    let folded := if flags.caseInsensitive then ranges.foldAscii else ranges
    let whole := if negated then folded.complement flags.lastCode else folded
    if whole.any fun range => 0x7F < range.2 then fault .invalidUtf8 extent else return whole

def perlRanges (flags : Flags) (extent : Extent) (kind : AsciiClass) (negated : Bool) :
    Except Fault Ranges :=
  if flags.unicode then fault .perlClassNotFound extent
  else if negated then fault .invalidUtf8 extent
  else .ok kind.ranges

def classCode (flags : Flags) (l : Literal) : Except Fault Nat :=
  if flags.unicode || l.char.toNat ≤ 0x7F then .ok l.char.toNat
  else if l.isOctet then fault .invalidUtf8 l.extent
  else fault .unicodeNotAllowed l.extent

/-- The other case is wanted of a class that is joined with another one. -/
def foldSide (flags : Flags) (side : ClassTree) (ranges : Ranges) : Except Fault Ranges :=
  if !flags.caseInsensitive then .ok ranges
  else if !flags.unicode then .ok ranges.foldAscii
  else if ranges.isEmpty then .ok ranges
  else fault .caseFoldingUnavailable (side.extent?.getD ({} : Position).extent)

/-- The codes of the characters in a class. -/
def ClassTree.ranges (flags : Flags) : ClassTree → Except Fault Ranges
  | .empty => .ok []
  | .literal l => do
    let code ← classCode flags l
    return [(code, code)]
  | .range first last => do
    let first ← classCode flags first
    let last ← classCode flags last
    return [(first, last)]
  | .ascii extent kind negated => finishClass flags extent negated kind.ranges
  | .perl extent kind negated => perlRanges flags extent kind negated
  | .property extent _ name hasValue => propertyFault flags extent name hasValue
  | .bracketed extent negated inside => do
    finishClass flags extent negated (← inside.ranges flags)
  | .union _ parts => rangesOfAll flags parts
  | .operation _ kind left right => do
    let a ← left.ranges flags
    let b ← right.ranges flags
    let b ← foldSide flags right b
    let a ← foldSide flags left a
    return match kind with
      | .intersection => Ranges.intersection flags.lastCode a b
      | .difference => Ranges.difference flags.lastCode a b
      | .symmetricDifference => Ranges.symmetricDifference flags.lastCode a b
where
  rangesOfAll (flags : Flags) : List ClassTree → Except Fault Ranges
    | [] => .ok []
    | part :: rest => do
      let first ← part.ranges flags
      return first.union (← rangesOfAll flags rest)

def literalMeaning (flags : Flags) (l : Literal) : Except Fault (Expression Meaning) :=
  let code := l.char.toNat
  let exactly : Expression Meaning := .atom (.known (.within [(code, code)]))
  if flags.unicode then
    if flags.caseInsensitive then fault .caseFoldingUnavailable l.extent else .ok exactly
  else if l.isOctet && 0x7F < code then fault .invalidUtf8 l.extent
  else if flags.caseInsensitive then
    .ok (.atom (.known (.within (Ranges.foldAscii [(code, code)]))))
  else .ok exactly

def dotMeaning (flags : Flags) (extent : Extent) : Except Fault (Expression Meaning) :=
  if !flags.unicode then fault .invalidUtf8 extent
  else
    let left : Ranges := if flags.dotMatchesLineEnd then []
      else if flags.carriageReturn then [(0x0A, 0x0A), (0x0D, 0x0D)] else [(0x0A, 0x0A)]
    .ok (.atom (.known (.within (left.complement flags.lastCode))))

def assertionMeaning (flags : Flags) (kind : Assertion) : Expression Meaning :=
  let place (kind : PlaceKind) : Expression Meaning := .atom (.known (.place kind))
  let word (kind : PlaceKind) : Expression Meaning :=
    if flags.unicode then .atom .unicodeBoundary else place kind
  match kind with
  | .startText => place .start
  | .endText => place .stop
  | .startLine =>
    place (if !flags.multiLine then .start
      else if flags.carriageReturn then .lineStartOrReturn else .lineStart)
  | .endLine =>
    place (if !flags.multiLine then .stop
      else if flags.carriageReturn then .lineEndOrReturn else .lineEnd)
  | .wordBoundary => word .wordBoundary
  | .notWordBoundary => word .notWordBoundary
  | .wordStart => word .wordStart
  | .wordEnd => word .wordEnd
  | .wordStartHalf => word .wordStartHalf
  | .wordEndHalf => word .wordEndHalf

/-- What a pattern means, and the flags in force behind it. -/
def Tree.meaning (flags : Flags) : Tree → Except Fault (Expression Meaning × Flags)
  | .empty => .ok (.empty, flags)
  | .flags items => .ok (.empty, flags.set items)
  | .literal l => do return (← literalMeaning flags l, flags)
  | .dot extent => do return (← dotMeaning flags extent, flags)
  | .assertion _ kind => .ok (assertionMeaning flags kind, flags)
  | .perl extent kind negated => do
    return (.atom (.known (.within (← perlRanges flags extent kind negated))), flags)
  | .property extent _ name hasValue => propertyFault flags extent name hasValue
  | .bracketed extent negated inside => do
    let ranges ← finishClass flags extent negated (← inside.ranges flags)
    return (.atom (.known (.within ranges)), flags)
  | .repetition _ least most body => do
    let (body, flags) ← body.meaning flags
    return (.times least most body, flags)
  | .group _ items _ body => do
    let (body, _) ← body.meaning (flags.set items)
    return (body, flags)
  | .alternation _ branches => eitherOf flags branches
  | .concat _ parts => concatOf flags parts
where
  concatOf (flags : Flags) : List Tree → Except Fault (Expression Meaning × Flags)
    | [] => .ok (.empty, flags)
    | part :: rest => do
      let (first, flags) ← part.meaning flags
      let (second, flags) ← concatOf flags rest
      return (.concat first second, flags)
  eitherOf (flags : Flags) : List Tree → Except Fault (Expression Meaning × Flags)
    | [] => .ok (.empty, flags)
    | [last] => last.meaning flags
    | branch :: rest => do
      let (first, flags) ← branch.meaning flags
      let (second, flags) ← eitherOf flags rest
      return (.either first second, flags)

/-- The greatest size of a pattern whose repetitions are written out, in octets. -/
def sizeLimit : Nat := 10485760

namespace Expression

def takesNothing : Expression Meaning → Bool
  | .empty | .atom (.known (.place _)) | .atom .unicodeBoundary => true
  | .atom (.known (.within _)) => false
  | .concat first second => first.takesNothing && second.takesNothing
  | .either first second => first.takesNothing && second.takesNothing
  | .times _ most body => most = some 0 || body.takesNothing
  | .captured _ body => body.takesNothing

/-- The size of an expression whose repetitions are written out, in octets: 32 for a state and
eight for each way out of it, and more for characters of several octets. -/
def size : Expression Meaning → Nat
  | .empty => 0
  | .atom (.known (.within ranges)) =>
    let wide := (ranges.filter fun range => 0x7F < range.2).length
    32 + 8 * ranges.length + (if wide = 0 then 0 else 250 + 60 * wide)
  | .atom _ => 32
  | .concat first second => first.size + second.size
  | .either first second => first.size + second.size + 72
  | .times least most body =>
    let least := if body.takesNothing then min least 1 else least
    let most := if body.takesNothing then some (min (most.getD 1) 1) else most
    match most with
    | none => max least 1 * body.size + 40
    | some most => most * body.size + (most - least) * 40
  | .captured _ body => body.size + 64

/-- The expression with known atoms only. -/
def known? : Expression Meaning → Option (Expression Atom)
  | .empty => some .empty
  | .atom (.known known) => some (.atom known)
  | .atom .unicodeBoundary => none
  | .concat first second => do return .concat (← first.known?) (← second.known?)
  | .either first second => do return .either (← first.known?) (← second.known?)
  | .times least most body => do return .times least most (← body.known?)
  | .captured index body => do return .captured index (← body.known?)

end Expression

/-- Reads a pattern into an expression, or tells what is wrong with it. -/
def compile (pattern : String) : Except String (Expression Atom) :=
  match (do return (← (← Tree.parse pattern).meaning {}).1 : Except Fault (Expression Meaning)) with
  | .error fault => .error (fault.report pattern)
  | .ok meaning =>
    if sizeLimit < meaning.size then
      .error s!"Compiled regex exceeds size limit of {sizeLimit} bytes."
    else match meaning.known? with
      | some expression => .ok expression
      | none => .error "error building NFA"

end ColdBuild.Regex
