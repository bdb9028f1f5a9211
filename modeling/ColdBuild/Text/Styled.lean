/-!
# Styled text

Text for a terminal is a list of spans, some of them emphasised. Whether the emphasis is written,
as one escape sequence before and one after the span, or left out is decided when the text is
rendered; the spans themselves never depend on it. Taking the escape sequences out of a rendered
text again needs no knowledge of the spans.
-/

namespace ColdBuild

inductive Emphasis where
  | cyan
  | green
  | bold
  | dim
  | boldUnderlined
  | boldRed
  | yellow
  /-- The colours of a log; unlike those above they end by switching everything off. -/
  | logGreen
  | logBlue
  | logCyan
  | logGray
  deriving DecidableEq, Repr

namespace Emphasis

/-- The escape sequences that begin the emphasis. -/
def opening : Emphasis → String
  | .cyan | .logCyan => "\x1b[36m"
  | .green | .logGreen => "\x1b[32m"
  | .yellow => "\x1b[33m"
  | .logBlue => "\x1b[34m"
  | .logGray => "\x1b[90m"
  | .bold => "\x1b[1m"
  | .dim => "\x1b[2m"
  | .boldRed => "\x1b[1m\x1b[31m"
  | .boldUnderlined => "\x1b[1m\x1b[4m"

/-- The escape sequence that ends it: the default colour, or no attributes. -/
def closing : Emphasis → String
  | .cyan | .green => "\x1b[39m"
  | _ => "\x1b[0m"

end Emphasis

/-- A piece of text with one emphasis, or none. -/
structure Span where
  emphasis : Option Emphasis := none
  text : String
  deriving DecidableEq, Repr

namespace Span

def plain (text : String) : Span := ⟨none, text⟩
def emphasised (emphasis : Emphasis) (text : String) : Span := ⟨some emphasis, text⟩

def render (colour : Bool) (span : Span) : String :=
  match colour, span.emphasis with
  | true, some emphasis => emphasis.opening ++ span.text ++ emphasis.closing
  | _, _ => span.text

def renderAll (colour : Bool) (spans : List Span) : String :=
  String.join (spans.map (render colour))

/-- The text without what stands from an escape character to the next `m`. -/
def withoutEscapes (inside : Bool) : List Char → List Char
  | [] => []
  | c :: rest =>
    if inside then withoutEscapes (c ≠ 'm') rest
    else if c = '\x1b' then withoutEscapes true rest
    else c :: withoutEscapes false rest

/-- Without colour a span is its text. -/
@[simp] theorem render_false (span : Span) : span.render false = span.text := rfl

end Span

end ColdBuild
