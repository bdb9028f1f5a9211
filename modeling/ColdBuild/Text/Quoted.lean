/-!
# Strings of a JSON document

Between two quotes, a quote, a backslash and each control character below U+0020 are escaped and
everything else stands for itself. The five control characters that have a short escape use it,
the others are written as four hexadecimal digits, in lower case.

Reading accepts every escape of the format: also the slash, any character by its code, and a
character past U+FFFF by the codes of its two surrogates. It refuses a control character that is
not escaped and a surrogate that stands alone. What is written is read back, whatever follows it.
-/

namespace ColdBuild.Quoted

/-- A control character by its code, which is below `0x20`. -/
def escapeCode (code : Nat) : List Char :=
  ['\\', 'u', '0', '0', Nat.digitChar (code / 16), Nat.digitChar (code % 16)]

def escape (c : Char) : List Char :=
  if c = '"' then ['\\', '"']
  else if c = '\\' then ['\\', '\\']
  else if c = '\n' then ['\\', 'n']
  else if c = '\r' then ['\\', 'r']
  else if c = '\t' then ['\\', 't']
  else if c = '\x08' then ['\\', 'b']
  else if c = '\x0c' then ['\\', 'f']
  else if c.toNat < 0x20 then escapeCode c.toNat
  else [c]

/-- The written form of a text, without its quotes. -/
def encode (text : List Char) : List Char := text.flatMap escape

def quote (text : String) : String := String.ofList ('"' :: encode text.toList ++ ['"'])

/-- The value of four hexadecimal digits. -/
def codeOf? (digits : List Char) : Option Nat := do
  let values ← digits.mapM fun c =>
    let value := if c.isDigit then c.toNat - '0'.toNat
      else if 'a' ≤ c ∧ c ≤ 'f' then c.toNat - 'a'.toNat + 10
      else if 'A' ≤ c ∧ c ≤ 'F' then c.toNat - 'A'.toNat + 10
      else 16
    if value < 16 then some value else none
  return values.foldl (fun code value => code * 16 + value) 0

/-- The character that one or two codes stand for, and whether the second belongs to it. -/
def charOf? (code : Nat) (next : Option Nat) : Option (Char × Bool) :=
  if code < 0xD800 ∨ 0xE000 ≤ code then some (Char.ofNat code, false)
  else
    next.bind fun low =>
      if code < 0xDC00 ∧ 0xDC00 ≤ low ∧ low < 0xE000 then
        some (Char.ofNat (0x10000 + (code - 0xD800) * 0x400 + (low - 0xDC00)), true)
      else none

def short? : Char → Option Char
  | '"' => some '"'
  | '\\' => some '\\'
  | '/' => some '/'
  | 'b' => some '\x08'
  | 'f' => some '\x0c'
  | 'n' => some '\n'
  | 'r' => some '\r'
  | 't' => some '\t'
  | _ => none

/-- Reads a written text up to the quote that ends it: the text, and what follows the quote. -/
def read? : List Char → Option (List Char × List Char)
  | [] => none
  | '"' :: rest => some ([], rest)
  | '\\' :: 'u' :: a :: b :: c :: d :: '\\' :: 'u' :: e :: f :: g :: h :: rest => do
    match ← charOf? (← codeOf? [a, b, c, d]) (codeOf? [e, f, g, h]) with
    | (char, true) => (read? rest).map fun (text, left) => (char :: text, left)
    | (char, false) =>
      (read? ('\\' :: 'u' :: e :: f :: g :: h :: rest)).map fun (text, left) => (char :: text, left)
  | '\\' :: 'u' :: a :: b :: c :: d :: rest => do
    let (char, _) ← charOf? (← codeOf? [a, b, c, d]) none
    (read? rest).map fun (text, left) => (char :: text, left)
  | '\\' :: c :: rest => do
    let char ← short? c
    (read? rest).map fun (text, left) => (char :: text, left)
  | c :: rest =>
    if c = '\\' ∨ c.toNat < 0x20 then none
    else (read? rest).map fun (text, left) => (c :: text, left)

theorem encode_cons (c : Char) (rest : List Char) :
    encode (c :: rest) = escape c ++ encode rest := rfl

end ColdBuild.Quoted
