/-!
# Reading bytes as UTF-8

Paths are bytes and need not be well-formed text. To show one, each ill-formed part becomes one
replacement character, where a part is as long as it could still have been the beginning of a
character; everything well-formed is shown as it is.

The reader goes byte by byte. Between bytes it either stands between characters or remembers a
character that has begun: its bits so far, how many bytes it still needs, and the range the next
byte has to be in. That range excludes overlong forms, surrogates and values past `0x10FFFF`.
-/

namespace ColdBuild.Utf8

/-- The character shown for an ill-formed part. -/
def replacement : Char := '\uFFFD'

structure Begun where
  bits : Nat
  owed : Nat
  low : Nat := 0x80
  high : Nat := 0xBF
  deriving DecidableEq, Repr

/-- Reads a byte between characters: what is shown, and the character it begins. -/
def start (b : UInt8) : List Char × Option Begun :=
  let n := b.toNat
  if n < 0x80 then ([Char.ofNat n], none)
  else if n < 0xC2 then ([replacement], none)
  else if n < 0xE0 then ([], some ⟨n % 32, 1, 0x80, 0xBF⟩)
  else if n < 0xF0 then
    ([], some ⟨n % 16, 2, if n = 0xE0 then 0xA0 else 0x80, if n = 0xED then 0x9F else 0xBF⟩)
  else if n < 0xF5 then
    ([], some ⟨n % 8, 3, if n = 0xF0 then 0x90 else 0x80, if n = 0xF4 then 0x8F else 0xBF⟩)
  else ([replacement], none)

/-- Reads one byte. A byte that cannot continue the character ends an ill-formed part and is
read again from between characters. -/
def step : Option Begun → UInt8 → List Char × Option Begun
  | none, b => start b
  | some begun, b =>
    if begun.low ≤ b.toNat && b.toNat ≤ begun.high then
      let bits := begun.bits * 64 + b.toNat % 64
      if begun.owed ≤ 1 then ([Char.ofNat bits], none)
      else ([], some ⟨bits, begun.owed - 1, 0x80, 0xBF⟩)
    else
      let (shown, next) := start b
      (replacement :: shown, next)

/-- Reads bytes to the end; a character that is still incomplete there is an ill-formed part. -/
def decodeFrom : Option Begun → List UInt8 → List Char
  | none, [] => []
  | some _, [] => [replacement]
  | begun, b :: rest => (step begun b).1 ++ decodeFrom (step begun b).2 rest

/-- The text of bytes, ill-formed parts replaced. -/
def decode (bytes : List UInt8) : String := String.ofList (decodeFrom none bytes)

def encode (text : String) : List UInt8 := text.toUTF8.data.toList

end ColdBuild.Utf8
