/-!
# Checksums

Short numbers that stand for a sequence of octets: a cyclic redundancy check, and digests that
take the octets in blocks and mix each block into a few words. The constants of the larger
digests are the fractional parts of roots of the first primes.
-/

namespace ColdBuild.Digest

/-! ## Words -/

def low (width n : Nat) : Nat := n % (1 <<< width)

def turnRight (width n count : Nat) : Nat := (n >>> count) ||| low width (n <<< (width - count))

def turnLeft (width n count : Nat) : Nat := turnRight width n (width - count)

def flipped (width n : Nat) : Nat := n ^^^ (1 <<< width) - 1

/-- The octets of a number, the lowest one first. -/
def octetsOf : (count : Nat) → Nat → List Nat
  | 0, _ => []
  | count + 1, n => n % 256 :: octetsOf count (n / 256)

/-- The number that octets stand for, the lowest one first. -/
def ofOctets (octets : List Nat) : Nat := octets.foldr (fun octet n => n * 256 + octet) 0

def pieces {α : Type} (size : Nat) : (fuel : Nat) → List α → List (List α)
  | 0, _ | _, [] => []
  | fuel + 1, items => items.take size :: pieces size fuel (items.drop size)

/-- How a digest lays out words in octets. -/
structure Layout where
  /-- Octets in a word. -/
  word : Nat
  /-- The lowest octet comes first. -/
  lowFirst : Bool := false

namespace Layout

def width (layout : Layout) : Nat := layout.word * 8

/-- A block has sixteen words. -/
def block (layout : Layout) : Nat := layout.word * 16

def ordered (layout : Layout) (octets : List Nat) : List Nat :=
  if layout.lowFirst then octets else octets.reverse

/-- The blocks of a text: behind it stand a mark, zeros and its length in bits. -/
def blocks (layout : Layout) (octets : List Nat) : List (Array Nat) :=
  let marked := octets ++ [0x80]
  let ending := layout.word * 2
  let missing := (layout.block * 2 - ending - marked.length % layout.block) % layout.block
  let whole := marked ++ List.replicate missing 0 ++
    layout.ordered (octetsOf ending (octets.length * 8))
  (pieces layout.block whole.length whole).map fun piece =>
    ((pieces layout.word 16 piece).map fun word => ofOctets (layout.ordered word)).toArray

def render (layout : Layout) (words : List Nat) : String :=
  String.ofList (words.flatMap fun word =>
    (layout.ordered (octetsOf layout.word word)).flatMap fun octet =>
      [Nat.digitChar (octet / 16), Nat.digitChar (octet % 16)])

end Layout

/-! ## Constants -/

/-- The greatest number below some power of two whose power is not above a number. -/
def rootOf (exponent n : Nat) : (bits : Nat) → (root : Nat := 0) → Nat
  | 0, root => root
  | bit + 1, root =>
    let next := root + (1 <<< bit)
    rootOf exponent n bit (if Nat.pow next exponent ≤ n then next else root)

def isPrime (n : Nat) : Bool := 2 ≤ n && (List.range n).all fun d => d < 2 || n % d ≠ 0

def primes : List Nat := (List.range 410).filter isPrime

/-- The beginning of the fractional part of a root of a prime. -/
def fraction (width exponent prime : Nat) : Nat :=
  low width (rootOf exponent (prime <<< (width * exponent)) (width + 6))

/-! ## Digests -/

/-- Eight words that blocks are mixed into, and how. -/
structure Mixer where
  layout : Layout
  start : List Nat
  constants : List Nat
  /-- How far words are turned. -/
  turns : List (List Nat)
  /-- How many words are shown. -/
  shown : Nat := 8

namespace Mixer

/-- A word turned to the right in three ways, or in two and moved. -/
def stirred (m : Mixer) (which : Nat) (moved : Bool) (x : Nat) : Nat :=
  let width := m.layout.width
  match m.turns.getD which [] with
  | [a, b, c] =>
    turnRight width x a ^^^ turnRight width x b ^^^ (if moved then x >>> c else turnRight width x c)
  | _ => x

/-- A block with further words made of it. -/
def schedule (m : Mixer) : (count : Nat) → Array Nat → Array Nat
  | 0, words => words
  | count + 1, words =>
    let earlier (back : Nat) : Nat := words.getD (words.size - back) 0
    schedule m count (words.push (low m.layout.width
      (m.stirred 3 true (earlier 2) + earlier 7 + m.stirred 2 true (earlier 15) + earlier 16)))

def mix (m : Mixer) (state : List Nat) (block : Array Nat) : List Nat :=
  let width := m.layout.width
  let words := m.schedule (m.constants.length - 16) block
  let after := (m.constants.zip words.toList).foldl (fun state (constant, word) =>
    match state with
    | [a, b, c, d, e, f, g, h] =>
      let chosen := (e &&& f) ^^^ (flipped width e &&& g)
      let first := h + m.stirred 1 false e + chosen + constant + word
      let second := m.stirred 0 false a + ((a &&& b) ^^^ (a &&& c) ^^^ (b &&& c))
      [low width (first + second), a, b, c, low width (d + first), e, f, g]
    | state => state) state
  state.zipWith (fun x y => low width (x + y)) after

def digest (m : Mixer) (octets : List Nat) : String :=
  m.layout.render (((m.layout.blocks octets).foldl m.mix m.start).take m.shown)

end Mixer

def turns32 : List (List Nat) := [[2, 13, 22], [6, 11, 25], [7, 18, 3], [17, 19, 10]]

def turns64 : List (List Nat) := [[28, 34, 39], [14, 18, 41], [1, 8, 7], [19, 61, 6]]

def constants32 : List Nat := (primes.take 64).map (fraction 32 3)

def constants64 : List Nat := primes.map (fraction 64 3)

def sha256 (octets : List Nat) : String :=
  Mixer.digest ⟨⟨4, false⟩, (primes.take 8).map (fraction 32 2), constants32, turns32, 8⟩ octets

def sha224 (octets : List Nat) : String :=
  let start := ((primes.drop 8).take 8).map fun prime => low 32 (fraction 64 2 prime)
  Mixer.digest ⟨⟨4, false⟩, start, constants32, turns32, 7⟩ octets

def sha512 (octets : List Nat) : String :=
  Mixer.digest ⟨⟨8, false⟩, (primes.take 8).map (fraction 64 2), constants64, turns64, 8⟩ octets

def sha384 (octets : List Nat) : String :=
  let start := ((primes.drop 8).take 8).map (fraction 64 2)
  Mixer.digest ⟨⟨8, false⟩, start, constants64, turns64, 6⟩ octets

/-- What a round of the smaller digests does with three words. -/
def blend (kind b c d : Nat) : Nat :=
  match kind with
  | 0 => (b &&& c) ||| (flipped 32 b &&& d)
  | 1 => b ^^^ c ^^^ d
  | 2 => (b &&& c) ||| (b &&& d) ||| (c &&& d)
  | _ => c ^^^ (b ||| flipped 32 d)

def start32 : List Nat := [0x67452301, 0xefcdab89, 0x98badcfe, 0x10325476]

def sha1 (octets : List Nat) : String :=
  let layout : Layout := ⟨4, false⟩
  let rec schedule : (count : Nat) → Array Nat → Array Nat
    | 0, words => words
    | count + 1, words =>
      let earlier (back : Nat) : Nat := words.getD (words.size - back) 0
      schedule count (words.push (turnLeft 32 (earlier 3 ^^^ earlier 8 ^^^ earlier 14 ^^^ earlier 16) 1))
  let mix (state : List Nat) (block : Array Nat) : List Nat :=
    let after := ((schedule 64 block).toList.zipIdx).foldl (fun state (word, i) =>
      let (kind, constant) := if i < 20 then (0, 0x5a827999) else if i < 40 then (1, 0x6ed9eba1)
        else if i < 60 then (2, 0x8f1bbcdc) else (1, 0xca62c1d6)
      match state with
      | [a, b, c, d, e] =>
        [low 32 (turnLeft 32 a 5 + blend kind b c d + e + constant + word), a, turnLeft 32 b 30, c, d]
      | state => state) state
    state.zipWith (fun x y => low 32 (x + y)) after
  layout.render ((layout.blocks octets).foldl mix (start32 ++ [0xc3d2e1f0]))

def md5Constants : List Nat :=
  [
    0xd76aa478, 0xe8c7b756, 0x242070db, 0xc1bdceee, 0xf57c0faf, 0x4787c62a, 0xa8304613, 0xfd469501,
    0x698098d8, 0x8b44f7af, 0xffff5bb1, 0x895cd7be, 0x6b901122, 0xfd987193, 0xa679438e, 0x49b40821,
    0xf61e2562, 0xc040b340, 0x265e5a51, 0xe9b6c7aa, 0xd62f105d, 0x02441453, 0xd8a1e681, 0xe7d3fbc8,
    0x21e1cde6, 0xc33707d6, 0xf4d50d87, 0x455a14ed, 0xa9e3e905, 0xfcefa3f8, 0x676f02d9, 0x8d2a4c8a,
    0xfffa3942, 0x8771f681, 0x6d9d6122, 0xfde5380c, 0xa4beea44, 0x4bdecfa9, 0xf6bb4b60, 0xbebfbc70,
    0x289b7ec6, 0xeaa127fa, 0xd4ef3085, 0x04881d05, 0xd9d4d039, 0xe6db99e5, 0x1fa27cf8, 0xc4ac5665,
    0xf4292244, 0x432aff97, 0xab9423a7, 0xfc93a039, 0x655b59c3, 0x8f0ccc92, 0xffeff47d, 0x85845dd1,
    0x6fa87e4f, 0xfe2ce6e0, 0xa3014314, 0x4e0811a1, 0xf7537e82, 0xbd3af235, 0x2ad7d2bb, 0xeb86d391]

def md5 (octets : List Nat) : String :=
  let layout : Layout := ⟨4, true⟩
  let turns : List (List Nat) := [[7, 12, 17, 22], [5, 9, 14, 20], [4, 11, 16, 23], [6, 10, 15, 21]]
  let mix (state : List Nat) (block : Array Nat) : List Nat :=
    let after := (md5Constants.zipIdx).foldl (fun state (constant, i) =>
      match state with
      | [a, b, c, d] =>
        let (mixed, place) := match i / 16 with
          | 0 => (blend 0 b c d, i)
          | 1 => (blend 0 d b c, (5 * i + 1) % 16)
          | 2 => (blend 1 b c d, (3 * i + 5) % 16)
          | _ => (blend 3 b c d, (7 * i) % 16)
        let turn := (turns.getD (i / 16) []).getD (i % 4) 0
        let sum := low 32 (a + mixed + constant + block.getD place 0)
        [d, low 32 (b + turnLeft 32 sum turn), b, c]
      | state => state) state
    state.zipWith (fun x y => low 32 (x + y)) after
  layout.render ((layout.blocks octets).foldl mix start32)

/-! ## Sums -/

/-- A remainder with one more octet. -/
def crcStep (remainder octet : Nat) : Nat :=
  (List.range 8).foldl (fun r _ =>
    if r &&& 0x80000000 ≠ 0 then low 32 (r <<< 1) ^^^ 0x04c11db7 else r <<< 1)
    (remainder ^^^ (octet <<< 24))

/-- The cyclic redundancy check of octets and of how many they are. -/
def crc (octets : List Nat) : Nat :=
  let count := octets.length
  let digits := 1 + Nat.log2 count / 8
  let length := if count = 0 then [] else octetsOf digits count
  flipped 32 ((octets ++ length).foldl crcStep 0)

/-- A sum that is turned before each octet. -/
def turningSum (octets : List Nat) : Nat :=
  octets.foldl (fun sum octet => low 16 (turnRight 16 sum 1 + octet)) 0

end ColdBuild.Digest
