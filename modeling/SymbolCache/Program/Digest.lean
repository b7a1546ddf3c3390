import SymbolCache.Text.Lossy

/-!
# Digests

What digests have in common: content is filled up to whole blocks, each block changes some
registers, and their bytes are the digest, which is written in hexadecimal digits. Some digests take
their constants from the roots of primes.
-/

set_option autoImplicit false

namespace SymbolCache.Program.Digest

/-! ## Words -/

def number (content : List UInt8) : Nat :=
  content.foldl (fun value byte => 256 * value + byte.toNat) 0

def bytesOf (count value : Nat) : List UInt8 :=
  (List.range count).reverse.map fun place => (value / Nat.pow 256 place).toUInt8

/-- Cuts content into blocks of a size. It is fuelled by the length of the content. -/
def cut (size : Nat) : Nat → List UInt8 → List (List UInt8)
  | 0, _ | _ + 1, [] => []
  | fuel + 1, content => content.take size :: cut size fuel (content.drop size)

/-- The words of a block, of some bytes each. With `lowFirst` the lowest byte of a word comes
first. -/
def words (width : Nat) (lowFirst : Bool) (block : List UInt8) : List (BitVec width) :=
  (cut (width / 8) block.length block).map fun word =>
    BitVec.ofNat width (number (if lowFirst then word.reverse else word))

def wordBytes {width : Nat} (lowFirst : Bool) (words : List (BitVec width)) : List UInt8 :=
  words.flatMap fun word =>
    let content := bytesOf (width / 8) word.toNat
    if lowFirst then content.reverse else content

/-! ## Blocks -/

/-- The blocks of content that is filled up: a bit that is set and bits that are not follow it, and
then the number of its bits. -/
def blocks (size lengthSize : Nat) (lowFirst : Bool) (content : List UInt8) :
    List (List UInt8) :=
  let used := (content.length + 1 + lengthSize) % size
  let zeros := if used = 0 then 0 else size - used
  let length := bytesOf lengthSize (8 * content.length)
  let filled := content ++ 0x80 :: List.replicate zeros 0 ++
    (if lowFirst then length.reverse else length)
  cut size filled.length filled

def hexadecimal (content : List UInt8) : String :=
  String.ofList (content.flatMap fun byte =>
    [Nat.digitChar (byte.toNat / 16), Nat.digitChar (byte.toNat % 16)])

example : hexadecimal (bytesOf 2 1023) = "03ff" := by decide +kernel

example : (blocks 4 1 false [1, 2]).flatten = [1, 2, 0x80, 16] := by decide +kernel

/-! ## Roots -/

/-- Some primes, from the first one on. It is fuelled: `fuel` numbers are tried from `next` on. -/
def primesFrom : Nat → Nat → List Nat
  | 0, _ => []
  | fuel + 1, next =>
    let isPrime := (List.range next).all fun divisor => divisor < 2 || next % divisor ≠ 0
    if isPrime then next :: primesFrom fuel (next + 1) else primesFrom fuel (next + 1)

def primes (count : Nat) : List Nat :=
  (primesFrom 410 2).take count

/-- The largest number of some bits, above those that are known, of which a power is not more than a
value. -/
def rootFrom (degree value known : Nat) : Nat → Nat
  | 0 => known
  | bits + 1 =>
    let larger := known + Nat.pow 2 bits
    rootFrom degree value (if Nat.pow larger degree ≤ value then larger else known) bits

/-- The first bits after the point of a root of a number that is less than a thousand. -/
def rootBits (degree width value : Nat) : BitVec width :=
  BitVec.ofNat width (rootFrom degree (value * Nat.pow 2 (degree * width)) 0 (width + 5))

example : rootBits 2 32 2 = 0x6a09e667 := by decide +kernel

/-!
## Check sums

Numbers that change with content: the remainder of a division of polynomials, and two sums of bytes.
-/

namespace Check

def shiftBit (remainder : UInt32) : UInt32 :=
  if remainder < 0x80000000 then remainder <<< 1 else (remainder <<< 1) ^^^ 0x04C11DB7

def shiftByte (remainder : UInt32) (byte : UInt8) : UInt32 :=
  (List.range 8).foldl (fun remainder _ => shiftBit remainder)
    (remainder ^^^ (byte.toUInt32 <<< 24))

/-- The bytes of a number without zeros above, the lowest one first. It is fuelled by the number. -/
def lengthBytes : Nat → Nat → List UInt8
  | 0, _ | _ + 1, 0 => []
  | fuel + 1, length => length.toUInt8 :: lengthBytes fuel (length / 256)

/-- The remainder of content and its length by a polynomial, with all bits changed. -/
def remainder (content : List UInt8) : Nat :=
  let all := content ++ lengthBytes content.length content.length
  (~~~all.foldl shiftByte 0).toNat

def turningSum (content : List UInt8) : Nat :=
  content.foldl
    (fun sum byte => (sum / 2 + sum % 2 * 0x8000 + byte.toNat) % 0x10000) 0

def plainSum (content : List UInt8) : Nat :=
  let sum := content.foldl (fun sum byte => sum + byte.toNat) 0 % 0x100000000
  let folded := sum % 0x10000 + sum / 0x10000
  folded % 0x10000 + folded / 0x10000

example :
    remainder [0x61] = 1220704766 ∧ turningSum [0x61, 0x0A] = 32826 ∧ plainSum [0x61] = 97 := by
  decide +kernel

end Check

/-!
## The message digest

The digest MD5: four registers of 32 bits, which every block of sixteen words changes in four rounds
of sixteen steps.
-/

namespace Message

structure Registers where
  a : BitVec 32 := 0x67452301
  b : BitVec 32 := 0xefcdab89
  c : BitVec 32 := 0x98badcfe
  d : BitVec 32 := 0x10325476
  deriving Repr, DecidableEq

/-- The constants of the steps: the first bits after the point of the sines of natural numbers,
without their signs. -/
def constants : List (BitVec 32) :=
  [0xd76aa478, 0xe8c7b756, 0x242070db, 0xc1bdceee, 0xf57c0faf, 0x4787c62a, 0xa8304613,
    0xfd469501, 0x698098d8, 0x8b44f7af, 0xffff5bb1, 0x895cd7be, 0x6b901122, 0xfd987193,
    0xa679438e, 0x49b40821, 0xf61e2562, 0xc040b340, 0x265e5a51, 0xe9b6c7aa, 0xd62f105d,
    0x02441453, 0xd8a1e681, 0xe7d3fbc8, 0x21e1cde6, 0xc33707d6, 0xf4d50d87, 0x455a14ed,
    0xa9e3e905, 0xfcefa3f8, 0x676f02d9, 0x8d2a4c8a, 0xfffa3942, 0x8771f681, 0x6d9d6122,
    0xfde5380c, 0xa4beea44, 0x4bdecfa9, 0xf6bb4b60, 0xbebfbc70, 0x289b7ec6, 0xeaa127fa,
    0xd4ef3085, 0x04881d05, 0xd9d4d039, 0xe6db99e5, 0x1fa27cf8, 0xc4ac5665, 0xf4292244,
    0x432aff97, 0xab9423a7, 0xfc93a039, 0x655b59c3, 0x8f0ccc92, 0xffeff47d, 0x85845dd1,
    0x6fa87e4f, 0xfe2ce6e0, 0xa3014314, 0x4e0811a1, 0xf7537e82, 0xbd3af235, 0x2ad7d2bb,
    0xeb86d391]

def turn (step : Nat) : Nat :=
  let turns : List Nat := match step / 16 with
    | 0 => [7, 12, 17, 22]
    | 1 => [5, 9, 14, 20]
    | 2 => [4, 11, 16, 23]
    | _ => [6, 10, 15, 21]
  turns[step % 4]?.getD 0

def place (step : Nat) : Nat :=
  match step / 16 with
  | 0 => step
  | 1 => (5 * step + 1) % 16
  | 2 => (3 * step + 5) % 16
  | _ => 7 * step % 16

def step (words : Array (BitVec 32)) (registers : Registers) (constant : BitVec 32)
    (number : Nat) : Registers :=
  let { a, b, c, d } := registers
  let mixed := match number / 16 with
    | 0 => (b &&& c) ||| (~~~b &&& d)
    | 1 => (d &&& b) ||| (~~~d &&& c)
    | 2 => b ^^^ c ^^^ d
    | _ => c ^^^ (b ||| ~~~d)
  let sum := a + mixed + constant + words[place number]?.getD 0
  { a := d, b := b + sum.rotateLeft (turn number), c := b, d := c }

def absorb (registers : Registers) (block : List UInt8) : Registers :=
  let words := (words 32 true block).toArray
  let after := constants.zipIdx.foldl
    (fun registers (constant, number) => step words registers constant number) registers
  { a := registers.a + after.a
    b := registers.b + after.b
    c := registers.c + after.c
    d := registers.d + after.d }

def md5 (content : List UInt8) : List UInt8 :=
  let { a, b, c, d } := (blocks 64 8 true content).foldl absorb {}
  wordBytes true [a, b, c, d]

end Message

/-!
## The secure digests

The digests SHA-1 and SHA-2. Their steps use words of a window that moves along: it starts with the
sixteen words of a block, and every step adds a word that is made of those in the window.
-/

namespace Secure

/-! ### The first one -/

structure Registers where
  a : BitVec 32 := 0x67452301
  b : BitVec 32 := 0xefcdab89
  c : BitVec 32 := 0x98badcfe
  d : BitVec 32 := 0x10325476
  e : BitVec 32 := 0xc3d2e1f0
  deriving Repr, DecidableEq

def step (registers : Registers) (window : Array (BitVec 32)) (number : Nat) : Registers :=
  let { a, b, c, d, e } := registers
  let (mixed, constant) : BitVec 32 × BitVec 32 := match number / 20 with
    | 0 => ((b &&& c) ||| (~~~b &&& d), 0x5a827999)
    | 1 => (b ^^^ c ^^^ d, 0x6ed9eba1)
    | 2 => ((b &&& c) ||| (b &&& d) ||| (c &&& d), 0x8f1bbcdc)
    | _ => (b ^^^ c ^^^ d, 0xca62c1d6)
  { a := a.rotateLeft 5 + mixed + e + constant + window[0]?.getD 0
    b := a
    c := b.rotateLeft 30
    d := c
    e := d }

def move {width : Nat} (window : Array (BitVec width)) (next : BitVec width) :
    Array (BitVec width) :=
  (window.extract 1 window.size).push next

def nextWord (window : Array (BitVec 32)) : BitVec 32 :=
  let word (place : Nat) : BitVec 32 := window[place]?.getD 0
  (word 13 ^^^ word 8 ^^^ word 2 ^^^ word 0).rotateLeft 1

def absorb (registers : Registers) (block : List UInt8) : Registers :=
  let (after, _) := (List.range 80).foldl
    (fun (after, window) number => (step after window number, move window (nextWord window)))
    (registers, (words 32 false block).toArray)
  { a := registers.a + after.a
    b := registers.b + after.b
    c := registers.c + after.c
    d := registers.d + after.d
    e := registers.e + after.e }

def sha1 (content : List UInt8) : List UInt8 :=
  let { a, b, c, d, e } := (blocks 64 8 false content).foldl absorb {}
  wordBytes false [a, b, c, d, e]

/-! ### The second family -/

/-- The eight registers of the second family. -/
structure WideRegisters (width : Nat) where
  a : BitVec width
  b : BitVec width
  c : BitVec width
  d : BitVec width
  e : BitVec width
  f : BitVec width
  g : BitVec width
  h : BitVec width
  deriving Repr, DecidableEq

namespace WideRegisters

def toList {width : Nat} (registers : WideRegisters width) : List (BitVec width) :=
  let { a, b, c, d, e, f, g, h } := registers
  [a, b, c, d, e, f, g, h]

/-- The registers with the first bits after the points of the square roots of eight primes. -/
def ofPrimes (width : Nat) (primes : List Nat) : WideRegisters width :=
  let root (place : Nat) : BitVec width := rootBits 2 width (primes[place]?.getD 0)
  ⟨root 0, root 1, root 2, root 3, root 4, root 5, root 6, root 7⟩

def add {width : Nat} (left right : WideRegisters width) : WideRegisters width where
  a := left.a + right.a
  b := left.b + right.b
  c := left.c + right.c
  d := left.d + right.d
  e := left.e + right.e
  f := left.f + right.f
  g := left.g + right.g
  h := left.h + right.h

end WideRegisters

/-- How a digest of the second family mixes words: how far it turns the first and the fifth register
to the right, and how far it turns and shifts the words from which others are made. -/
structure Mixing where
  first : Nat × Nat × Nat
  fifth : Nat × Nat × Nat
  early : Nat × Nat × Nat
  late : Nat × Nat × Nat
  deriving Repr, DecidableEq

def turned {width : Nat} (amounts : Nat × Nat × Nat) (word : BitVec width) : BitVec width :=
  word.rotateRight amounts.1 ^^^ word.rotateRight amounts.2.1 ^^^ word.rotateRight amounts.2.2

def shifted {width : Nat} (amounts : Nat × Nat × Nat) (word : BitVec width) : BitVec width :=
  word.rotateRight amounts.1 ^^^ word.rotateRight amounts.2.1 ^^^ (word >>> amounts.2.2)

def wideStep {width : Nat} (mixing : Mixing) (registers : WideRegisters width)
    (constant word : BitVec width) : WideRegisters width :=
  let { a, b, c, d, e, f, g, h } := registers
  let chosen := (e &&& f) ^^^ (~~~e &&& g)
  let agreed := (a &&& b) ^^^ (a &&& c) ^^^ (b &&& c)
  let sum := h + turned mixing.fifth e + chosen + constant + word
  { a := sum + turned mixing.first a + agreed, b := a, c := b, d := c, e := d + sum, f := e, g := f
    h := g }

def wideAbsorb {width : Nat} (mixing : Mixing) (constants : List (BitVec width))
    (registers : WideRegisters width) (block : List UInt8) : WideRegisters width :=
  let next (window : Array (BitVec width)) : BitVec width :=
    let word (place : Nat) : BitVec width := window[place]?.getD 0
    shifted mixing.late (word 14) + word 9 + shifted mixing.early (word 1) + word 0
  let (after, _) := constants.foldl
    (fun (after, window) constant =>
      (wideStep mixing after constant (window[0]?.getD 0), move window (next window)))
    (registers, (words width false block).toArray)
  registers.add after

def narrowMixing : Mixing where
  first := (2, 13, 22)
  fifth := (6, 11, 25)
  early := (7, 18, 3)
  late := (17, 19, 10)

def wideMixing : Mixing where
  first := (28, 34, 39)
  fifth := (14, 18, 41)
  early := (1, 8, 7)
  late := (19, 61, 6)

/-- The constants of the steps: the first bits after the points of the cube roots of primes. -/
def cubeRoots (width count : Nat) : List (BitVec width) :=
  (primes count).map (rootBits 3 width)

def narrowConstants : List (BitVec 32) :=
  cubeRoots 32 64

def wideConstants : List (BitVec 64) :=
  cubeRoots 64 80

def narrow (start : WideRegisters 32) (content : List UInt8) : List UInt8 :=
  wordBytes false
    ((blocks 64 8 false content).foldl (wideAbsorb narrowMixing narrowConstants) start).toList

def wide (start : WideRegisters 64) (content : List UInt8) : List UInt8 :=
  wordBytes false
    ((blocks 128 16 false content).foldl (wideAbsorb wideMixing wideConstants) start).toList

def firstRoots (width : Nat) : WideRegisters width :=
  .ofPrimes width (primes 8)

def nextRoots : WideRegisters 64 :=
  .ofPrimes 64 ((primes 16).drop 8)

/-- The registers with the second halves of the square roots of the next eight primes. -/
def nextHalves : WideRegisters 32 :=
  let { a, b, c, d, e, f, g, h } := nextRoots
  let half (word : BitVec 64) : BitVec 32 := word.setWidth 32
  ⟨half a, half b, half c, half d, half e, half f, half g, half h⟩

def sha256 (content : List UInt8) : List UInt8 :=
  narrow (firstRoots 32) content

def sha224 (content : List UInt8) : List UInt8 :=
  (narrow nextHalves content).take 28

def sha512 (content : List UInt8) : List UInt8 :=
  wide (firstRoots 64) content

def sha384 (content : List UInt8) : List UInt8 :=
  (wide nextRoots content).take 48

end Secure

/-!
## The digest in double rounds

The digest BLAKE2b. Every block changes eight registers of 64 bits through sixteen others, in twelve
rounds that use its words in different orders.
-/

namespace Blake

def orders : List (List Nat) :=
  [[0, 1, 2, 3, 4, 5, 6, 7, 8, 9, 10, 11, 12, 13, 14, 15],
    [14, 10, 4, 8, 9, 15, 13, 6, 1, 12, 0, 2, 11, 7, 5, 3],
    [11, 8, 12, 0, 5, 2, 15, 13, 10, 14, 3, 6, 7, 1, 9, 4],
    [7, 9, 3, 1, 13, 12, 11, 14, 2, 6, 5, 10, 4, 0, 15, 8],
    [9, 0, 5, 7, 2, 4, 10, 15, 14, 1, 11, 12, 6, 8, 3, 13],
    [2, 12, 6, 10, 0, 11, 8, 3, 4, 13, 7, 5, 15, 14, 1, 9],
    [12, 5, 1, 15, 14, 13, 4, 10, 0, 7, 6, 3, 9, 2, 8, 11],
    [13, 11, 7, 14, 12, 1, 3, 9, 5, 0, 15, 4, 8, 6, 2, 10],
    [6, 15, 14, 9, 11, 3, 0, 8, 12, 2, 13, 7, 1, 4, 10, 5],
    [10, 2, 8, 4, 7, 6, 1, 5, 15, 11, 9, 14, 3, 12, 13, 0]]

/-- The registers that the parts of a round mix, and the places of the two words that they use in
the order of the round: first columns and then diagonals. -/
def parts : List (Nat × Nat × Nat × Nat) :=
  [(0, 4, 8, 12), (1, 5, 9, 13), (2, 6, 10, 14), (3, 7, 11, 15), (0, 5, 10, 15), (1, 6, 11, 12),
    (2, 7, 8, 13), (3, 4, 9, 14)]

def mix (registers : Array (BitVec 64)) (places : Nat × Nat × Nat × Nat)
    (first second : BitVec 64) : Array (BitVec 64) :=
  let (pa, pb, pc, pd) := places
  let value (place : Nat) : BitVec 64 := registers[place]?.getD 0
  let a := value pa + value pb + first
  let d := (value pd ^^^ a).rotateRight 32
  let c := value pc + d
  let b := (value pb ^^^ c).rotateRight 24
  let a := a + b + second
  let d := (d ^^^ a).rotateRight 16
  let c := c + d
  let b := (b ^^^ c).rotateRight 63
  (((registers.setIfInBounds pa a).setIfInBounds pb b).setIfInBounds pc c).setIfInBounds pd d

def round (words : Array (BitVec 64)) (registers : Array (BitVec 64)) (order : List Nat) :
    Array (BitVec 64) :=
  let word (place : Nat) : BitVec 64 := words[order[place]?.getD 0]?.getD 0
  parts.zipIdx.foldl
    (fun registers (places, number) =>
      mix registers places (word (2 * number)) (word (2 * number + 1))) registers

def absorb (registers : List (BitVec 64)) (block : List UInt8) (count : Nat) (isLast : Bool) :
    List (BitVec 64) :=
  let filled := block ++ List.replicate (128 - block.length) 0
  let words := (words 64 true filled).toArray
  let start := (Secure.firstRoots 64).toList.zipIdx.map fun (root, place) =>
    if place = 4 then root ^^^ BitVec.ofNat 64 count
    else if place = 6 && isLast then ~~~root
    else root
  let after := (orders ++ orders.take 2).foldl (round words) (registers ++ start).toArray
  registers.zipIdx.map fun (register, place) =>
    register ^^^ after[place]?.getD 0 ^^^ after[place + 8]?.getD 0

def absorbAll (registers : List (BitVec 64)) (count : Nat) :
    List (List UInt8) → List (BitVec 64)
  | [] => absorb registers [] count true
  | [block] => absorb registers block (count + block.length) true
  | block :: next :: blocks =>
    let count := count + block.length
    absorbAll (absorb registers block count false) count (next :: blocks)

def blake2b (content : List UInt8) : List UInt8 :=
  let roots := (Secure.firstRoots 64).toList
  let start := roots.zipIdx.map fun (root, place) => if place = 0 then root ^^^ 0x01010040 else root
  wordBytes true (absorbAll start 0 (cut 128 content.length content))

end Blake

end SymbolCache.Program.Digest
