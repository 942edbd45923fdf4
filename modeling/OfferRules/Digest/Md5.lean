/-!
# The MD5 digest

The digest of bytes by MD5, as one number whose sixteen bytes stand with the first one on top.

## Main definitions

* `Md5.padded` — the bytes filled up to whole blocks, with their length at the end.
* `Md5.block` — the change that a block makes to the four words of the state.
* `Md5.number` — the digest as a number.
-/

namespace OfferRules.Md5

/-- How far each round turns its word, for the sixteen steps of four rounds. -/
def turns : List Nat :=
  let round (a b c d : Nat) : List Nat := [a, b, c, d, a, b, c, d, a, b, c, d, a, b, c, d]
  round 7 12 17 22 ++ round 5 9 14 20 ++ round 4 11 16 23 ++ round 6 10 15 21

/-- The constants of the steps: the first 32 bits after the point of the sines of 1, 2, … -/
def sines : List UInt32 := [
  0xd76aa478, 0xe8c7b756, 0x242070db, 0xc1bdceee, 0xf57c0faf, 0x4787c62a, 0xa8304613, 0xfd469501,
  0x698098d8, 0x8b44f7af, 0xffff5bb1, 0x895cd7be, 0x6b901122, 0xfd987193, 0xa679438e, 0x49b40821,
  0xf61e2562, 0xc040b340, 0x265e5a51, 0xe9b6c7aa, 0xd62f105d, 0x02441453, 0xd8a1e681, 0xe7d3fbc8,
  0x21e1cde6, 0xc33707d6, 0xf4d50d87, 0x455a14ed, 0xa9e3e905, 0xfcefa3f8, 0x676f02d9, 0x8d2a4c8a,
  0xfffa3942, 0x8771f681, 0x6d9d6122, 0xfde5380c, 0xa4beea44, 0x4bdecfa9, 0xf6bb4b60, 0xbebfbc70,
  0x289b7ec6, 0xeaa127fa, 0xd4ef3085, 0x04881d05, 0xd9d4d039, 0xe6db99e5, 0x1fa27cf8, 0xc4ac5665,
  0xf4292244, 0x432aff97, 0xab9423a7, 0xfc93a039, 0x655b59c3, 0x8f0ccc92, 0xffeff47d, 0x85845dd1,
  0x6fa87e4f, 0xfe2ce6e0, 0xa3014314, 0x4e0811a1, 0xf7537e82, 0xbd3af235, 0x2ad7d2bb, 0xeb86d391]

/-- The four words of the state. -/
structure State where
  /-- The first word. -/
  a : UInt32 := 0x67452301
  /-- The second word. -/
  b : UInt32 := 0xefcdab89
  /-- The third word. -/
  c : UInt32 := 0x98badcfe
  /-- The fourth word. -/
  d : UInt32 := 0x10325476
deriving DecidableEq

/-- The bytes of a number, the least first. -/
def littleEndian : Nat → Nat → List UInt8
  | 0, _ => []
  | count + 1, n => UInt8.ofNat n :: littleEndian count (n / 256)

/-- The number that bytes write, the least first. -/
def ofLittleEndian : List UInt8 → Nat
  | [] => 0
  | b :: rest => b.toNat + 256 * ofLittleEndian rest

/-- Bytes followed by a one bit, zeros up to eight bytes before the end of a block, and the
number of bits. -/
def padded (bytes : List UInt8) : List UInt8 :=
  let zeros := (119 - bytes.length % 64) % 64
  bytes ++ [0x80] ++ List.replicate zeros 0 ++ littleEndian 8 (8 * bytes.length)

/-- The words of a block. -/
def words : List UInt8 → List UInt32
  | a :: b :: c :: d :: rest => UInt32.ofNat (ofLittleEndian [a, b, c, d]) :: words rest
  | _ => []

/-- A word turned to the left. -/
def turn (x : UInt32) (count : Nat) : UInt32 :=
  (x <<< UInt32.ofNat count) ||| (x >>> UInt32.ofNat (32 - count))

/-- The mixed word and the index of the word of the block for a step. -/
def mix (s : State) (step : Nat) : UInt32 × Nat :=
  if step < 16 then ((s.b &&& s.c) ||| (~~~s.b &&& s.d), step)
  else if step < 32 then ((s.d &&& s.b) ||| (~~~s.d &&& s.c), (5 * step + 1) % 16)
  else if step < 48 then (s.b ^^^ s.c ^^^ s.d, (3 * step + 5) % 16)
  else (s.c ^^^ (s.b ||| ~~~s.d), (7 * step) % 16)

/-- The steps of a block from a number on, with their constants and turns. -/
def steps (block : Array UInt32) : Nat → List (UInt32 × Nat) → State → State
  | _, [], s => s
  | step, (sine, count) :: rest, s =>
    let (mixed, index) := mix s step
    let sum := mixed + s.a + sine + block.getD index 0
    steps block (step + 1) rest ⟨s.d, s.b + turn sum count, s.b, s.c⟩

/-- The state after a block. -/
def block (s : State) (bytes : List UInt8) : State :=
  let t := steps (words bytes).toArray 0 (sines.zip turns) s
  ⟨s.a + t.a, s.b + t.b, s.c + t.c, s.d + t.d⟩

/-- The state after a number of blocks. -/
def blocks : Nat → List UInt8 → State → State
  | 0, _, s => s
  | count + 1, bytes, s => blocks count (bytes.drop 64) (block s (bytes.take 64))

/-- The bytes of the digest. -/
def digest (bytes : List UInt8) : List UInt8 :=
  let all := padded bytes
  let s := blocks (all.length / 64) all {}
  [s.a, s.b, s.c, s.d].flatMap fun w => littleEndian 4 w.toNat

/-- The digest as a number, its first byte on top. -/
def number (bytes : List UInt8) : Nat := (digest bytes).foldl (fun n b => 256 * n + b.toNat) 0

end OfferRules.Md5
