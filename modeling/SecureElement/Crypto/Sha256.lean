/-
  SecureElement.Crypto.Sha256

  SHA-256.  A hasher holds the chaining value after the whole blocks of its input and the bytes
  that do not fill a block yet, so input may arrive in pieces; `Sha256.hash` is the digest of one
  byte string and `Sha256.hashConcat` that of two in a row.
-/
import SecureElement.Bytes.Endian
import SecureElement.Text.Numeral

namespace SecureElement

abbrev Digest :=
  Block 32

/-- A digest's abbreviation for debugging: its first four bytes. -/
def Digest.summary (digest : Digest) : String :=
  "Sha256Output(" ++ Text.lowerHex (digest.slice 0 4).bytes ++ "...)"

namespace Sha256

/-! ## Compression -/

/-- The chaining value: eight words. -/
@[ext]
structure Chain where
  a : UInt32
  b : UInt32
  c : UInt32
  d : UInt32
  e : UInt32
  f : UInt32
  g : UInt32
  h : UInt32
deriving DecidableEq, Inhabited

/-- The chaining value before the first block: the fractional bits of the square roots of the first
eight primes. -/
def Chain.initial : Chain :=
  ⟨0x6a09e667, 0xbb67ae85, 0x3c6ef372, 0xa54ff53a, 0x510e527f, 0x9b05688c, 0x1f83d9ab, 0x5be0cd19⟩

/-- The word-wise sum of two chaining values. -/
def Chain.add (x y : Chain) : Chain :=
  ⟨x.a + y.a, x.b + y.b, x.c + y.c, x.d + y.d, x.e + y.e, x.f + y.f, x.g + y.g, x.h + y.h⟩

def Chain.words (x : Chain) : List UInt32 :=
  [x.a, x.b, x.c, x.d, x.e, x.f, x.g, x.h]

/-- The round constants: the fractional bits of the cube roots of the first 64 primes. -/
def roundConstants : List UInt32 :=
  [
    0x428a2f98, 0x71374491, 0xb5c0fbcf, 0xe9b5dba5, 0x3956c25b, 0x59f111f1,
    0x923f82a4, 0xab1c5ed5, 0xd807aa98, 0x12835b01, 0x243185be, 0x550c7dc3,
    0x72be5d74, 0x80deb1fe, 0x9bdc06a7, 0xc19bf174, 0xe49b69c1, 0xefbe4786,
    0x0fc19dc6, 0x240ca1cc, 0x2de92c6f, 0x4a7484aa, 0x5cb0a9dc, 0x76f988da,
    0x983e5152, 0xa831c66d, 0xb00327c8, 0xbf597fc7, 0xc6e00bf3, 0xd5a79147,
    0x06ca6351, 0x14292967, 0x27b70a85, 0x2e1b2138, 0x4d2c6dfc, 0x53380d13,
    0x650a7354, 0x766a0abb, 0x81c2c92e, 0x92722c85, 0xa2bfe8a1, 0xa81a664b,
    0xc24b8b70, 0xc76c51a3, 0xd192e819, 0xd6990624, 0xf40e3585, 0x106aa070,
    0x19a4c116, 0x1e376c08, 0x2748774c, 0x34b0bcb5, 0x391c0cb3, 0x4ed8aa4a,
    0x5b9cca4f, 0x682e6ff3, 0x748f82ee, 0x78a5636f, 0x84c87814, 0x8cc70208,
    0x90befffa, 0xa4506ceb, 0xbef9a3f7, 0xc67178f2
  ]

/-- A word rotated right by `count` bits, `0 < count < 32`. -/
def rotate (word count : UInt32) : UInt32 :=
  (word >>> count) ||| (word <<< (32 - count))

/-- The word that follows the words of a schedule, latest first. -/
def nextWord (latest : List UInt32) : UInt32 :=
  let w2 := latest.getD 1 0
  let w7 := latest.getD 6 0
  let w15 := latest.getD 14 0
  let w16 := latest.getD 15 0
  let s0 := rotate w15 7 ^^^ rotate w15 18 ^^^ (w15 >>> 3)
  let s1 := rotate w2 17 ^^^ rotate w2 19 ^^^ (w2 >>> 10)
  w16 + s0 + w7 + s1

/-- A schedule, latest word first, with `count` more words. -/
def extendWords : (count : Nat) → List UInt32 → List UInt32
  | 0, latest => latest
  | count + 1, latest => extendWords count (nextWord latest :: latest)

/-- The first `count` big-endian words of a byte string. -/
def bigEndianWords : (count : Nat) → Bytes → List UInt32
  | 0, _ => []
  | count + 1, data =>
    UInt32.ofNat (Bytes.ofBigEndian (data.take 4)) :: bigEndianWords count (data.drop 4)

/-- The 64 words that the rounds on one block use. -/
def schedule (block : Bytes) : List UInt32 :=
  (extendWords 48 (bigEndianWords 16 block).reverse).reverse

/-- One round, with a round constant and a word of the schedule. -/
def round (x : Chain) (constant word : UInt32) : Chain :=
  let s1 := rotate x.e 6 ^^^ rotate x.e 11 ^^^ rotate x.e 25
  let choice := (x.e &&& x.f) ^^^ (~~~x.e &&& x.g)
  let t1 := x.h + s1 + choice + constant + word
  let s0 := rotate x.a 2 ^^^ rotate x.a 13 ^^^ rotate x.a 22
  let majority := (x.a &&& x.b) ^^^ (x.a &&& x.c) ^^^ (x.b &&& x.c)
  ⟨t1 + (s0 + majority), x.a, x.b, x.c, x.d + t1, x.e, x.f, x.g⟩

/-- Rounds over constants and words side by side. -/
def rounds : List UInt32 → List UInt32 → Chain → Chain
  | constant :: constants, word :: words, x => rounds constants words (round x constant word)
  | _, _, x => x

/-- The chaining value after one block of 64 bytes. -/
def compress (x : Chain) (block : Bytes) : Chain :=
  x.add (rounds roundConstants (schedule block) x)

/-- The chaining value after the first `count` blocks of a byte string. -/
def compressBlocks : (count : Nat) → Chain → Bytes → Chain
  | 0, x, _ => x
  | count + 1, x, data => compressBlocks count (compress x (data.take 64)) (data.drop 64)

/-! ## Hashing in pieces -/

/-- A hasher in the middle of its input. -/
structure Hasher where
  /-- The chaining value after the whole blocks of the input. -/
  chain : Chain := .initial
  /-- The bytes of the input after its whole blocks. -/
  pending : Bytes := []
  size : Nat := 0
deriving DecidableEq, Inhabited

namespace Hasher

def start : Hasher :=
  {}

def update (hasher : Hasher) (data : Bytes) : Hasher :=
  let input := hasher.pending ++ data
  let blocks := input.length / 64
  { chain := compressBlocks blocks hasher.chain input
    pending := input.drop (64 * blocks)
    size := hasher.size + data.length }

/-- What follows an input of `size` bytes to fill its last block: a set bit, zeros and the input's
length in bits. -/
def padding (size : Nat) : Bytes :=
  -- the set bit and the length take nine bytes, and 119 = 128 - 9
  0x80 :: (List.replicate ((119 - size % 64) % 64) 0 ++ Bytes.bigEndian 8 (8 * size))

def finish (hasher : Hasher) : Digest :=
  let words := (hasher.update (padding hasher.size)).chain.words
  ⟨words.flatMap fun word => Bytes.bigEndian 4 word.toNat, by
    simp [words, Chain.words]⟩

end Hasher

def hash (data : Bytes) : Digest :=
  (Hasher.start.update data).finish

/-- The digest of one byte string followed by another. -/
def hashConcat (first second : Bytes) : Digest :=
  ((Hasher.start.update first).update second).finish

end Sha256

end SecureElement
