import Mousstec.Library.Bytes

/-!
# SHA-256

The hash of a byte string and its hexadecimal digest: the message is padded to
whole blocks of 64 bytes, each block is expanded to 64 words and compressed
into eight running words.
-/

namespace Library

namespace Sha256

/-- The running words. -/
structure Words where
  a : UInt32
  b : UInt32
  c : UInt32
  d : UInt32
  e : UInt32
  f : UInt32
  g : UInt32
  h : UInt32
  deriving DecidableEq

/-- The words a hash starts from. -/
def initial : Words :=
  { a := 0x6a09e667, b := 0xbb67ae85, c := 0x3c6ef372, d := 0xa54ff53a
    e := 0x510e527f, f := 0x9b05688c, g := 0x1f83d9ab, h := 0x5be0cd19 }

/-- The constants of the rounds. -/
def roundConstants : List UInt32 :=
  [0x428a2f98, 0x71374491, 0xb5c0fbcf, 0xe9b5dba5, 0x3956c25b, 0x59f111f1,
    0x923f82a4, 0xab1c5ed5, 0xd807aa98, 0x12835b01, 0x243185be, 0x550c7dc3,
    0x72be5d74, 0x80deb1fe, 0x9bdc06a7, 0xc19bf174, 0xe49b69c1, 0xefbe4786,
    0x0fc19dc6, 0x240ca1cc, 0x2de92c6f, 0x4a7484aa, 0x5cb0a9dc, 0x76f988da,
    0x983e5152, 0xa831c66d, 0xb00327c8, 0xbf597fc7, 0xc6e00bf3, 0xd5a79147,
    0x06ca6351, 0x14292967, 0x27b70a85, 0x2e1b2138, 0x4d2c6dfc, 0x53380d13,
    0x650a7354, 0x766a0abb, 0x81c2c92e, 0x92722c85, 0xa2bfe8a1, 0xa81a664b,
    0xc24b8b70, 0xc76c51a3, 0xd192e819, 0xd6990624, 0xf40e3585, 0x106aa070,
    0x19a4c116, 0x1e376c08, 0x2748774c, 0x34b0bcb5, 0x391c0cb3, 0x4ed8aa4a,
    0x5b9cca4f, 0x682e6ff3, 0x748f82ee, 0x78a5636f, 0x84c87814, 0x8cc70208,
    0x90befffa, 0xa4506ceb, 0xbef9a3f7, 0xc67178f2]

/-- A rotation to the right. -/
def rotate (word count : UInt32) : UInt32 :=
  (word >>> count) ||| (word <<< (32 - count))

/-- Big-endian bytes of a number, a fixed count of them. -/
def bigEndian : Nat → Nat → List UInt8
  | 0, _ => []
  | count + 1, value =>
      bigEndian count (value / 256) ++ [UInt8.ofNat (value % 256)]

/-- The message with its end mark, zeros and its length in bits. -/
def pad (message : List UInt8) : List UInt8 :=
  message ++ 0x80 :: List.replicate ((119 - message.length % 64) % 64) 0 ++
    bigEndian 8 (8 * message.length)

/-- The word of up to four bytes. -/
def wordOf (bytes : List UInt8) : UInt32 :=
  bytes.foldl (fun word byte => (word <<< 8) ||| byte.toUInt32) 0

/-- The pieces of a list at the multiples of a length. -/
def pieces {α : Type} (count length : Nat) (items : List α) : List (List α) :=
  (List.range count).map fun index =>
    (items.drop (index * length)).take length

/-- The words of a block, newest first, with one more. -/
def expandOnce (words : List UInt32) : List UInt32 :=
  let early := words.getD 14 0
  let late := words.getD 1 0
  let first := rotate early 7 ^^^ rotate early 18 ^^^ (early >>> 3)
  let second := rotate late 17 ^^^ rotate late 19 ^^^ (late >>> 10)
  (words.getD 15 0 + first + words.getD 6 0 + second) :: words

/-- The 64 words of a block. -/
def schedule (block : List UInt8) : List UInt32 :=
  (expandOnce^[48] ((pieces 16 4 block).map wordOf).reverse).reverse

/-- One round. -/
def round (words : Words) (constant word : UInt32) : Words :=
  let sum := rotate words.e 6 ^^^ rotate words.e 11 ^^^ rotate words.e 25
  let choice := (words.e &&& words.f) ^^^ (~~~words.e &&& words.g)
  let first := words.h + sum + choice + constant + word
  let other := rotate words.a 2 ^^^ rotate words.a 13 ^^^ rotate words.a 22
  let majority := (words.a &&& words.b) ^^^ (words.a &&& words.c) ^^^
    (words.b &&& words.c)
  { a := first + (other + majority)
    b := words.a
    c := words.b
    d := words.c
    e := words.d + first
    f := words.e
    g := words.f
    h := words.g }

/-- The running words after a block. -/
def compress (words : Words) (block : List UInt8) : Words :=
  let mixed := (roundConstants.zip (schedule block)).foldl
    (fun words round => Sha256.round words round.1 round.2) words
  { a := words.a + mixed.a
    b := words.b + mixed.b
    c := words.c + mixed.c
    d := words.d + mixed.d
    e := words.e + mixed.e
    f := words.f + mixed.f
    g := words.g + mixed.g
    h := words.h + mixed.h }

/-- The bytes of the running words. -/
def Words.bytes (words : Words) : List UInt8 :=
  [words.a, words.b, words.c, words.d, words.e, words.f, words.g,
    words.h].flatMap fun word => bigEndian 4 word.toNat

/-- The hash of a message. -/
def hash (message : List UInt8) : List UInt8 :=
  let padded := pad message
  ((pieces (padded.length / 64) 64 padded).foldl compress initial).bytes

/-- The hash as hexadecimal text. -/
def hexDigest (message : List UInt8) : String :=
  Bytes.hex (hash message)

theorem bigEndian_length (count value : Nat) :
    (bigEndian count value).length = count := by
  induction count generalizing value with
  | zero => rfl
  | succ count induction => simp [bigEndian, induction]

/-- A hash has 32 bytes. -/
theorem hash_length (message : List UInt8) : (hash message).length = 32 := by
  simp [hash, Words.bytes, bigEndian_length]

/-- A digest is no empty text. -/
theorem hexDigest_ne_empty (message : List UInt8) : hexDigest message ≠ "" := by
  intro empty
  have length := congrArg (fun text => (Bytes.fromHex text).map List.length) empty
  simp only [hexDigest, Bytes.fromHex_hex, Option.map_some, hash_length] at length
  cases length

/-- The published digest of a three-byte message. -/
example : hexDigest [0x61, 0x62, 0x63] =
    "ba7816bf8f01cfea414140de5dae2223b00361a396177a9cb410ff61f20015ad" := by
  decide +kernel

end Sha256

end Library
