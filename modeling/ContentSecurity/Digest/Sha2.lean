/-!
# The SHA-2 digests

One construction serves both word sizes: the message is padded to whole blocks,
each block is spread over a schedule of words, and one round per word mixes the
schedule into a state of eight words.

A family fixes the word size, the round constants and the rotation amounts; a
digest is a family, a starting state and the number of bytes that are kept.
-/

namespace ContentSecurity
namespace Digest

/-- What distinguishes the digests with 32-bit words from those with 64-bit words. -/
structure Family where
  /-- Bits of a word. -/
  width : Nat
  /-- One constant per round. -/
  constants : List (BitVec width)
  /-- Rotations that mix the first working word. -/
  mixFirst : Nat × Nat × Nat
  /-- Rotations that mix the fifth working word. -/
  mixFifth : Nat × Nat × Nat
  /-- Two rotations and a shift for the schedule word fifteen places back. -/
  spreadOld : Nat × Nat × Nat
  /-- Two rotations and a shift for the schedule word two places back. -/
  spreadNew : Nat × Nat × Nat

/-- The eight working words. -/
structure State
    (width : Nat) where
  a : BitVec width
  b : BitVec width
  c : BitVec width
  d : BitVec width
  e : BitVec width
  f : BitVec width
  g : BitVec width
  h : BitVec width
deriving DecidableEq, Repr

namespace State

/-- Adds two states word by word. -/
def add
    {width : Nat}
    (x y : State width) :
    State width :=
  { a := x.a + y.a, b := x.b + y.b, c := x.c + y.c, d := x.d + y.d,
    e := x.e + y.e, f := x.f + y.f, g := x.g + y.g, h := x.h + y.h }

/-- The words in order. -/
def words
    {width : Nat}
    (st : State width) :
    List (BitVec width) :=
  [st.a, st.b, st.c, st.d, st.e, st.f, st.g, st.h]

end State

/-- Big-endian bytes of a number, in a fixed count of bytes. -/
def bytesOfNat : Nat → Nat → List UInt8
  | 0, _ => []
  | n + 1, value => bytesOfNat n (value / 256) ++ [UInt8.ofNat (value % 256)]

/-- The number that big-endian bytes denote. -/
def natOfBytes
    (bytes : List UInt8) :
    Nat :=
  bytes.foldl (fun value byte => value * 256 + byte.toNat) 0

namespace Family

/-- Bytes of a word. -/
def wordBytes
    (family : Family) :
    Nat :=
  family.width / 8

/-- Bytes of a block of sixteen words. -/
def blockBytes
    (family : Family) :
    Nat :=
  16 * family.wordBytes

/-- The exclusive or of three rotations. -/
def mix
    {width : Nat}
    (amounts : Nat × Nat × Nat)
    (x : BitVec width) :
    BitVec width :=
  x.rotateRight amounts.1 ^^^ x.rotateRight amounts.2.1 ^^^ x.rotateRight amounts.2.2

/-- The exclusive or of two rotations and a shift. -/
def spread
    {width : Nat}
    (amounts : Nat × Nat × Nat)
    (x : BitVec width) :
    BitVec width :=
  x.rotateRight amounts.1 ^^^ x.rotateRight amounts.2.1 ^^^ (x >>> amounts.2.2)

/-- A number of words from the front of some bytes. -/
def readWords
    (family : Family) :
    Nat → List UInt8 → List (BitVec family.width)
  | 0, _ => []
  | n + 1, bytes =>
      BitVec.ofNat family.width (natOfBytes (bytes.take family.wordBytes)) ::
        family.readWords n (bytes.drop family.wordBytes)

/-- One more word of the schedule, from the words so far, latest first. -/
def nextWord
    (family : Family)
    (words : List (BitVec family.width)) :
    BitVec family.width :=
  words.getD 15 0 + spread family.spreadOld (words.getD 14 0) +
    words.getD 6 0 + spread family.spreadNew (words.getD 1 0)

/-- Adds a number of words to the schedule, latest first. -/
def extendSchedule
    (family : Family) :
    Nat → List (BitVec family.width) → List (BitVec family.width)
  | 0, words => words
  | n + 1, words => family.extendSchedule n (family.nextWord words :: words)

/-- The schedule of a block: its own sixteen words, then one more for each further round. -/
def schedule
    (family : Family)
    (block : List UInt8) :
    List (BitVec family.width) :=
  let start := (family.readWords 16 block).reverse
  (family.extendSchedule (family.constants.length - 16) start).reverse

/-- One round. -/
def round
    (family : Family)
    (st : State family.width)
    (constant word : BitVec family.width) :
    State family.width :=
  let choice := (st.e &&& st.f) ^^^ (~~~st.e &&& st.g)
  let majority := (st.a &&& st.b) ^^^ (st.a &&& st.c) ^^^ (st.b &&& st.c)
  let t1 := st.h + mix family.mixFifth st.e + choice + constant + word
  let t2 := mix family.mixFirst st.a + majority
  { a := t1 + t2, b := st.a, c := st.b, d := st.c,
    e := st.d + t1, f := st.e, g := st.f, h := st.g }

/-- Takes one block into the state. -/
def compress
    (family : Family)
    (st : State family.width)
    (block : List UInt8) :
    State family.width :=
  let rounds := family.constants.zip (family.schedule block)
  st.add (rounds.foldl (fun st r => family.round st r.1 r.2) st)

/-- The message with a one bit, zeros and its length in bits, to a whole number of blocks. -/
def pad
    (family : Family)
    (message : List UInt8) :
    List UInt8 :=
  let lengthBytes := 2 * family.wordBytes
  let used := (message.length + 1 + lengthBytes) % family.blockBytes
  let zeros := (family.blockBytes - used) % family.blockBytes
  message ++ 0x80 :: List.replicate zeros 0 ++ bytesOfNat lengthBytes (message.length * 8)

/-- Takes a number of blocks into the state. -/
def absorb
    (family : Family) :
    Nat → State family.width → List UInt8 → State family.width
  | 0, st, _ => st
  | n + 1, st, bytes =>
      family.absorb n (family.compress st (bytes.take family.blockBytes))
        (bytes.drop family.blockBytes)

/-- All bytes of the state after a message. -/
def digest
    (family : Family)
    (start : State family.width)
    (message : List UInt8) :
    List UInt8 :=
  let padded := family.pad message
  let final := family.absorb (padded.length / family.blockBytes) start padded
  final.words.flatMap fun word => bytesOfNat family.wordBytes word.toNat

end Family

/-- Fractional parts of the cube roots of the first 64 primes. -/
def shortConstants : List (BitVec 32) :=
  [0x428a2f98, 0x71374491, 0xb5c0fbcf, 0xe9b5dba5, 0x3956c25b, 0x59f111f1, 0x923f82a4,
   0xab1c5ed5, 0xd807aa98, 0x12835b01, 0x243185be, 0x550c7dc3, 0x72be5d74, 0x80deb1fe,
   0x9bdc06a7, 0xc19bf174, 0xe49b69c1, 0xefbe4786, 0x0fc19dc6, 0x240ca1cc, 0x2de92c6f,
   0x4a7484aa, 0x5cb0a9dc, 0x76f988da, 0x983e5152, 0xa831c66d, 0xb00327c8, 0xbf597fc7,
   0xc6e00bf3, 0xd5a79147, 0x06ca6351, 0x14292967, 0x27b70a85, 0x2e1b2138, 0x4d2c6dfc,
   0x53380d13, 0x650a7354, 0x766a0abb, 0x81c2c92e, 0x92722c85, 0xa2bfe8a1, 0xa81a664b,
   0xc24b8b70, 0xc76c51a3, 0xd192e819, 0xd6990624, 0xf40e3585, 0x106aa070, 0x19a4c116,
   0x1e376c08, 0x2748774c, 0x34b0bcb5, 0x391c0cb3, 0x4ed8aa4a, 0x5b9cca4f, 0x682e6ff3,
   0x748f82ee, 0x78a5636f, 0x84c87814, 0x8cc70208, 0x90befffa, 0xa4506ceb, 0xbef9a3f7,
   0xc67178f2]

/-- Fractional parts of the cube roots of the first 80 primes. -/
def longConstants : List (BitVec 64) :=
  [0x428a2f98d728ae22, 0x7137449123ef65cd, 0xb5c0fbcfec4d3b2f, 0xe9b5dba58189dbbc,
   0x3956c25bf348b538, 0x59f111f1b605d019, 0x923f82a4af194f9b, 0xab1c5ed5da6d8118,
   0xd807aa98a3030242, 0x12835b0145706fbe, 0x243185be4ee4b28c, 0x550c7dc3d5ffb4e2,
   0x72be5d74f27b896f, 0x80deb1fe3b1696b1, 0x9bdc06a725c71235, 0xc19bf174cf692694,
   0xe49b69c19ef14ad2, 0xefbe4786384f25e3, 0x0fc19dc68b8cd5b5, 0x240ca1cc77ac9c65,
   0x2de92c6f592b0275, 0x4a7484aa6ea6e483, 0x5cb0a9dcbd41fbd4, 0x76f988da831153b5,
   0x983e5152ee66dfab, 0xa831c66d2db43210, 0xb00327c898fb213f, 0xbf597fc7beef0ee4,
   0xc6e00bf33da88fc2, 0xd5a79147930aa725, 0x06ca6351e003826f, 0x142929670a0e6e70,
   0x27b70a8546d22ffc, 0x2e1b21385c26c926, 0x4d2c6dfc5ac42aed, 0x53380d139d95b3df,
   0x650a73548baf63de, 0x766a0abb3c77b2a8, 0x81c2c92e47edaee6, 0x92722c851482353b,
   0xa2bfe8a14cf10364, 0xa81a664bbc423001, 0xc24b8b70d0f89791, 0xc76c51a30654be30,
   0xd192e819d6ef5218, 0xd69906245565a910, 0xf40e35855771202a, 0x106aa07032bbd1b8,
   0x19a4c116b8d2d0c8, 0x1e376c085141ab53, 0x2748774cdf8eeb99, 0x34b0bcb5e19b48a8,
   0x391c0cb3c5c95a63, 0x4ed8aa4ae3418acb, 0x5b9cca4f7763e373, 0x682e6ff3d6b2b8a3,
   0x748f82ee5defb2fc, 0x78a5636f43172f60, 0x84c87814a1f0ab72, 0x8cc702081a6439ec,
   0x90befffa23631e28, 0xa4506cebde82bde9, 0xbef9a3f7b2c67915, 0xc67178f2e372532b,
   0xca273eceea26619c, 0xd186b8c721c0c207, 0xeada7dd6cde0eb1e, 0xf57d4f7fee6ed178,
   0x06f067aa72176fba, 0x0a637dc5a2c898a6, 0x113f9804bef90dae, 0x1b710b35131c471b,
   0x28db77f523047d84, 0x32caab7b40c72493, 0x3c9ebe0a15c9bebc, 0x431d67c49c100d4c,
   0x4cc5d4becb3e42b6, 0x597f299cfc657e2a, 0x5fcb6fab3ad6faec, 0x6c44198c4a475817]

/-- Words of 32 bits in 64 rounds. -/
def shortWords : Family where
  width := 32
  constants := shortConstants
  mixFirst := (2, 13, 22)
  mixFifth := (6, 11, 25)
  spreadOld := (7, 18, 3)
  spreadNew := (17, 19, 10)

/-- Words of 64 bits in 80 rounds. -/
def longWords : Family where
  width := 64
  constants := longConstants
  mixFirst := (28, 34, 39)
  mixFifth := (14, 18, 41)
  spreadOld := (1, 8, 7)
  spreadNew := (19, 61, 6)

end Digest
end ContentSecurity
