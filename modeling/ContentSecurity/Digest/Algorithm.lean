import ContentSecurity.Base64
import ContentSecurity.Digest.Sha2

/-!
# Digest algorithms

The algorithms that a hash source may name, and the text of a digest.
-/

namespace ContentSecurity
namespace Digest

/-- Fractional parts of the square roots of the first eight primes, to 32 bits. -/
def start256 : State 32 :=
  { a := 0x6a09e667, b := 0xbb67ae85, c := 0x3c6ef372, d := 0xa54ff53a,
    e := 0x510e527f, f := 0x9b05688c, g := 0x1f83d9ab, h := 0x5be0cd19 }

/-- Fractional parts of the square roots of the ninth to the sixteenth prime, to 64 bits. -/
def start384 : State 64 :=
  { a := 0xcbbb9d5dc1059ed8, b := 0x629a292a367cd507,
    c := 0x9159015a3070dd17, d := 0x152fecd8f70e5939,
    e := 0x67332667ffc00b31, f := 0x8eb44a8768581511,
    g := 0xdb0c2e0d64f98fa7, h := 0x47b5481dbefa4fa4 }

/-- Fractional parts of the square roots of the first eight primes, to 64 bits. -/
def start512 : State 64 :=
  { a := 0x6a09e667f3bcc908, b := 0xbb67ae8584caa73b,
    c := 0x3c6ef372fe94f82b, d := 0xa54ff53a5f1d36f1,
    e := 0x510e527fade682d1, f := 0x9b05688c2b3e6c1f,
    g := 0x1f83d9abfb41bd6b, h := 0x5be0cd19137e2179 }

/-- The algorithms of hash sources. -/
inductive Algorithm where
  | sha256
  | sha384
  | sha512
deriving DecidableEq, Repr

namespace Algorithm

/-- All algorithms, by digest size. -/
def all : List Algorithm :=
  [sha256, sha384, sha512]

/-- The name in a hash source. -/
def name : Algorithm → String
  | sha256 => "sha256"
  | sha384 => "sha384"
  | sha512 => "sha512"

/-- The algorithm of a name. -/
def ofName?
    (text : String) :
    Option Algorithm :=
  all.find? (·.name == text)

/-- The bytes of the digest. -/
def digest : Algorithm → List UInt8 → List UInt8
  | sha256, content => shortWords.digest start256 content
  | sha384, content => (longWords.digest start384 content).take 48
  | sha512, content => longWords.digest start512 content

/-- The padded encoding of the digest. -/
def digestText
    (algorithm : Algorithm)
    (content : List UInt8) :
    String :=
  Base64.encode (algorithm.digest content)

end Algorithm
end Digest
end ContentSecurity
