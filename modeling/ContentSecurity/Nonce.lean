import ContentSecurity.Directive.Basic

/-!
# Nonces

Nonces are drawn from a generator that takes a new seed after a fixed number of
draws.  Seeds come from outside; a seed that cannot be had leaves the generator
as it is, and the next attempt is made a full interval later.

The generator hands out symbols and bytes.  Which ones they are is a parameter:
everything said here holds of every stream.
-/

namespace ContentSecurity

/-- Where symbols and bytes come from. -/
structure Entropy where
  /-- The symbol of a seed at a position of its stream. -/
  symbol : Nat → Nat → Fin 62
  /-- Whether the attempt of this number yields a new seed. -/
  answers : Nat → Bool
  /-- The byte of a seed at a position of its stream; zero where only symbols are asked for. -/
  byte : Nat → Nat → UInt8 := fun _ _ => 0

/-- A generator on its way through the streams. -/
structure NonceGenerator where
  /-- Draws that are left before the next attempt at a new seed, this one included. -/
  countdown : Nat
  /-- The seed in use. -/
  seed : Nat
  /-- Symbols and bytes taken from the seed in use. -/
  position : Nat
  /-- Attempts at a new seed so far. -/
  attempts : Nat
deriving DecidableEq, Repr

namespace NonceGenerator

/-- Draws between two attempts at a new seed. -/
def reseedInterval : Nat := 1000000

/-- A generator with its first seed. -/
def fresh : NonceGenerator :=
  { countdown := reseedInterval, seed := 0, position := 0, attempts := 0 }

/-- Letters and digits, the symbols of a nonce. -/
def symbols : List Char :=
  "ABCDEFGHIJKLMNOPQRSTUVWXYZabcdefghijklmnopqrstuvwxyz0123456789".toList

/-- Counts a draw, and tries for a new seed when the interval is over. -/
def countDraw
    (entropy : Entropy)
    (generator : NonceGenerator) :
    NonceGenerator :=
  if 1 < generator.countdown then
    { generator with countdown := generator.countdown - 1 }
  else
    let attempts := generator.attempts + 1
    if entropy.answers attempts then
      { countdown := reseedInterval, seed := attempts, position := 0, attempts }
    else
      { generator with countdown := reseedInterval, attempts }

/-- A number of symbols from the stream of a seed. -/
def take
    (entropy : Entropy)
    (seed : Nat) :
    Nat → Nat → List Char
  | _, 0 => []
  | position, n + 1 =>
      symbols.getD (entropy.symbol seed position) 'A' :: take entropy seed (position + 1) n

/-- One draw of letters and digits. -/
def draw
    (entropy : Entropy)
    (generator : NonceGenerator)
    (length : Nat) :
    String × NonceGenerator :=
  let counted := generator.countDraw entropy
  (String.ofList (take entropy counted.seed counted.position length),
    { counted with position := counted.position + length })

/-- A number of bytes from the stream of a seed. -/
def takeBytes
    (entropy : Entropy)
    (seed position length : Nat) :
    List UInt8 :=
  (List.range length).map fun i => entropy.byte seed (position + i)

/-- One draw of bytes. -/
def fill
    (entropy : Entropy)
    (generator : NonceGenerator)
    (size : Nat) :
    List UInt8 × NonceGenerator :=
  let counted := generator.countDraw entropy
  (takeBytes entropy counted.seed counted.position size,
    { counted with position := counted.position + size })

/-- The length of a nonce: the size asked for, rounded down to a multiple of four. -/
def nonceLength
    (size : Nat) :
    Nat :=
  size / 4 * 4

/-- One draw of a nonce. -/
def nonce
    (entropy : Entropy)
    (generator : NonceGenerator)
    (size : Nat) :
    String × NonceGenerator :=
  generator.draw entropy (nonceLength size)

/-- A number of draws of no bytes at all. -/
def skip
    (entropy : Entropy)
    (generator : NonceGenerator) :
    Nat → NonceGenerator
  | 0 => generator
  | n + 1 => skip entropy (generator.countDraw entropy) n

end NonceGenerator
end ContentSecurity
