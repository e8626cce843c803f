/-!
# Base64

The standard alphabet with padding: three bytes become four characters, and a
shorter last group is filled up with one or two equals signs.

Beside the encoder stand the shape test, which looks at the form of a text
alone, and the decoder.
-/

namespace ContentSecurity
namespace Base64

/-- The sixty-four digits in the order of their values. -/
def alphabet : List Char :=
  "ABCDEFGHIJKLMNOPQRSTUVWXYZabcdefghijklmnopqrstuvwxyz0123456789+/".toList

/-- The digit of a value below 64. -/
def digit
    (value : Nat) :
    Char :=
  alphabet.getD value 'A'

/-- The value of a digit. -/
def digitValue?
    (c : Char) :
    Option Nat :=
  alphabet.idxOf? c

/-- The padded encoding as characters. -/
def encodeChars : List UInt8 → List Char
  | [] => []
  | [a] =>
      let n := a.toNat * 16
      [digit (n / 64), digit (n % 64), '=', '=']
  | [a, b] =>
      let n := (a.toNat * 256 + b.toNat) * 4
      [digit (n / 4096), digit (n / 64 % 64), digit (n % 64), '=']
  | a :: b :: c :: rest =>
      let n := a.toNat * 65536 + b.toNat * 256 + c.toNat
      digit (n / 262144) :: digit (n / 4096 % 64) :: digit (n / 64 % 64) :: digit (n % 64) ::
        encodeChars rest

/-- The padded encoding of some bytes. -/
def encode
    (bytes : List UInt8) :
    String :=
  String.ofList (encodeChars bytes)

/-- Reads back what the encoder writes. -/
def decodeChars? : List Char → Option (List UInt8)
  | [] => some []
  | [a, b, '=', '='] => do
      let n := (← digitValue? a) * 64 + (← digitValue? b)
      some [UInt8.ofNat (n / 16)]
  | [a, b, c, '='] => do
      let n := ((← digitValue? a) * 64 + (← digitValue? b)) * 64 + (← digitValue? c)
      some [UInt8.ofNat (n / 1024), UInt8.ofNat (n / 4 % 256)]
  | a :: b :: c :: d :: rest => do
      let n :=
        (((← digitValue? a) * 64 + (← digitValue? b)) * 64 + (← digitValue? c)) * 64
          + (← digitValue? d)
      let bytes ← decodeChars? rest
      some
        (UInt8.ofNat (n / 65536) :: UInt8.ofNat (n / 256 % 256) :: UInt8.ofNat (n % 256) :: bytes)
  | _ => none

/-- Reads a padded text back into bytes. -/
def decode?
    (text : String) :
    Option (List UInt8) :=
  decodeChars? text.toList

/-- Letters, digits, the plus sign and the slash. -/
def isDigit
    (c : Char) :
    Bool :=
  c.isAlphanum || c == '+' || c == '/'

/-- The last group of four: at most two characters of it are padding. -/
def isLastGroup
    (a b c d : Char) :
    Bool :=
  isDigit a && isDigit b && (isDigit c && (isDigit d || d == '=') || c == '=' && d == '=')

/-- Groups of four, one or more, of which only the last may be padded. -/
def isPaddedChars : List Char → Bool
  | [a, b, c, d] => isLastGroup a b c d
  | a :: b :: c :: d :: rest =>
      isDigit a && isDigit b && isDigit c && isDigit d && isPaddedChars rest
  | _ => false

/-- The shape of a padded encoding; the unused bits of the last digit are not looked at. -/
def isPadded
    (text : String) :
    Bool :=
  isPaddedChars text.toList

end Base64
end ContentSecurity
