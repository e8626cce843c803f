import ContentSecurity.Json.Value
import ContentSecurity.Text.Hex

/-!
# JSON tokens

A JSON text is a sequence of brackets, separators, strings, numbers and words
with blanks between them.  Reading a token always uses up at least one
character.
-/

namespace ContentSecurity
namespace Json

/-- The smallest part of a JSON text. -/
inductive Token where
  | openList
  | closeList
  | openRecord
  | closeRecord
  | comma
  | colon
  | null
  | boolean
      (value : Bool)
  | number
      (digits : List Char)
  | text
      (value : Option String)
deriving DecidableEq, Repr

/-- A part of a string: a character, or a numeric escape that may be half a character. -/
inductive Piece where
  | char
      (c : Char)
  | unit
      (code : Nat)
deriving DecidableEq, Repr

/-- The characters between tokens. -/
def isBlank
    (c : Char) :
    Bool :=
  c == ' ' || c == '\t' || c == '\n' || c == '\r'

/-- The character of an escape with one letter. -/
def escape?
    (letter : Char) :
    Option Char :=
  match letter with
  | '"' => some '"'
  | '\\' => some '\\'
  | '/' => some '/'
  | 'b' => some '\x08'
  | 'f' => some '\x0c'
  | 'n' => some '\n'
  | 'r' => some '\r'
  | 't' => some '\t'
  | _ => none

/-- Reads a string after its opening quote; the pieces so far come latest first. -/
def scanString?
    (pieces : List Piece) :
    List Char → Option (List Piece × List Char)
  | [] => none
  | '"' :: rest => some (pieces.reverse, rest)
  | '\\' :: 'u' :: a :: b :: c :: d :: rest =>
      match Text.hexNumber? [a, b, c, d] with
      | some code => scanString? (.unit code :: pieces) rest
      | none => none
  | '\\' :: letter :: rest =>
      match escape? letter with
      | some c => scanString? (.char c :: pieces) rest
      | none => none
  | c :: rest =>
      if c.toNat < 0x20 || c == '\\' then
        none
      else
        scanString? (.char c :: pieces) rest

/-- The first half of a character beyond the basic plane. -/
def isHighHalf
    (code : Nat) :
    Bool :=
  0xD800 ≤ code && code < 0xDC00

/-- The second half of a character beyond the basic plane. -/
def isLowHalf
    (code : Nat) :
    Bool :=
  0xDC00 ≤ code && code < 0xE000

/-- The text of a string; none if half a character stands alone.  The text so far is reversed. -/
def textOf?
    (reversed : List Char) :
    List Piece → Option String
  | [] => some (String.ofList reversed.reverse)
  | .char c :: pieces => textOf? (c :: reversed) pieces
  | .unit high :: .unit low :: pieces =>
      if isHighHalf high then
        if isLowHalf low then
          let code := 0x10000 + (high - 0xD800) * 0x400 + (low - 0xDC00)
          textOf? (Char.ofNat code :: reversed) pieces
        else
          none
      else if isLowHalf high then
        none
      else
        textOf? (Char.ofNat high :: reversed) (.unit low :: pieces)
  | .unit code :: pieces =>
      if isHighHalf code || isLowHalf code then
        none
      else
        textOf? (Char.ofNat code :: reversed) pieces

/-- Characters of a number. -/
def isNumberChar
    (c : Char) :
    Bool :=
  c.isDigit || c == '-' || c == '+' || c == '.' || c == 'e' || c == 'E'

/-- One or more digits, and nothing else. -/
def isDigits
    (text : List Char) :
    Bool :=
  !text.isEmpty && text.all Char.isDigit

/-- Nothing, or the letter of an exponent, an optional sign and digits. -/
def isExponent : List Char → Bool
  | [] => true
  | mark :: rest =>
      (mark == 'e' || mark == 'E') &&
        match rest with
        | '+' :: digits | '-' :: digits => isDigits digits
        | digits => isDigits digits

/-- Nothing, or a dot and digits, before an exponent. -/
def isFractionAndExponent : List Char → Bool
  | '.' :: rest =>
      let (digits, exponent) := rest.span Char.isDigit
      isDigits digits && isExponent exponent
  | exponent => isExponent exponent

/-- A number: an optional minus sign, digits without a needless zero, and the rest. -/
def isNumber
    (text : List Char) :
    Bool :=
  let unsigned :=
    match text with
    | '-' :: rest => rest
    | _ => text
  match unsigned.span Char.isDigit with
  | (['0'], rest) => isFractionAndExponent rest
  | (first :: _, rest) => first != '0' && isFractionAndExponent rest
  | ([], _) => false

/-- Reads the token at the front of a text that does not begin with a blank. -/
def token? : List Char → Option (Token × List Char)
  | [] => none
  | '[' :: rest => some (.openList, rest)
  | ']' :: rest => some (.closeList, rest)
  | '{' :: rest => some (.openRecord, rest)
  | '}' :: rest => some (.closeRecord, rest)
  | ',' :: rest => some (.comma, rest)
  | ':' :: rest => some (.colon, rest)
  | '"' :: rest =>
      match scanString? [] rest with
      | some (pieces, rest) => some (.text (textOf? [] pieces), rest)
      | none => none
  | 'n' :: 'u' :: 'l' :: 'l' :: rest => some (.null, rest)
  | 't' :: 'r' :: 'u' :: 'e' :: rest => some (.boolean true, rest)
  | 'f' :: 'a' :: 'l' :: 's' :: 'e' :: rest => some (.boolean false, rest)
  | c :: rest =>
      let digits := (c :: rest).takeWhile isNumberChar
      if isNumber digits then
        some (.number digits, (c :: rest).dropWhile isNumberChar)
      else
        none

end Json
end ContentSecurity
