import ContentSecurity.Text.Decimal
import ContentSecurity.Text.Hex
import ContentSecurity.Toml.Value

/-!
# Numbers

A number may hold underscores between its digits and may not begin with a
needless zero.  What follows the first underscore of an integer is only held to
be digits when the number is wanted: reading the text keeps the characters, and
`integerValue?` says whether they denote a number of the base.  In the same way
an integer may lack every digit behind the mark of its base.
-/

namespace ContentSecurity
namespace Toml

/-- The sign of a number, and the rest. -/
def splitSign : List Char → List Char × List Char
  | '-' :: rest => (['-'], rest)
  | '+' :: rest => (['+'], rest)
  | text => ([], text)

/-- A number without its underscores, each of which must stand between two digits. -/
def dropUnderscores?
    (isDigit : Char → Bool)
    (text : List Char) :
    Option (List Char) :=
  let groups := text.splitOn '_'
  if groups.dropLast.all (·.getLast?.any isDigit) && (groups.drop 1).all (·.head?.any isDigit) then
    some groups.flatten
  else
    none

/-- A digit of a base up to sixteen. -/
def isDigitOf
    (base : Nat)
    (c : Char) :
    Bool :=
  (Text.hexDigit? c).any (· < base)

/-- An integer behind the mark of its base. -/
def basedInteger?
    (base : Nat)
    (text : List Char) :
    Option Value :=
  if text.all fun c => isDigitOf base c || c = '_' then
    (dropUnderscores? Text.isHexDigit text).map (.integer base)
  else
    none

/-- Whether a number without a sign begins with a zero that is not its only whole digit. -/
def hasNeedlessZero : List Char → Bool
  | '0' :: c :: _ => c.isDigit || c = '_'
  | _ => false

/-- A decimal integer with an optional sign. -/
def decimalInteger?
    (text : List Char) :
    Option Value :=
  let unsigned := (splitSign text).2
  let rest := unsigned.dropWhile Char.isDigit
  let isExact := rest.isEmpty && !unsigned.isEmpty
  let isLoose := rest.head? = some '_' && !rest.any fun c => [' ', '.', 'e', 'E'].contains c
  if (isExact || isLoose) && !hasNeedlessZero unsigned then
    (dropUnderscores? Text.isHexDigit text).map (.integer 10)
  else
    none

/-- What follows a run of digits and underscores that holds at least one digit. -/
def skipDigits?
    (text : List Char) :
    Option (List Char) :=
  let isMember c := c.isDigit || c == '_'
  if (text.takeWhile isMember).any Char.isDigit then some (text.dropWhile isMember) else none

/-- What follows the digits behind a decimal point, if there is one. -/
def skipFraction? : List Char → Option (List Char)
  | '.' :: rest => skipDigits? rest
  | text => some text

/-- What follows an exponent, if there is one. -/
def skipExponent? : List Char → Option (List Char)
  | 'e' :: rest | 'E' :: rest => skipDigits? (splitSign rest).2
  | text => some text

/-- A decimal number with a fraction, an exponent or both. -/
def decimalFloat?
    (text : List Char) :
    Option Value := do
  let unsigned := (splitSign text).2
  let fraction ← skipDigits? unsigned
  let exponent ← skipFraction? fraction
  let rest ← skipExponent? exponent
  if !fraction.isEmpty && rest.isEmpty && !hasNeedlessZero unsigned then
    (dropUnderscores? Char.isDigit text).map .float
  else
    none

/-- The names of what is no number, and of the endless numbers. -/
def namedFloat?
    (text : List Char) :
    Option Value :=
  let name := String.ofList (splitSign text).2
  if name = "inf" || name = "nan" then some (.float text) else none

/-- The integer that the characters behind an optional sign denote as digits of a base. -/
def integerValue?
    (base : Nat)
    (text : List Char) :
    Option Int :=
  let (sign, digits) := splitSign text
  if !digits.isEmpty && digits.all (isDigitOf base) then
    let size := digits.foldl (fun value c => value * base + (Text.hexDigit? c).getD 0) 0
    some (if sign = ['-'] then -size else size)
  else
    none

/-- Integers that some 128-bit type can hold. -/
def isWideInteger
    (value : Int) :
    Bool :=
  -(Nat.pow 2 127 : Int) ≤ value && value < Nat.pow 2 128

/-- Whether a number without underscores stays below the largest 64-bit float when rounded. -/
def isFiniteFloat
    (text : List Char) :
    Bool :=
  let (_, unsigned) := splitSign text
  let mantissa := unsigned.takeWhile fun c => c != 'e' && c != 'E'
  let (exponentSign, exponentDigits) := splitSign (unsigned.drop (mantissa.length + 1))
  let whole := mantissa.takeWhile (· != '.')
  let fraction := mantissa.drop (whole.length + 1)
  let digits := (whole ++ fraction).dropWhile (· == '0')
  let exponent : Int :=
    let size : Int := Text.decimalValue exponentDigits
    (if exponentSign = ['-'] then -size else size) - fraction.length
  let value := Text.decimalValue digits
  -- the first number that rounds beyond the range
  let bound := (Nat.pow 2 54 - 1) * Nat.pow 2 970
  if unsigned = "inf".toList || unsigned = "nan".toList then
    true
  else if digits.isEmpty || digits.length + exponent < 300 then
    true
  else if 320 < digits.length + exponent then
    false
  else if 0 ≤ exponent then
    value * Nat.pow 10 exponent.toNat < bound
  else
    value < bound * Nat.pow 10 (-exponent).toNat

end Toml
end ContentSecurity
