/-!
# Hexadecimal digits

Digits are read in either case and written in lower case.
-/

namespace ContentSecurity
namespace Text

/-- The value of a hexadecimal digit in either case. -/
def hexDigit?
    (c : Char) :
    Option Nat :=
  if c.isDigit then
    some (c.toNat - '0'.toNat)
  else if 'a' ≤ c && c ≤ 'f' then
    some (c.toNat - 'a'.toNat + 10)
  else if 'A' ≤ c && c ≤ 'F' then
    some (c.toNat - 'A'.toNat + 10)
  else
    none

/-- A hexadecimal digit in either case. -/
def isHexDigit
    (c : Char) :
    Bool :=
  (hexDigit? c).isSome

/-- The number that hexadecimal digits denote; no other character may occur. -/
def hexNumber?
    (digits : List Char) :
    Option Nat :=
  digits.foldlM (fun value c => (hexDigit? c).map (value * 16 + ·)) 0

/-- The digit of a value below sixteen, in lower case. -/
def hexDigit
    (value : Nat) :
    Char :=
  "0123456789abcdef".toList.getD value '0'

theorem hexDigit?_hexDigit :
    ∀ value < 16, hexDigit? (hexDigit value) = some value := by
  decide

/-- A number below 256 is read back from four digits. -/
theorem hexNumber?_byte
    (value : Nat)
    (hvalue : value < 256) :
    hexNumber? ['0', '0', hexDigit (value / 16), hexDigit (value % 16)] = some value := by
  have hzero : hexDigit? '0' = some 0 := by decide
  have hhigh := hexDigit?_hexDigit (value / 16) (by omega)
  have hlow := hexDigit?_hexDigit (value % 16) (by omega)
  simp only [hexNumber?, List.foldlM_cons, List.foldlM_nil, hzero, hhigh, hlow]
  simp
  omega

end Text
end ContentSecurity
