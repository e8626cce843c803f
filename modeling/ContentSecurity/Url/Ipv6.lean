import ContentSecurity.Text.Decimal
import ContentSecurity.Text.Hex

/-!
# IPv6 addresses

Eight groups of at most four hexadecimal digits are separated by colons.  One
pair of colons may stand for one or more groups of zero, and the last two groups
may be written as four decimal numbers.
-/

namespace ContentSecurity
namespace Url
namespace Ipv6

/-- The parts before and after the first pair of colons. -/
def splitPair? : List Char → Option (List Char × List Char)
  | ':' :: ':' :: rest => some ([], rest)
  | c :: rest => (splitPair? rest).map fun (before, after) => (c :: before, after)
  | [] => none

/-- One to four hexadecimal digits. -/
def isGroup
    (text : List Char) :
    Bool :=
  !text.isEmpty && text.length ≤ 4 && text.all Text.isHexDigit

/-- A decimal number up to 255 without a leading zero. -/
def isByte
    (text : List Char) :
    Bool :=
  !text.isEmpty && text.length ≤ 3 && text.all Char.isDigit &&
    (text.length = 1 || text.head? != some '0') &&
    Text.decimalValue text ≤ 255

/-- Four decimal numbers separated by dots. -/
def isDottedQuad
    (text : List Char) :
    Bool :=
  let parts := text.splitOn '.'
  parts.length = 4 && parts.all isByte

/-- How many groups a list of parts stands for; dotted numbers stand for two and come last. -/
def groupCount? : List (List Char) → Option Nat
  | [] => some 0
  | [part] => if isGroup part then some 1 else if isDottedQuad part then some 2 else none
  | part :: parts => if isGroup part then (groupCount? parts).map (· + 1) else none

/-- How many groups a text without a pair of colons stands for. -/
def groupsOf?
    (text : List Char) :
    Option Nat :=
  if text.isEmpty then some 0 else groupCount? (text.splitOn ':')

/-- A text that denotes an address. -/
def isAddress
    (text : List Char) :
    Bool :=
  match splitPair? text with
  | none => groupsOf? text == some 8
  | some (before, after) =>
      match groupsOf? before, groupsOf? after with
      | some left, some right => !before.contains '.' && left + right ≤ 7
      | _, _ => false

end Ipv6
end Url
end ContentSecurity
