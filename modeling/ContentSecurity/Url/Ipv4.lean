import ContentSecurity.Text.Hex
import ContentSecurity.Url.Domain.Label

/-!
# IPv4 addresses in host names

A host name whose last label is a number is an address.  An address has one to
four numbers, in decimal, octal after a zero or hexadecimal after a zero and an
x; the last one fills all bytes that the others leave.
-/

namespace ContentSecurity
namespace Url
namespace Ipv4

/-- The number that digits of a base denote; no other character may occur. -/
def digits?
    (base : Nat)
    (digits : List Char) :
    Option Nat :=
  digits.foldlM (fun value c =>
    match Text.hexDigit? c with
    | some digit => if digit < base then some (value * base + digit) else none
    | none => none) 0

/-- Reads one number of an address. -/
def number? : List Char → Option Nat
  | [] => none
  | '0' :: 'x' :: digits | '0' :: 'X' :: digits => digits? 16 digits
  | ['0'] => some 0
  | '0' :: digits => digits? 8 digits
  | digits => digits? 10 digits

/-- Drops one empty label at the end, which a trailing dot leaves behind. -/
def dropTrailingEmpty
    (labels : List Domain.Label) :
    List Domain.Label :=
  if 1 < labels.length && labels.getLast? == some (.plain []) then labels.dropLast else labels

/-- A name whose last label is all digits, or reads as a number. -/
def endsInNumber
    (labels : List Domain.Label) :
    Bool :=
  match (dropTrailingEmpty labels).getLast? with
  | some (.plain text) => (number? text).isSome || !text.isEmpty && text.all Char.isDigit
  | _ => false

/-- The number of a label. -/
def labelNumber?
    (label : Domain.Label) :
    Option Nat :=
  match label with
  | .plain text => number? text
  | .encoded _ => none

/-- A name that denotes an address. -/
def isAddress
    (labels : List Domain.Label) :
    Bool :=
  match (dropTrailingEmpty labels).mapM labelNumber? with
  | none => false
  | some numbers =>
      let leading := numbers.dropLast
      numbers.length ≤ 4 && leading.all (· ≤ 255) &&
        numbers.getLast?.all (· < Nat.pow 256 (4 - leading.length))

end Ipv4
end Url
end ContentSecurity
