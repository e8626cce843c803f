import ContentSecurity.Url.Domain.MappingTable
import ContentSecurity.Url.Domain.Packed

/-!
# Mapping of host names

Before a host name is compared or looked up its characters are mapped: capitals
and compatibility forms are replaced, invisible characters dropped, and some
characters refused.
-/

namespace ContentSecurity
namespace Url
namespace Domain

/-- What the mapping does with a character. -/
inductive Status where
  /-- The character stands for itself. -/
  | valid
  /-- The character is dropped. -/
  | ignored
  /-- The character is replaced. -/
  | mapped
      (codes : List Nat)
  /-- No host name may hold the character. -/
  | refused

/-- Characters that are replaced. -/
def mappedTable : List Row := unpack mappedRows

/-- Characters that are dropped. -/
def ignoredTable : List Row := unpack ignoredRows

/-- Characters that no host name may hold. -/
def refusedTable : List Row := unpack refusedRows

/--
The replacement that a row gives for one of its code points.  Step zero marks a
range with one common replacement; otherwise a single replacement moves along
with the code point.
-/
def Row.replacement
    (row : Row)
    (code : Nat) :
    List Nat :=
  match row.codes with
  | [target] => if row.step = 0 then [target] else [target + (code - row.first)]
  | targets => targets

/-- The status of a code point. -/
def status
    (code : Nat) :
    Status :=
  if code < 0x80 then
    if 0x41 ≤ code && code ≤ 0x5A then .mapped [code + 0x20] else .valid
  else
    match Row.find? mappedTable code with
    | some row => .mapped (row.replacement code)
    | none =>
        if Row.anyCovers ignoredTable code then
          .ignored
        else if Row.anyCovers refusedTable code then
          .refused
        else
          .valid

/-- A character that stands for itself. -/
def isValidCode
    (code : Nat) :
    Bool :=
  match status code with
  | .valid => true
  | _ => false

/-- Maps all characters; none if one is refused. -/
def mapCodes?
    (codes : List Nat) :
    Option (List Nat) :=
  codes.foldrM (fun code mapped =>
    match status code with
    | .valid => some (code :: mapped)
    | .ignored => some mapped
    | .mapped codes => some (codes ++ mapped)
    | .refused => none) []

end Domain
end Url
end ContentSecurity
