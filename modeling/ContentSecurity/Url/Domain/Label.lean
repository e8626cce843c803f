import ContentSecurity.Url.Domain.Mapping
import ContentSecurity.Url.Domain.Punycode
import ContentSecurity.Url.Domain.Script

/-!
# Labels of a host name

A host name is cut into labels at its dots.  Reading maps and composes each
label, decodes labels that carry the marker of an encoded label, and refuses the
whole name if one label breaks a rule.
-/

namespace ContentSecurity
namespace Url
namespace Domain

/-- A label after mapping. -/
inductive Label where
  /-- ASCII characters in lower case. -/
  | plain
      (text : List Char)
  /-- A label that stands encoded in ASCII form. -/
  | encoded
      (codes : List Nat)
deriving DecidableEq, Repr

namespace Label

/-- The characters that a reader sees. -/
def codes : Label → List Nat
  | plain text => text.map Char.toNat
  | encoded codes => codes

end Label

/-- ASCII characters that no host name may hold. -/
def isForbidden
    (code : Nat) :
    Bool :=
  code ≤ 0x20 || code = 0x7F || "%#/:<>?@[\\]^|".toList.any (·.toNat == code)

/-- The marker of an encoded label. -/
def encodedMarker : List Nat :=
  "xn--".toList.map Char.toNat

/-- The longest label that can be encoded. -/
def maxEncodedLength : Nat := 1000

/-- The rules on a label with characters beyond ASCII. -/
def isWellWritten
    (codes : List Nat) :
    Bool :=
  !codes.head?.any isMark && joinersAllowed [] codes

/-- Reads the part of an encoded label after its marker. -/
def decodedLabel?
    (codes : List Nat) :
    Option Label :=
  if codes.isEmpty || codes.getLast? == some '-'.toNat then
    none
  else
    match Punycode.decode? (codes.map Char.ofNat) with
    | none => none
    | some decoded =>
        let isStable := decoded.all isValidCode && compose decoded == decoded
        let isPermitted := decoded.all fun code => !isForbidden code && code != '.'.toNat
        if isStable && isPermitted && isWellWritten decoded then
          some (.encoded decoded)
        else
          none

/-- Reads one mapped label. -/
def label?
    (codes : List Nat) :
    Option Label :=
  if codes.any isForbidden then
    none
  else if codes.take 4 = encodedMarker then
    if codes.all (· < 0x80) then decodedLabel? (codes.drop 4) else none
  else if codes.all (· < 0x80) then
    some (.plain (codes.map Char.ofNat))
  else if isWellWritten codes && codes.length ≤ maxEncodedLength then
    some (.encoded codes)
  else
    none

/-- Reads a host name as labels. -/
def labels?
    (text : List Char) :
    Option (List Label) := do
  let mapped ← mapCodes? (text.map Char.toNat)
  let labels ← ((compose mapped).splitOn '.'.toNat).mapM label?
  let isMixed := labels.any fun label => label.codes.any isRightToLeft
  if isMixed && !labels.all fun label => directionsAgree label.codes then
    none
  else
    some labels

end Domain
end Url
end ContentSecurity
