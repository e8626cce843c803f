import ContentSecurity.Url.Ipv4
import ContentSecurity.Url.Ipv6

/-!
# Hosts of URLs

A host in brackets is an IPv6 address.  Under a special scheme every other host
is a domain, whose percent escapes are undone before it is read; under any other
scheme it is an opaque text with few forbidden characters.
-/

namespace ContentSecurity
namespace Url
namespace Host

/-- Undoes percent escapes; a percent sign without two digits stands for itself. -/
def unescape : List Char → List UInt8
  | [] => []
  | '%' :: a :: b :: rest =>
      match Text.hexDigit? a, Text.hexDigit? b with
      | some x, some y => UInt8.ofNat (x * 16 + y) :: unescape rest
      | _, _ => '%'.toUInt8 :: unescape (a :: b :: rest)
  | c :: rest => String.utf8EncodeChar c ++ unescape rest

/-- The address in a bracketed host; a host with an opening bracket must also end in one. -/
def isBracketedAddress
    (text : List Char) :
    Bool :=
  match text with
  | '[' :: rest => rest.getLast? == some ']' && Ipv6.isAddress rest.dropLast
  | _ => false

/-- A domain or an address under a special scheme. -/
def isDomain
    (text : List Char) :
    Bool :=
  if text.head? = some '[' then
    isBracketedAddress text
  else
    match String.fromUTF8? ⟨(unescape text).toArray⟩ with
    | none => false
    | some name =>
        match Domain.labels? name.toList with
        | none => false
        | some labels =>
            labels != [.plain []] && (!Ipv4.endsInNumber labels || Ipv4.isAddress labels)

/-- Characters that no opaque host may hold. -/
def opaqueForbidden : List Char :=
  "\x00\t\n\r #/:<>?@[\\]^|".toList

/-- A host under a scheme that is not special; it may be empty. -/
def isOpaque
    (text : List Char) :
    Bool :=
  if text.head? = some '[' then
    isBracketedAddress text
  else
    text.all fun c => !opaqueForbidden.contains c

end Host
end Url
end ContentSecurity
