import ContentSecurity.Source.Host
import ContentSecurity.Text.Decimal
import ContentSecurity.Url.Host

/-!
# Absolute URLs

An absolute URL begins with a scheme.  What can go wrong after that lies in the
authority alone: its host, its port, or credentials without a host.  Paths,
queries and fragments take any text.
-/

namespace ContentSecurity
namespace Url

/-- Schemes with rules of their own. -/
inductive SchemeClass where
  /-- The schemes of the web, which need a host. -/
  | special
  /-- The scheme of local files, whose host may be missing. -/
  | file
  /-- Every other scheme. -/
  | other
deriving DecidableEq, Repr

/-- The class of a scheme, its case aside. -/
def SchemeClass.ofScheme
    (scheme : List Char) :
    SchemeClass :=
  let name := String.ofList (scheme.map Char.toLower)
  if ["http", "https", "ws", "wss", "ftp"].contains name then
    .special
  else if name = "file" then
    .file
  else
    .other

/-- Control characters and spaces, which are dropped at both ends of a URL. -/
def isEdge
    (c : Char) :
    Bool :=
  c.toNat ≤ 0x20

/-- A URL without its edges and without the tabs and line breaks inside. -/
def strip
    (text : List Char) :
    List Char :=
  let inner := ((text.dropWhile isEdge).reverse.dropWhile isEdge).reverse
  inner.filter fun c => c != '\t' && c != '\n' && c != '\r'

/-- The scheme before the first colon, and the rest. -/
def splitScheme?
    (text : List Char) :
    Option (List Char × List Char) :=
  match text.span Source.isSchemeChar with
  | (scheme, ':' :: rest) => if Source.isScheme scheme then some (scheme, rest) else none
  | _ => none

/-- A slash, in either direction. -/
def isSlash
    (c : Char) :
    Bool :=
  c == '/' || c == '\\'

/-- Characters that end an authority. -/
def endsAuthority
    (scheme : SchemeClass)
    (c : Char) :
    Bool :=
  c == '/' || c == '?' || c == '#' || c == '\\' && scheme != .other

/-- The host before its port; colons inside brackets belong to the host. -/
def splitHost : Bool → List Char → List Char × List Char
  | _, [] => ([], [])
  | inBrackets, c :: rest =>
      if c = ':' && !inBrackets then
        ([], c :: rest)
      else
        let (host, port) := splitHost (c == '[' || inBrackets && c != ']') rest
        (c :: host, port)

/-- The decimal digits after a colon; a backslash ends them too. -/
def isPort
    (text : List Char) :
    Bool :=
  let digits := text.takeWhile (· != '\\')
  digits.all Char.isDigit &&
    Text.decimalValue digits ≤ Source.maxPort

/-- The part before the last at sign, if there is one, and the part after it. -/
def splitCredentials
    (text : List Char) :
    Option (List Char) × List Char :=
  let host := (text.reverse.takeWhile (· != '@')).reverse
  if host.length = text.length then
    (none, text)
  else
    (some (text.take (text.length - host.length - 1)), host)

/-- A host with an optional port. -/
def isHostAndPort
    (scheme : SchemeClass)
    (text : List Char) :
    Bool :=
  let (host, port) := splitHost false text
  let isHost := if scheme = .other then Host.isOpaque host else Host.isDomain host
  let isPortFree := port.isEmpty
  isHost && (isPortFree || !host.isEmpty && isPort (port.drop 1))

/-- Everything after the two slashes. -/
def isAuthority
    (scheme : SchemeClass)
    (text : List Char) :
    Bool :=
  let (authority, rest) := text.span (!endsAuthority scheme ·)
  let (credentials, host) := splitCredentials authority
  let isHostMissing := (splitHost false host).1.isEmpty
  let isNamed :=
    match credentials with
    | none => true
    | some [] => !(host.isEmpty && !rest.isEmpty)
    | some [':'] => true
    | some _ => !isHostMissing
  isNamed && !(isHostMissing && scheme = .special) && isHostAndPort scheme host

/-- A drive letter in the place of a host. -/
def isDriveLetter : List Char → Bool
  | [letter, mark] => letter.isAlpha && (mark == ':' || mark == '|')
  | _ => false

/-- The host of a file URL. -/
def isFileHost
    (text : List Char) :
    Bool :=
  let host := text.takeWhile (!endsAuthority .file ·)
  host.isEmpty || isDriveLetter host || Host.isDomain host

/-- A text that reads as a URL without a base to complete it. -/
def isAbsolute
    (text : String) :
    Bool :=
  match splitScheme? (strip text.toList) with
  | none => false
  | some (scheme, rest) =>
      match SchemeClass.ofScheme scheme with
      | .special => isAuthority .special (rest.dropWhile isSlash)
      | .file =>
          match rest with
          | a :: b :: host => !(isSlash a && isSlash b) || isFileHost host
          | _ => true
      | .other =>
          match rest with
          | '/' :: '/' :: authority => isAuthority .other authority
          | _ => true

end Url
end ContentSecurity
