import ContentSecurity.Source.Path
import ContentSecurity.Source.Scheme
import ContentSecurity.Text.Word

/-!
# Host sources

A host source names the places a page may load from: an optional scheme, a host
or a host pattern, an optional port and an optional path.

Reading goes from left to right and never has to try again, because each part
is delimited by characters that the part itself cannot hold: a scheme ends
before its colon, a host at a colon or a slash, a port at a slash.  Reading
looks at the form alone; the number of a port and the steps of a path are
judged afterwards.
-/

namespace ContentSecurity
namespace Source

/-- The host part. -/
inductive HostPattern where
  /-- Every host. -/
  | any
  /-- One host, or with a leading wildcard all hosts below it. -/
  | named
      (wildcard : Bool)
      (labels : List (List Char))
deriving DecidableEq, Repr

/-- The port part. -/
inductive PortPattern where
  /-- Every port. -/
  | any
  /-- The port with these decimal digits. -/
  | number
      (digits : List Char)
deriving DecidableEq, Repr

/-- A host source in its parts. -/
structure HostSource where
  scheme : Option (List Char)
  host : HostPattern
  port : Option PortPattern
  path : Option (List Char)
deriving DecidableEq, Repr

/-- The host part as it is written. -/
def HostPattern.text : HostPattern → List Char
  | any => ['*']
  | named wildcard labels => (if wildcard then ['*', '.'] else []) ++ ['.'].intercalate labels

/-- The port part as it is written. -/
def PortPattern.text : PortPattern → List Char
  | any => ['*']
  | number digits => digits

/-- A host source as it is written. -/
def HostSource.text
    (source : HostSource) :
    List Char :=
  (source.scheme.map (· ++ [':', '/', '/'])).getD [] ++ source.host.text ++
    (source.port.map (':' :: ·.text)).getD [] ++ source.path.getD []

/-- The largest port number. -/
def maxPort : Nat := 65535

/-- Characters of a host label. -/
def isLabelChar
    (c : Char) :
    Bool :=
  c.isAlphanum || c == '-'

/-- Characters of a path, its first slash included. -/
def isPathChar
    (c : Char) :
    Bool :=
  c.isAlphanum || "-_:@&?=+,.!/~*'%$;()".toList.contains c

/-- Labels are one or more, and none is empty. -/
def labels?
    (text : List Char) :
    Option (List (List Char)) :=
  let labels := text.splitOn '.'
  if labels.all fun label => !label.isEmpty && label.all isLabelChar then
    some labels
  else
    none

/-- The scheme before a colon and two slashes, and what follows them. -/
def splitScheme
    (text : List Char) :
    Option (List Char) × List Char :=
  match text.span isSchemeChar with
  | (scheme, ':' :: '/' :: '/' :: rest) =>
      if isScheme scheme then (some scheme, rest) else (none, text)
  | _ => (none, text)

/-- Reads a host that ends where a colon, a slash or the text's end stands. -/
def host?
    (text : List Char) :
    Option HostPattern :=
  match text with
  | ['*'] => some .any
  | '*' :: '.' :: rest => (labels? rest).map (.named true)
  | _ => (labels? text).map (.named false)

/-- Reads a port: a star, or any number of digits. -/
def port?
    (text : List Char) :
    Option PortPattern :=
  if text = ['*'] then
    some .any
  else if !text.isEmpty && text.all Char.isDigit then
    some (.number text)
  else
    none

/-- Reads an optional path that takes up all of the text. -/
def path?
    (text : List Char) :
    Option (Option (List Char)) :=
  match text with
  | [] => some none
  | c :: rest => if c = '/' && rest.all isPathChar then some (some text) else none

/-- Reads a port after its colon, if there is one. -/
def portAndPath?
    (text : List Char) :
    Option (Option PortPattern × Option (List Char)) :=
  match text with
  | ':' :: rest => do
      let (digits, rest) := rest.span (· != '/')
      let port ← port? digits
      let path ← path? rest
      some (some port, path)
  | _ => do
      let path ← path? text
      some (none, path)

/-- Reads a host source. -/
def HostSource.parse?
    (text : List Char) :
    Option HostSource := do
  let (scheme, rest) := splitScheme text
  let (hostText, rest) := rest.span fun c => c != ':' && c != '/'
  let host ← host? hostText
  let (port, path) ← portAndPath? rest
  some { scheme, host, port, path }

/-- A star, or a number that fits into a word and does not exceed the largest port. -/
def PortPattern.isInRange : PortPattern → Bool
  | any => true
  | number digits =>
      match Text.word? digits with
      | some port => port.toNat ≤ maxPort
      | none => false

/-- A value that reads as a host source with a port in range and a path in steps. -/
def isHostSource
    (value : String) :
    Bool :=
  match HostSource.parse? value.toList with
  | some source => source.port.all PortPattern.isInRange && source.path.all isDecomposable
  | none => false

end Source
end ContentSecurity
