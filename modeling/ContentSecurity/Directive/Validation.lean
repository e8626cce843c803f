import ContentSecurity.Base64
import ContentSecurity.Directive.Basic
import ContentSecurity.Directive.Fault
import ContentSecurity.Report
import ContentSecurity.Source.Host
import ContentSecurity.Url.Absolute

/-!
# Validation of directives

Validation walks through the stores of a directive and adds to a report what it
finds: plain values first, then experimental values, then hashes and nonces.  It
never looks at what the report holds already.
-/

namespace ContentSecurity
namespace Directive

/-- Adds an error about a token of the directive. -/
def fault
    (d : Directive)
    (report : Report)
    (cause : Fault) :
    Report :=
  report.addError d.name cause.message

/-- Adds a warning about the directive. -/
def caution
    (d : Directive)
    (report : Report)
    (cause : Caution) :
    Report :=
  report.addWarning d.name cause.message

/-- A value in the form that the source grammar reads. -/
def normalize
    (value : String) :
    String :=
  Text.lower (Text.trim value)

/-- A value of the source grammar that is no keyword. -/
def isLocation
    (value : String) :
    Bool :=
  Source.isSchemeSource value || Source.isHostSource value

/-- Checks a value of a source list. -/
def checkSource
    (d : Directive)
    (allowUnsafe : Bool)
    (report : Report)
    (value : String) :
    Report :=
  let normal := normalize value
  let isKeyword := Source.isKeyword normal || allowUnsafe && Source.isUnsafeKeyword normal
  if !Source.hasLegalCharacters normal then
    d.fault report (.illegalCharacter value)
  else if isKeyword || isLocation normal then
    report
  else
    d.fault report (.unrecognizedSource value)

/-- Checks a value that names an ancestor. -/
def checkAncestor
    (d : Directive)
    (report : Report)
    (value : String) :
    Report :=
  let normal := normalize value
  if !Source.hasLegalCharacters normal then
    d.fault report (.illegalCharacter value)
  else if Source.isKeyword normal || isLocation normal then
    report
  else
    d.fault report (.unrecognizedAncestor value)

/-- Checks a value by the character gate alone. -/
def checkCharacters
    (d : Directive)
    (report : Report)
    (value : String) :
    Report :=
  if Source.hasLegalCharacters (Text.trim value) then
    report
  else
    d.fault report (.illegalCharacter value)

/-- A type and a subtype with one slash between them. -/
def isMediaType
    (value : String) :
    Bool :=
  match value.toList.span (· != '/') with
  | (kind, '/' :: subtype) =>
      !subtype.contains '/' && !kind.all Text.isBlankChar && !subtype.all Text.isBlankChar
  | _ => false

/-- Checks a media type. -/
def checkMediaType
    (d : Directive)
    (report : Report)
    (value : String) :
    Report :=
  if isMediaType value then report else d.fault report (.notMediaType value)

/-- Checks the address of a report receiver. -/
def checkUrl
    (d : Directive)
    (report : Report)
    (value : String) :
    Report :=
  if Url.isAbsolute (Text.trim value) then report else d.fault report (.notUrl value)

/-- The part of a token between its first hyphen and its last quote. -/
def tokenBody?
    (token : String) :
    Option String :=
  match token.toList.dropWhile (· != '-') with
  | [] => none
  | _ :: rest =>
      match rest.reverse.dropWhile (· != '\'') with
      | [] => none
      | _ :: body => some (String.ofList body.reverse)

/-- A token that begins with a quote and the name of a supported algorithm. -/
def namesAlgorithm
    (token : String) :
    Bool :=
  match token.toList with
  | '\'' :: rest => Digest.Algorithm.all.any fun a => a.name.toList.isPrefixOf rest
  | _ => false

/-- Checks a hash token; the algorithm and the digest are judged apart. -/
def checkHash
    (d : Directive)
    (report : Report)
    (hash : String) :
    Report :=
  let report := if namesAlgorithm hash then report else d.fault report (.algorithmNotAllowed hash)
  match tokenBody? hash with
  | none => d.fault report (.hashWithoutDigest hash)
  | some body => if Base64.isPadded body then report else d.fault report (.hashNotBase64 hash)

/-- The nonce of a nonce token. -/
def nonceBody?
    (token : String) :
    Option String :=
  if "'nonce-".toList.isPrefixOf token.toList then tokenBody? token else none

/-- Checks a nonce token. -/
def checkNonce
    (d : Directive)
    (report : Report)
    (nonce : String) :
    Report :=
  match nonceBody? nonce with
  | none => d.fault report (.nonceWithoutValue nonce)
  | some body => if Base64.isPadded body then report else d.fault report (.nonceNotBase64 nonce)

/-- A value that equals a keyword up to the case of its letters is among the plain values. -/
def mentions
    (d : Directive)
    (keyword : String) :
    Bool :=
  d.values.any fun value => Text.equalIgnoringAsciiCase (Text.trim value) keyword

/-- Warns of values that make no sense beside others. -/
def checkCombinations
    (d : Directive)
    (report : Report) :
    Report :=
  if d.values.length ≤ 1 then
    report
  else
    let report :=
      if d.mentions Source.noneKeyword then d.caution report .noneCombined else report
    if d.mentions Source.wildcard then d.caution report .wildcardCombined else report

/-- Checks the plain values by the rule of the kind. -/
def checkValues
    (d : Directive)
    (report : Report) :
    Report :=
  match d.kind with
  | .keyword .sandbox => report
  | .keyword .pluginTypes => d.values.foldl d.checkMediaType report
  | .keyword .reportUri => d.values.foldl d.checkUrl report
  | .keyword .frameAncestors => d.values.foldl d.checkAncestor report
  | .keyword .experimental => d.values.foldl d.checkCharacters report
  | .sourceList => d.values.foldl (d.checkSource false) (d.checkCombinations report)
  | .inline _ _ => d.values.foldl (d.checkSource true) (d.checkCombinations report)

/-- Adds the findings about the directive to a report. -/
def validate
    (d : Directive)
    (report : Report) :
    Report :=
  let report := d.checkValues report
  let report := d.experimental.foldl d.checkCharacters report
  let report := d.hashes.foldl d.checkHash report
  d.nonces.foldl d.checkNonce report

end Directive
end ContentSecurity
