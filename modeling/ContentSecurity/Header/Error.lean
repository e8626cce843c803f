import ContentSecurity.Text.Decimal

/-!
# Reasons against sending a header
-/

namespace ContentSecurity

/-- A configuration that makes no sense for its header. -/
inductive HeaderFault where
  /-- A preload list takes no host without its subdomains. -/
  | preloadWithoutSubdomains
  /-- A preload list takes no host for less than this many seconds. -/
  | preloadTooShort
      (least : Nat)
  /-- An origin is asked for and none is given. -/
  | originMissing
  /-- The receiver of reports is no URL. -/
  | receiverNotUrl
  /-- A filter that is off cannot block. -/
  | blocksWhileDisabled
  /-- A filter that is off cannot report. -/
  | reportsWhileDisabled
deriving DecidableEq, Repr

/-- The text of a fault. -/
def HeaderFault.message : HeaderFault → String
  | preloadWithoutSubdomains => "preload requires includeSubDomains"
  | preloadTooShort least =>
      "preload requires a max-age of at least " ++ String.ofList (Text.decimal least)
  | originMissing => "When using ALLOW-FROM, a valid origin must be set"
  | receiverNotUrl => "Report url is not a valid URL"
  | blocksWhileDisabled => "Cannot disable X-XSS-Protection, but require mode=block"
  | reportsWhileDisabled => "Cannot disable X-XSS-Protection, but enable reporting"

/-- A reason for which a header is not sent. -/
inductive HeaderError where
  /-- A policy header without a policy. -/
  | missingPolicy
  /-- A policy with these errors. -/
  | invalidPolicy
      (header : String)
      (errors : List String)
  /-- A configuration with a fault. -/
  | invalidHeader
      (header : String)
      (cause : HeaderFault)
  /-- A text that is no field name. -/
  | illegalName
  /-- A text that is no field value. -/
  | illegalValue
deriving DecidableEq, Repr

/-- The text of an error. -/
def HeaderError.message : HeaderError → String
  | missingPolicy => "Content security policy must be set"
  | invalidPolicy header errors =>
      header ++ " has an invalid policy: " ++ ", ".intercalate errors
  | invalidHeader header cause => header ++ " is invalid: " ++ cause.message
  | illegalName => "Invalid header name: invalid HTTP header name"
  | illegalValue => "Invalid header value: failed to parse header value"

end ContentSecurity
