import ContentSecurity.Header.Error
import ContentSecurity.Text.Decimal

/-!
# Strict transport security

Tells a browser to use encrypted connections for a number of seconds.
-/

namespace ContentSecurity

/-- The parameters of strict transport security. -/
structure TransportSecurity where
  /-- Seconds for which a browser remembers the rule. -/
  maxAge : UInt64
  includeSubdomains : Bool
  preload : Bool
deriving DecidableEq, Repr

namespace TransportSecurity

/-- The field name. -/
def fieldName : String := "Strict-Transport-Security"

/-- One year, which is also the least that a preload list takes. -/
def standardMaxAge : UInt64 := 31536000

/-- The rule for a number of seconds, with subdomains and without preloading. -/
def ofMaxAge
    (maxAge : UInt64) :
    TransportSecurity :=
  { maxAge, includeSubdomains := true, preload := false }

/-- The rule for one year. -/
def standard : TransportSecurity :=
  ofMaxAge standardMaxAge

/-- The field value. -/
def value
    (config : TransportSecurity) :
    String :=
  "max-age=" ++ String.ofList (Text.decimal config.maxAge.toNat) ++
    (if config.includeSubdomains then "; includeSubDomains" else "") ++
    (if config.preload then "; preload" else "")

/-- A preload list takes only hosts with their subdomains and for at least a year. -/
def fault?
    (config : TransportSecurity) :
    Option HeaderFault :=
  if config.preload && !config.includeSubdomains then
    some .preloadWithoutSubdomains
  else if config.preload && config.maxAge < standardMaxAge then
    some (.preloadTooShort standardMaxAge.toNat)
  else
    none

end TransportSecurity
end ContentSecurity
