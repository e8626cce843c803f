/-!
# Faults of tokens

The reasons for which a validation objects to a directive.  A fault is an error
and carries the token it is about; a caution is a warning.
-/

namespace ContentSecurity

/-- A token that will not work as written. -/
inductive Fault where
  /-- A value holds a separator. -/
  | illegalCharacter
      (value : String)
  /-- A value is outside the source grammar. -/
  | unrecognizedSource
      (value : String)
  /-- A value may not name an ancestor. -/
  | unrecognizedAncestor
      (value : String)
  /-- A value is no media type. -/
  | notMediaType
      (value : String)
  /-- A value is no absolute URL. -/
  | notUrl
      (value : String)
  /-- A hash names an unsupported algorithm. -/
  | algorithmNotAllowed
      (hash : String)
  /-- A hash has no digest between its hyphen and its closing quote. -/
  | hashWithoutDigest
      (hash : String)
  /-- The digest of a hash is not in padded form. -/
  | hashNotBase64
      (hash : String)
  /-- A nonce token has no nonce between its hyphen and its closing quote. -/
  | nonceWithoutValue
      (nonce : String)
  /-- A nonce is not in padded form. -/
  | nonceNotBase64
      (nonce : String)
deriving DecidableEq, Repr

namespace Fault

/-- The text of a fault. -/
def message : Fault → String
  | illegalCharacter value =>
      "Source value " ++ value ++ " contains an illegal character: [' ', ';', ',']"
  | unrecognizedSource value =>
      "Source value " ++ value ++ " could not be validated"
  | unrecognizedAncestor value =>
      "Ancestor source " ++ value ++
        " is not one of host-source, scheme-source, 'self', or 'none'"
  | notMediaType value =>
      "Media type: " ++ value ++
        " is not valid. It must contain a value, a slash, and another value"
  | notUrl value =>
      "Value " ++ value ++ " could not be parsed into a URI"
  | algorithmNotAllowed hash =>
      "Hash algorithm " ++ hash ++ " not allowed"
  | hashWithoutDigest hash =>
      "Hash: " ++ hash ++ " does not have a valid value"
  | hashNotBase64 hash =>
      "Hash: " ++ hash ++ " is not base-64 encoded"
  | nonceWithoutValue nonce =>
      "Nonce: " ++ nonce ++ " does not have a valid value"
  | nonceNotBase64 nonce =>
      "Nonce: " ++ nonce ++ " is not base-64 encoded"

end Fault

/-- Something suspicious that still has an effect. -/
inductive Caution where
  /-- The keyword for no source stands beside other values. -/
  | noneCombined
  /-- The wildcard stands beside other values. -/
  | wildcardCombined
  /-- The level does not know the directive. -/
  | undefinedDirective
      (level directive : String)
  /-- The level considers the directive obsolete. -/
  | deprecatedDirective
      (level directive : String)
deriving DecidableEq, Repr

namespace Caution

/-- The text of a caution. -/
def message : Caution → String
  | noneCombined => "'none' should not combine with other values"
  | wildcardCombined => "wildcard * should not combine with other values"
  | undefinedDirective level directive =>
      level ++ " does not define directive " ++ directive
  | deprecatedDirective level directive =>
      level ++ " has deprecated directive " ++ directive

end Caution
end ContentSecurity
