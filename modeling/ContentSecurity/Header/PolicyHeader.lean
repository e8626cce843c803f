import ContentSecurity.Header.Error
import ContentSecurity.Policy.Validation

/-!
# Policy headers

A policy travels in a header field of one of three families, each with a variant
that only reports violations.  Validation starts from an empty report every
time, so its outcome depends on the policy alone.
-/

namespace ContentSecurity

/-- The family of the field name. -/
inductive PolicyHeaderName where
  | csp
  | xCsp
  | webkit
deriving DecidableEq, Repr

namespace PolicyHeaderName

/-- All families. -/
def all : List PolicyHeaderName :=
  [csp, xCsp, webkit]

/-- The field that enforces the policy. -/
def primary : PolicyHeaderName → String
  | csp => "Content-Security-Policy"
  | xCsp => "X-Content-Security-Policy"
  | webkit => "X-Webkit-CSP"

/-- The field that only reports violations. -/
def reportOnly
    (name : PolicyHeaderName) :
    String :=
  name.primary ++ "-Report-Only"

end PolicyHeaderName

/-- A header that carries a policy. -/
structure PolicyHeader where
  policy : Option Policy := none
  name : PolicyHeaderName := .csp
  reportOnly : Bool := false
  /-- Reduce the policy on its way out. -/
  reduce : Bool := false
deriving DecidableEq, Repr

namespace PolicyHeader

/-- The field name. -/
def fieldName
    (header : PolicyHeader) :
    String :=
  if header.reportOnly then header.name.reportOnly else header.name.primary

/-- The field value; none without a policy. -/
def value?
    (header : PolicyHeader) :
    Option String :=
  header.policy.map fun policy =>
    if header.reduce then policy.reduce.build else policy.build

/--
Validates the policy from an empty report.  The header that is left keeps the
findings; beside it stands the reason for which it is not sent, if there is one.
-/
def check
    (header : PolicyHeader) :
    Option HeaderError × PolicyHeader :=
  match header.policy with
  | none => (some .missingPolicy, header)
  | some policy =>
      let policy := policy.resetReport.validate
      let error :=
        if policy.hasNoErrors then
          none
        else
          some (.invalidPolicy header.fieldName policy.report.errors)
      (error, { header with policy := some policy })

/-- Findings of the last validation. -/
def report
    (header : PolicyHeader) :
    Report :=
  (header.policy.map (·.report)).getD {}

end PolicyHeader

/-- The policy that is sent unless another is asked for. -/
def Policy.baseline : Policy :=
  [(Directive.registered .defaultSrc).allowSelf,
   (Directive.registered .scriptSrc).allowSelf,
   (Directive.registered .styleSrc).allowSelf.allowUnsafeInline,
   (((Directive.registered .imgSrc).allowSelf).addValue "data:").addValue "https:",
   (Directive.registered .fontSrc).allowSelf,
   (Directive.registered .connectSrc).allowSelf,
   (Directive.registered .objectSrc).allowNone].foldl Policy.add {}

end ContentSecurity
