import ContentSecurity.Directive.Validation
import ContentSecurity.Policy.Basic

/-!
# Validation of policies

A policy is validated directive by directive.  The findings are added to what
the report of the policy holds already, and the verdict is about all of it.
-/

namespace ContentSecurity
namespace Policy

/-- Adds what a level has to say about the name of a directive. -/
def checkLevel
    (level : Level)
    (report : Report)
    (d : Directive) :
    Report :=
  let report :=
    if level.defines d.name then
      report
    else
      d.caution report (.undefinedDirective level.name d.name)
  if level.deprecates d.name then
    d.caution report (.deprecatedDirective level.name d.name)
  else
    report

/-- Adds the findings about one directive. -/
def checkDirective
    (level : Level)
    (report : Report)
    (d : Directive) :
    Report :=
  checkLevel level (d.validate report) d

/-- The policy with its findings added to its report. -/
def validate
    (policy : Policy) :
    Policy :=
  { policy with report := policy.directives.foldl (checkDirective policy.level) policy.report }

/-- The verdict: the report holds no error. -/
def hasNoErrors
    (policy : Policy) :
    Bool :=
  policy.report.hasNoErrors

end Policy
end ContentSecurity
