import ContentSecurity.Policy.Validation
import ContentSecurity.Proofs.Directive.Findings

/-!
# Findings about a policy

A policy is validated directive by directive into its own report.  What the
validation adds are the errors of the directives in their order, and their
warnings, each directive's own before those about its name.  Only the warnings
about names depend on the level of the policy.
-/

namespace ContentSecurity
namespace Policy

/-- Cautions about the name of a directive: it is unknown to the level, it is obsolete. -/
def levelCautions
    (level : Level)
    (d : Directive) :
    List Caution :=
  (if level.defines d.name then [] else [.undefinedDirective level.name d.name]) ++
    (if level.deprecates d.name then [.deprecatedDirective level.name d.name] else [])

theorem checkLevel_eq
    (level : Level)
    (report : Report)
    (d : Directive) :
    checkLevel level report d = (levelCautions level d).foldl d.caution report := by
  simp only [checkLevel, levelCautions]
  split <;> split <;> rfl

theorem checkDirective_eq
    (level : Level)
    (report : Report)
    (d : Directive) :
    checkDirective level report d =
      { errors := report.errors ++ d.faults.map d.errorLine
        warnings :=
          report.warnings ++ (d.cautions ++ levelCautions level d).map d.warningLine } := by
  rw [checkDirective, checkLevel_eq, Directive.foldl_caution, Directive.validate_eq_append,
    List.map_append, List.append_assoc]

/-- Directives that are checked in turn append their findings in turn. -/
theorem foldl_checkDirective
    (level : Level)
    (directives : List Directive)
    (report : Report) :
    directives.foldl (checkDirective level) report =
      { errors := report.errors ++ directives.flatMap fun d => d.faults.map d.errorLine
        warnings :=
          report.warnings ++
            directives.flatMap fun d =>
              (d.cautions ++ levelCautions level d).map d.warningLine } := by
  induction directives generalizing report with
  | nil => simp
  | cons d directives ih =>
      rw [List.foldl_cons, ih, checkDirective_eq, List.flatMap_cons, List.flatMap_cons,
        List.append_assoc, List.append_assoc]

/-- A validation appends the errors of the directives, in their order. -/
theorem errors_validate
    (policy : Policy) :
    policy.validate.report.errors =
      policy.report.errors ++ policy.directives.flatMap fun d => d.faults.map d.errorLine := by
  rw [validate, foldl_checkDirective]

/-- A validation appends the warnings of the directives, in their order. -/
theorem warnings_validate
    (policy : Policy) :
    policy.validate.report.warnings =
      policy.report.warnings ++
        policy.directives.flatMap fun d =>
          (d.cautions ++ levelCautions policy.level d).map d.warningLine := by
  rw [validate, foldl_checkDirective]

/-- A policy passes exactly if its report held no error and no directive has a fault. -/
theorem hasNoErrors_validate_iff
    (policy : Policy) :
    policy.validate.hasNoErrors = true ↔
      policy.report.errors = [] ∧ ∀ d ∈ policy.directives, d.faults = [] := by
  rw [hasNoErrors, Report.hasNoErrors, errors_validate]
  simp

/-- From an empty report, a policy passes exactly if no directive has a fault. -/
theorem hasNoErrors_resetReport_validate_iff
    (policy : Policy) :
    policy.resetReport.validate.hasNoErrors = true ↔ ∀ d ∈ policy.directives, d.faults = [] := by
  have hreset := hasNoErrors_validate_iff policy.resetReport
  simpa [resetReport] using hreset

end Policy
end ContentSecurity
