import ContentSecurity.Proofs.Policy.Findings
import Mathlib.Logic.Function.Iterate

/-!
# Repeated validation

Validation reads the directives and the level of a policy and appends to its
report, so validating again appends the same findings again.  This module says
what is appended: what each directive contributes by itself, in the order of the
directives.

The step lemma is `validate_eq`, the lemma about a run of validations is
`iterate_validate`.  The verdict after a run depends on the errors that the
report held before and on the directives, and on nothing else.
-/

namespace ContentSecurity
namespace Policy

/--
What a directive adds to the report of its policy: the findings of its own
validation, with the cautions about its name behind its other warnings.
-/
def contribution
    (level : Level)
    (d : Directive) :
    Report :=
  { errors := (d.validate {}).errors
    warnings := (d.validate {}).warnings ++ (levelCautions level d).map d.warningLine }

/-- What a validation adds to the report: the contributions, directive by directive. -/
def findings
    (policy : Policy) :
    Report :=
  { errors := policy.directives.flatMap fun d => (contribution policy.level d).errors
    warnings := policy.directives.flatMap fun d => (contribution policy.level d).warnings }

/-- A contribution in terms of the faults and cautions about the directive. -/
theorem contribution_eq
    (level : Level)
    (d : Directive) :
    contribution level d =
      { errors := d.faults.map d.errorLine
        warnings := (d.cautions ++ levelCautions level d).map d.warningLine } := by
  rw [contribution, Directive.validate_eq_append, List.map_append, List.nil_append,
    List.nil_append]

/-- One validation appends the findings and changes nothing else. -/
theorem validate_eq
    (policy : Policy) :
    policy.validate =
      { policy with
        report :=
          { errors := policy.report.errors ++ policy.findings.errors
            warnings := policy.report.warnings ++ policy.findings.warnings } } := by
  rw [validate, foldl_checkDirective]
  simp only [findings, contribution_eq]

/-- A run of validations appends the findings once for each validation. -/
theorem iterate_validate
    (policy : Policy)
    (k : Nat) :
    validate^[k] policy =
      { policy with
        report :=
          { errors := policy.report.errors ++ (List.replicate k policy.findings.errors).flatten
            warnings :=
              policy.report.warnings ++
                (List.replicate k policy.findings.warnings).flatten } } := by
  induction k with
  | zero => simp
  | succ k ih =>
      -- The findings read no report, so they are the same after `k` validations.
      have hsame : (validate^[k] policy).findings = policy.findings := by
        rw [ih]
        rfl
      rw [Function.iterate_succ_apply', validate_eq, hsame, ih]
      simp only [List.replicate_succ', List.flatten_append, List.flatten_singleton,
        List.append_assoc]

theorem findings_errors_eq_nil_iff
    (policy : Policy) :
    policy.findings.errors = [] ↔ ∀ d ∈ policy.directives, (d.validate {}).errors = [] :=
  List.flatMap_eq_nil_iff

/-- The verdict of the last of one or more validations. -/
theorem hasNoErrors_iterate_validate_iff
    (policy : Policy)
    (k : Nat) :
    (validate^[k + 1] policy).hasNoErrors = true ↔
      policy.report.errors = [] ∧ ∀ d ∈ policy.directives, (d.validate {}).errors = [] := by
  rw [← findings_errors_eq_nil_iff, iterate_validate, hasNoErrors, Report.hasNoErrors]
  simp only [List.replicate_succ, List.flatten_cons, List.isEmpty_iff, List.append_eq_nil_iff]
  constructor
  · -- The first copy of the findings shows whether there are any.
    rintro ⟨hprior, hfirst, -⟩
    exact ⟨hprior, hfirst⟩
  · rintro ⟨hprior, hfirst⟩
    simp [hprior, hfirst]

/-- Every line of a contribution names the directive and says which kind of finding it is. -/
theorem contribution_lines
    (level : Level)
    (d : Directive) :
    (∀ line ∈ (contribution level d).errors,
      ∃ message, line = d.name ++ " reports a validation error: " ++ message) ∧
    ∀ line ∈ (contribution level d).warnings,
      ∃ message, line = d.name ++ " reports a validation warning: " ++ message := by
  rw [contribution_eq]
  constructor
  · intro line hline
    obtain ⟨cause, -, rfl⟩ := List.mem_map.mp hline
    exact ⟨cause.message, rfl⟩
  · intro line hline
    obtain ⟨cause, -, rfl⟩ := List.mem_map.mp hline
    exact ⟨cause.message, rfl⟩

/--
Any number of validations in a row append the findings of the directives that
many times, whatever the report held before, and change nothing else.  The
verdict is that neither the report held an error nor any directive has one by
itself; the level has a part in the warnings only.
-/
theorem repeated_validation_appends_findings
    (policy : Policy) :
    (∀ k,
      validate^[k] policy =
        { policy with
          report :=
            { errors :=
                policy.report.errors ++ (List.replicate k policy.findings.errors).flatten
              warnings :=
                policy.report.warnings ++
                  (List.replicate k policy.findings.warnings).flatten } }) ∧
    (∀ k,
      (validate^[k + 1] policy).hasNoErrors = true ↔
        policy.report.errors = [] ∧ ∀ d ∈ policy.directives, (d.validate {}).errors = []) ∧
    (∀ d ∈ policy.directives,
      (∀ line ∈ (contribution policy.level d).errors,
        ∃ message, line = d.name ++ " reports a validation error: " ++ message) ∧
      ∀ line ∈ (contribution policy.level d).warnings,
        ∃ message, line = d.name ++ " reports a validation warning: " ++ message) ∧
    ∀ level : Level,
      let judged : Policy := { policy with level := level, report := {} }
      judged.validate.report.errors = policy.findings.errors ∧
        judged.validate.hasNoErrors = policy.resetReport.validate.hasNoErrors := by
  refine ⟨iterate_validate policy, hasNoErrors_iterate_validate_iff policy,
    fun d _ => contribution_lines policy.level d, fun level => ?_⟩
  intro judged
  have herrors : judged.validate.report.errors = policy.findings.errors := by
    rw [validate_eq]
    rfl
  refine ⟨herrors, ?_⟩
  -- Both verdicts are read off the same errors.
  have hreset : policy.resetReport.validate.report.errors = policy.findings.errors := by
    rw [validate_eq]
    rfl
  rw [hasNoErrors, hasNoErrors, Report.hasNoErrors, Report.hasNoErrors, herrors, hreset]

/--
An obsolete directive with an illegal value before an unknown one, validated
twice into a report that holds an error already.
-/
theorem repeated_validation_appends_findings_of_frame_policy :
    let policy : Policy :=
      { directives :=
          [(Directive.registered .frameSrc).addValue "a;b", Directive.unregistered "x-new"]
        report := { errors := ["earlier"] } }
    let error :=
      "frame-src reports a validation error: " ++
        "Source value a;b contains an illegal character: [' ', ';', ',']"
    let warnings :=
      ["frame-src reports a validation warning: CSP2 has deprecated directive frame-src",
       "x-new reports a validation warning: CSP2 does not define directive x-new"]
    (validate^[2] policy).report =
      { errors := ["earlier", error, error], warnings := warnings ++ warnings } := by
  intro policy error warnings
  have herrors : policy.findings.errors = [error] := by decide
  have hwarnings : policy.findings.warnings = warnings := by decide
  rw [(repeated_validation_appends_findings policy).1 2, herrors, hwarnings]
  rfl

end Policy
end ContentSecurity
