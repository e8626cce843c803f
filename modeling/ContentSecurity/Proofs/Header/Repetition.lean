import ContentSecurity.Proofs.Header.Application
import ContentSecurity.Proofs.Policy.Edits
import ContentSecurity.Proofs.Policy.Revalidation

/-!
# Runs of a policy header

A policy header is configured, its policy is edited, it is checked and its value
is asked for, in any order.  Checks and stray validations leave findings in the
policy that the header stores.  This module shows that nothing depends on them:
the outcome of a check, the report it leaves and the value that is sent are
those of the run without all calls that only look at the header.

The step lemma is `unjudged_call`, the lemma about runs is
`unjudged_callAll_filter`, and the main statement is
`check_depends_on_content`.
-/

namespace ContentSecurity
namespace Policy

/-- Validated from an empty report, a policy holds its findings and nothing else. -/
theorem validate_resetReport
    (policy : Policy) :
    policy.resetReport.validate = { policy with report := policy.findings } := by
  rw [validate_eq]
  rfl

/-- No edit of the directives reads the report. -/
theorem resetReport_edit
    (policy : Policy)
    (e : Edit) :
    (policy.edit e).resetReport = (policy.resetReport.edit e).resetReport := by
  cases e with
  | add d =>
      by_cases hblank : Text.isBlank d.name = true <;>
        simp [edit, add, resetReport, hblank]
  | _ => rfl

end Policy

namespace PolicyHeader

/-- A call of an operation of a policy header. -/
inductive Call where
  | setPolicy
      (policy : Policy)
  | setName
      (name : PolicyHeaderName)
  | setReportOnly
      (enabled : Bool)
  | setReduce
      (enabled : Bool)
  /-- An operation on the stored policy, if there is one. -/
  | editPolicy
      (e : Policy.Edit)
  /-- Any change whatever of a directive of the stored policy. -/
  | changeDirective
      (name : String)
      (change : Directive → Directive)
  | check
  /-- Asks for the field value. -/
  | emit

/-- The header that a call leaves. -/
def call
    (header : PolicyHeader) :
    Call → PolicyHeader
  | .setPolicy policy => { header with policy := some policy }
  | .setName name => { header with name }
  | .setReportOnly enabled => { header with reportOnly := enabled }
  | .setReduce enabled => { header with reduce := enabled }
  | .editPolicy e => { header with policy := header.policy.map (·.edit e) }
  | .changeDirective name change =>
      { header with policy := header.policy.map (·.modify name change) }
  | .check => header.check.2
  | .emit => header

/-- Carries out calls, one after the other. -/
def callAll
    (header : PolicyHeader)
    (calls : List Call) :
    PolicyHeader :=
  calls.foldl call header

/-- The calls that do more than to find something or to ask for something. -/
def Call.changesContent : Call → Bool
  | .editPolicy .validate => false
  | .editPolicy .resetReport => false
  | .check => false
  | .emit => false
  | _ => true

/-- A header without what validations found in its policy. -/
def unjudged
    (header : PolicyHeader) :
    PolicyHeader :=
  { header with policy := header.policy.map (·.resetReport) }

/-- A check in terms of the findings: they are the report it leaves, and their errors decide. -/
theorem check_eq
    (header : PolicyHeader) :
    header.check =
      match header.policy with
      | none => (some .missingPolicy, header)
      | some policy =>
          (if policy.findings.errors = [] then
            none
          else
            some (.invalidPolicy header.fieldName policy.findings.errors),
          { header with policy := some { policy with report := policy.findings } }) := by
  cases hpolicy : header.policy with
  | none => simp [check, hpolicy]
  | some policy =>
      have hverdict :
          ({ policy with report := policy.findings } : Policy).hasNoErrors = true ↔
            policy.findings.errors = [] :=
        List.isEmpty_iff
      simp only [check, hpolicy, Policy.validate_resetReport, hverdict]

/-- A check does not read the report it finds. -/
theorem check_unjudged
    (header : PolicyHeader) :
    header.unjudged.check = header.check := by
  obtain ⟨policy, name, reportOnly, reduce⟩ := header
  rw [check_eq, check_eq]
  cases policy <;> rfl

/-- A check changes findings only. -/
theorem unjudged_check
    (header : PolicyHeader) :
    header.check.2.unjudged = header.unjudged := by
  obtain ⟨policy, name, reportOnly, reduce⟩ := header
  rw [check_eq]
  cases policy <;> rfl

/-- The value does not depend on findings. -/
theorem value?_unjudged
    (header : PolicyHeader) :
    header.unjudged.value? = header.value? := by
  cases hpolicy : header.policy <;> simp only [value?, unjudged, hpolicy] <;> rfl

/-- What a call makes of a header does not depend on findings. -/
theorem unjudged_call
    (header : PolicyHeader)
    (c : Call) :
    (header.call c).unjudged = (header.unjudged.call c).unjudged := by
  cases c with
  | check =>
      rw [call, call, check_unjudged]
  | editPolicy e =>
      cases hpolicy : header.policy with
      | none => simp [call, unjudged, hpolicy]
      | some policy =>
          simp only [call, unjudged, hpolicy, Option.map_some, Policy.resetReport_edit policy e]
  | _ => cases hpolicy : header.policy <;> simp only [call, unjudged, hpolicy] <;> rfl

/-- A call that changes no content changes findings only. -/
theorem unjudged_call_of_not_changesContent
    (header : PolicyHeader)
    (c : Call)
    (hc : c.changesContent = false) :
    (header.call c).unjudged = header.unjudged := by
  cases c with
  | check => exact unjudged_check header
  | emit => rfl
  | editPolicy e =>
      cases e with
      | validate | resetReport =>
          cases hpolicy : header.policy <;> simp only [call, unjudged, hpolicy] <;> rfl
      | _ => simp [Call.changesContent] at hc
  | _ => simp [Call.changesContent] at hc

/-- The calls that change no content can be left out of a run, but for what they find. -/
theorem unjudged_callAll_filter
    (header other : PolicyHeader)
    (calls : List Call)
    (hsame : header.unjudged = other.unjudged) :
    (header.callAll calls).unjudged =
      (other.callAll (calls.filter (·.changesContent))).unjudged := by
  induction calls generalizing header other with
  | nil => exact hsame
  | cons c calls ih =>
      cases hc : c.changesContent with
      | true =>
          rw [List.filter_cons_of_pos hc]
          refine ih (header.call c) (other.call c) ?_
          rw [unjudged_call header, unjudged_call other, hsame]
      | false =>
          rw [List.filter_cons_of_neg (by simp [hc])]
          refine ih (header.call c) other ?_
          rw [unjudged_call_of_not_changesContent header c hc, hsame]

/-- The outcome of a check for a header without a policy, and for no other. -/
theorem check_fst_eq_missingPolicy_iff
    (header : PolicyHeader) :
    header.check.1 = some .missingPolicy ↔ header.policy = none := by
  rw [check_eq]
  cases header.policy with
  | none => simp
  | some policy => by_cases herrors : policy.findings.errors = [] <;> simp [herrors]

/-- A header passes with a policy whose directives have no errors, each by itself. -/
theorem check_fst_eq_none_iff
    (header : PolicyHeader) :
    header.check.1 = none ↔
      ∃ policy, header.policy = some policy ∧
        ∀ d ∈ policy.directives, (d.validate {}).errors = [] := by
  rw [check_eq]
  cases header.policy with
  | none => simp
  | some policy =>
      simp only [Option.some.injEq, exists_eq_left', ← Policy.findings_errors_eq_nil_iff]
      by_cases herrors : policy.findings.errors = [] <;> simp [herrors]

/-- A check of a header with a policy: what it leaves, and what it objects to. -/
theorem check_of_policy
    (header : PolicyHeader)
    (policy : Policy)
    (hpolicy : header.policy = some policy) :
    header.check.2 = { header with policy := some { policy with report := policy.findings } } ∧
    ((∃ d ∈ policy.directives, (d.validate {}).errors ≠ []) →
      header.check.1 = some (.invalidPolicy header.fieldName policy.findings.errors)) := by
  rw [check_eq, hpolicy]
  refine ⟨rfl, fun ⟨d, hd, herrors⟩ => if_neg fun hnone => ?_⟩
  exact herrors ((Policy.findings_errors_eq_nil_iff policy).mp hnone d hd)

/-- A second check finds what the first one found. -/
theorem check_check
    (header : PolicyHeader) :
    header.check.2.check = header.check := by
  rw [← check_unjudged, unjudged_check, check_unjudged]

/-- The outcome and the report of a check depend on the field name, the directives and the level. -/
theorem check_congr
    (header other : PolicyHeader)
    (hname : other.fieldName = header.fieldName)
    (hpolicy :
      other.policy.map (fun policy => (policy.directives, policy.level)) =
        header.policy.map (fun policy => (policy.directives, policy.level))) :
    other.check.1 = header.check.1 ∧ other.check.2.report = header.check.2.report := by
  rw [check_eq, check_eq, hname]
  cases hother : other.policy with
  | none =>
      cases hheader : header.policy with
      | none => exact ⟨rfl, by simp [report, hother, hheader]⟩
      | some policy => simp [hother, hheader] at hpolicy
  | some found =>
      cases hheader : header.policy with
      | none => simp [hother, hheader] at hpolicy
      | some policy =>
          have hsame : found.findings = policy.findings := by
            simp only [hother, hheader, Option.map_some, Option.some.injEq,
              Prod.mk.injEq] at hpolicy
            rw [Policy.findings, Policy.findings, hpolicy.1, hpolicy.2]
          exact ⟨by simp only [hsame], hsame⟩

end PolicyHeader

/-- A header without what validations found. -/
def Header.unjudged : Header → Header
  | policy config => policy config.unjudged
  | header => header

/-- A check of any header changes findings only. -/
theorem Header.unjudged_check
    (header : Header) :
    header.check.2.unjudged = header.unjudged := by
  cases header with
  | policy config => exact congrArg policy config.unjudged_check
  | _ => rfl

/-- A second check of any header finds what the first one found. -/
theorem Header.check_check
    (header : Header) :
    header.check.2.check = header.check := by
  cases header with
  | policy config => simp only [check, config.check_check]
  | _ => rfl

namespace PolicyHeader

/--
After any run of calls the outcome of a check, the header it leaves and the value
that is sent are those of the run without the calls that only look.  The check
fails for want of a policy, or passes, or lists the findings of one validation
from an empty report, and a second check does the same.  No check changes what a
header sends, and sending a reduced policy leaves the stored one as it is.
-/
theorem check_depends_on_content
    (start : PolicyHeader)
    (calls : List Call) :
    let header := start.callAll calls
    let content := start.callAll (calls.filter (·.changesContent))
    (header.check.1 = some .missingPolicy ↔ header.policy = none) ∧
    (header.check.1 = none ↔
      ∃ policy, header.policy = some policy ∧
        ∀ d ∈ policy.directives, (d.validate {}).errors = []) ∧
    (∀ policy, header.policy = some policy →
      header.check.2 = { header with policy := some { policy with report := policy.findings } } ∧
      ((∃ d ∈ policy.directives, (d.validate {}).errors ≠ []) →
        header.check.1 = some (.invalidPolicy header.fieldName policy.findings.errors))) ∧
    (∀ other : PolicyHeader,
      other.fieldName = header.fieldName →
      other.policy.map (fun policy => (policy.directives, policy.level)) =
        header.policy.map (fun policy => (policy.directives, policy.level)) →
      other.check.1 = header.check.1 ∧ other.check.2.report = header.check.2.report) ∧
    (header.check = content.check ∧ header.check.2.check = header.check) ∧
    (header.fieldName = content.fieldName ∧ header.value? = content.value?) ∧
    (∀ any : Header,
      any.check.2.check = any.check ∧ any.check.2.unjudged = any.unjudged ∧
        any.check.2.fieldName = any.fieldName ∧ any.check.2.value? = any.value?) ∧
    ∀ policy, header.policy = some policy →
      let reducing := header.callAll [.setReduce true, .emit]
      reducing.value? = some policy.reduce.build ∧ reducing.policy = some policy ∧
        (reducing.call (.setReduce false)).value? = some policy.build := by
  intro header content
  have hsame : header.unjudged = content.unjudged := unjudged_callAll_filter start start calls rfl
  refine ⟨header.check_fst_eq_missingPolicy_iff, header.check_fst_eq_none_iff,
    header.check_of_policy, header.check_congr, ⟨?_, header.check_check⟩, ⟨?_, ?_⟩, ?_, ?_⟩
  · rw [← check_unjudged header, hsame, check_unjudged]
  · have hname : header.unjudged.fieldName = content.unjudged.fieldName := by rw [hsame]
    exact hname
  · rw [← value?_unjudged header, hsame, value?_unjudged]
  · intro any
    exact ⟨any.check_check, any.unjudged_check, any.fieldName_check, any.value?_check⟩
  · intro policy hpolicy
    refine ⟨?_, hpolicy, ?_⟩ <;>
      simp [callAll, call, value?, hpolicy]

/--
Stray validations before and after a change: the check reports the one error of
the directive, once, and so does the check after it.
-/
theorem check_depends_on_content_of_stray_validations :
    let policy : Policy := { directives := [(Directive.registered .imgSrc).addValue "a b"] }
    let calls : List Call :=
      [.setPolicy policy, .editPolicy .validate, .check, .emit, .setReportOnly true,
       .editPolicy .validate]
    let header := ({} : PolicyHeader).callAll calls
    let error :=
      "img-src reports a validation error: " ++
        "Source value a b contains an illegal character: [' ', ';', ',']"
    header.report.errors = [error, error] ∧
      header.check.1 = some (.invalidPolicy "Content-Security-Policy-Report-Only" [error]) ∧
      header.check.2.report.errors = [error] ∧ header.check.2.check = header.check := by
  intro policy calls header error
  obtain ⟨-, -, hpolicy, -, ⟨-, hagain⟩, -⟩ := check_depends_on_content {} calls
  obtain ⟨hleft, herror⟩ := hpolicy _ rfl
  refine ⟨by decide, (herror (by decide)).trans (by decide), ?_, hagain⟩
  rw [hleft]
  decide

end PolicyHeader
end ContentSecurity
