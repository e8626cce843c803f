import ContentSecurity.Header.PolicyHeader
import ContentSecurity.Proofs.Policy.Findings
import ContentSecurity.Proofs.Policy.Reduction

/-!
# Validating a policy and sending its reduction

A policy header that reduces its policy on the way out validates the policy as
it is stored, not as it is sent.  This module relates the two: everything that
is found in the reduced policy was found, in the same order, in the stored one.

The converse fails, and should: a directive without values is not sent, so what
is wrong with its nonces and hashes does not matter.
-/

namespace ContentSecurity
namespace Policy

variable (policy : Policy)

/-- The errors of the reduced policy are among those of the policy, in the same order. -/
theorem errors_validate_reduce_sublist :
    policy.reduce.resetReport.validate.report.errors.Sublist
      policy.resetReport.validate.report.errors := by
  have hlines :
      ∀ d : Directive,
        (d.removeDuplicates.faults.map d.removeDuplicates.errorLine).Sublist
          (d.faults.map d.errorLine) :=
    fun d => d.faults_removeDuplicates_sublist.map d.errorLine
  have hsublist :=
    policy.flatMap_directives_reduce_sublist (fun d => d.faults.map d.errorLine) hlines
  simpa only [errors_validate, resetReport, List.nil_append] using hsublist

/-- The warnings of the reduced policy are among those of the policy, in the same order. -/
theorem warnings_validate_reduce_sublist :
    policy.reduce.resetReport.validate.report.warnings.Sublist
      policy.resetReport.validate.report.warnings := by
  -- The level judges the name, which a reduction keeps.
  have hlines :
      ∀ d : Directive,
        ((d.removeDuplicates.cautions ++ levelCautions policy.level d.removeDuplicates).map
            d.removeDuplicates.warningLine).Sublist
          ((d.cautions ++ levelCautions policy.level d).map d.warningLine) :=
    fun d => (d.cautions_removeDuplicates_sublist.append_right _).map d.warningLine
  have hsublist :=
    policy.flatMap_directives_reduce_sublist
      (fun d => (d.cautions ++ levelCautions policy.level d).map d.warningLine) hlines
  simpa only [warnings_validate, resetReport, reduce, List.nil_append] using hsublist

/-- A reduction loses no fault of a directive that is written. -/
theorem faults_reduce_eq_nil_iff :
    (∀ r ∈ policy.reduce.directives, r.faults = []) ↔ ∀ d ∈ policy.emitted, d.faults = [] := by
  rw [directives_reduce, List.forall_mem_map]
  exact forall₂_congr fun d _ => d.faults_removeDuplicates_eq_nil_iff

/-- Only the directives that are written have to be right for the reduced policy to pass. -/
theorem hasNoErrors_validate_reduce_iff :
    policy.reduce.resetReport.validate.hasNoErrors = true ↔
      ∀ d ∈ policy.directives, d.values ≠ [] ∨ d.experimental ≠ [] →
        (d.validate {}).errors = [] := by
  rw [hasNoErrors_resetReport_validate_iff, faults_reduce_eq_nil_iff]
  simp only [mem_emitted_iff, and_imp]
  exact forall₃_congr fun d _ _ => (d.errors_validate_eq_self_iff {}).symm

/-- The reduction of a policy passes where the policy does, and into the same report. -/
theorem hasNoErrors_validate_reduce
    (hvalid : policy.validate.hasNoErrors = true) :
    policy.reduce.validate.hasNoErrors = true := by
  rw [hasNoErrors_validate_iff] at hvalid ⊢
  obtain ⟨hreport, hfaults⟩ := hvalid
  refine ⟨hreport, (faults_reduce_eq_nil_iff policy).mpr fun d hd => ?_⟩
  exact hfaults d ((mem_emitted_iff policy d).mp hd).1

end Policy

namespace PolicyHeader

/-- A header passes exactly with a policy that passes from an empty report, and keeps it. -/
theorem check_eq_none_iff
    (header : PolicyHeader) :
    header.check.1 = none ↔
      ∃ policy, header.policy = some policy ∧
        policy.resetReport.validate.hasNoErrors = true ∧
          header.check.2 = { header with policy := some policy.resetReport.validate } := by
  cases hpolicy : header.policy with
  | none => simp [check, hpolicy]
  | some policy => simp [check, hpolicy]

/--
Whatever is found in a reduced policy is found in the policy as well, and in the
same order; the reduced policy passes exactly if the directives with a plain or
an experimental value do.  So a header that passes its check, and that reduces
its policy on the way out, sends a policy that passes by itself.
-/
theorem check_covers_reduced_policy
    (policy : Policy) :
    policy.reduce.resetReport.validate.report.errors.Sublist
      policy.resetReport.validate.report.errors ∧
    policy.reduce.resetReport.validate.report.warnings.Sublist
      policy.resetReport.validate.report.warnings ∧
    (policy.reduce.resetReport.validate.hasNoErrors = true ↔
      ∀ d ∈ policy.directives, d.values ≠ [] ∨ d.experimental ≠ [] →
        (d.validate {}).errors = []) ∧
    ∀ header : PolicyHeader,
      header.reduce = true → header.check.1 = none →
        ∃ kept : Policy,
          header.check.2.policy = some kept ∧
          header.value? = some kept.reduce.build ∧
          header.check.2.value? = some kept.reduce.build ∧
          kept.reduce.validate.hasNoErrors = true ∧
          kept.reduce.resetReport.validate.hasNoErrors = true := by
  refine ⟨policy.errors_validate_reduce_sublist, policy.warnings_validate_reduce_sublist,
    policy.hasNoErrors_validate_reduce_iff, ?_⟩
  intro header hreduce hcheck
  obtain ⟨stored, hpolicy, hvalid, hleft⟩ := (check_eq_none_iff header).mp hcheck
  -- The kept policy differs from the stored one in its report, which holds no error now.
  have hagain : stored.resetReport.validate.validate.hasNoErrors = true := by
    have hfaults := (Policy.hasNoErrors_resetReport_validate_iff stored).mp hvalid
    have hreport : stored.resetReport.validate.report.errors = [] := List.isEmpty_iff.mp hvalid
    exact (Policy.hasNoErrors_validate_iff _).mpr ⟨hreport, hfaults⟩
  refine ⟨stored.resetReport.validate, ?_, ?_, ?_, ?_, ?_⟩
  · rw [hleft]
  · rw [value?, hpolicy, hreduce]
    rfl
  · rw [hleft, value?, hreduce]
    rfl
  · exact Policy.hasNoErrors_validate_reduce _ hagain
  · exact Policy.hasNoErrors_validate_reduce _ hvalid

/--
The value of the script directive repeats, and the style directive, which only
holds a nonce, is dropped: the header passes, and so does what it sends.
-/
theorem check_covers_reduced_policy_of_script_header :
    let policy : Policy :=
      { directives :=
          [(Directive.registered .scriptSrc).editAll [.value "'none'", .value "'none'"],
           (Directive.registered .styleSrc).editAll [.nonce "cmFuZG9t"]] }
    let header : PolicyHeader := { policy := some policy, reduce := true }
    header.value? = some "script-src 'none'" ∧
      ∃ kept : Policy,
        header.check.2.policy = some kept ∧ kept.reduce.validate.hasNoErrors = true := by
  intro policy header
  obtain ⟨kept, hkept, -, -, hvalid, -⟩ :=
    (check_covers_reduced_policy policy).2.2.2 header rfl (by decide)
  exact ⟨by decide, kept, hkept, hvalid⟩

end PolicyHeader
end ContentSecurity
