import ContentSecurity.Policy.Basic
import ContentSecurity.Proofs.Directive.WrittenForm

/-!
# The written form of a policy

A written policy consists of the written forms of those directives that have
one.  They are the directives with a plain or an experimental value: a directive
that holds only nonces or hashes is not written.
-/

namespace ContentSecurity
namespace Policy

/-- The directives that have a written form. -/
def emitted
    (policy : Policy) :
    List Directive :=
  policy.directives.filter fun d => !d.isEmpty

theorem mem_emitted_iff
    (policy : Policy)
    (d : Directive) :
    d ∈ policy.emitted ↔ d ∈ policy.directives ∧ (d.values ≠ [] ∨ d.experimental ≠ []) := by
  rw [emitted, List.mem_filter, Bool.not_eq_true', ← Bool.not_eq_true, Directive.isEmpty_iff,
    Classical.not_and_iff_not_or_not]

/-- The test that reads the stores agrees with the one that reads the written form. -/
theorem emitted_eq_filter_build
    (policy : Policy) :
    policy.emitted = policy.directives.filter (·.build ≠ "") := by
  refine List.filter_congr fun d _ => ?_
  have hbuild := d.build_eq_empty_iff
  cases hempty : d.isEmpty with
  | true => simp [hbuild.mpr hempty]
  | false => simp [hbuild, hempty]

/-- The written forms of the emitted directives make up the written policy. -/
theorem build_eq
    (policy : Policy) :
    policy.build = separator.intercalate (policy.emitted.map (·.build)) := by
  have hemitted :
      (policy.directives.map (·.build)).filter (· != "") = policy.emitted.map (·.build) := by
    rw [List.filter_map, emitted_eq_filter_build]
    congr 1
    exact List.filter_congr fun d _ => Bool.eq_iff_iff.mpr (by simp)
  rw [build, hemitted]

end Policy
end ContentSecurity
