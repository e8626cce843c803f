import ContentSecurity.Proofs.Directive.Deduplication
import ContentSecurity.Proofs.Policy.WrittenForm
import Mathlib.Data.List.Forall2

/-!
# Reduction of policies

A reduction drops repeated values, and then the directives without a written
form.  What is left are the emitted directives, one for one and in their order,
under their names and with the same set of tokens.  A policy whose values do not
repeat keeps its written form to the letter, and a second reduction finds nothing
to do.

The equation behind all of this is `directives_reduce`.
-/

namespace ContentSecurity

/--
One directive is another one without repeated plain values.  Its other tokens
are the same ones, at the same places.
-/
structure Directive.IsDeduplicated
    (d r : Directive) : Prop where
  name : r.name = d.name
  kind : r.kind = d.kind
  values : Directive.KeepsFirstOccurrences d.values r.values
  experimental : r.experimental = d.experimental
  nonces : r.nonces = d.nonces
  hashes : r.hashes = d.hashes

theorem Directive.isDeduplicated_removeDuplicates
    (d : Directive) :
    d.IsDeduplicated d.removeDuplicates where
  name := rfl
  kind := rfl
  values := keepsFirstOccurrences_firstOccurrences d.values
  experimental := rfl
  nonces := rfl
  hashes := rfl

namespace Policy

variable (policy : Policy)

/-- A reduction keeps the emitted directives, without their repeated values. -/
theorem directives_reduce :
    policy.reduce.directives = policy.emitted.map (·.removeDuplicates) := by
  have hkept :
      policy.directives.filter ((fun r => !r.isEmpty) ∘ Directive.removeDuplicates) =
        policy.emitted :=
    List.filter_congr fun d _ => by rw [Function.comp_apply, Directive.isEmpty_removeDuplicates]
  simp only [reduce, List.filter_map, hkept]

theorem emitted_reduce :
    policy.reduce.emitted = policy.reduce.directives := by
  rw [emitted, directives_reduce, emitted]
  refine List.filter_eq_self.mpr fun r hr => ?_
  obtain ⟨d, hd, rfl⟩ := List.mem_map.mp hr
  rw [Directive.isEmpty_removeDuplicates]
  exact (List.mem_filter.mp hd).2

/-- What is listed directive by directive is listed in the same order after a reduction. -/
theorem flatMap_directives_reduce_sublist
    {α : Type}
    (lines : Directive → List α)
    (hlines : ∀ d : Directive, (lines d.removeDuplicates).Sublist (lines d)) :
    (policy.reduce.directives.flatMap lines).Sublist (policy.directives.flatMap lines) := by
  have hkept :
      (policy.emitted.flatMap fun d => lines d.removeDuplicates).Sublist
        (policy.emitted.flatMap lines) :=
    List.Sublist.flatMap_right _ fun d _ => hlines d
  have hdropped : (policy.emitted.flatMap lines).Sublist (policy.directives.flatMap lines) :=
    List.Sublist.flatMap List.filter_sublist lines
  rw [directives_reduce, List.flatMap_map]
  exact hkept.trans hdropped

theorem reduce_reduce :
    policy.reduce.reduce = policy.reduce := by
  have hdirectives : policy.reduce.reduce.directives = policy.reduce.directives := by
    -- All directives of the reduced policy are emitted, so only the values could change.
    rw [directives_reduce, emitted_reduce, directives_reduce, List.map_map]
    exact List.map_congr_left fun d _ => d.removeDuplicates_removeDuplicates
  have hrebuilt :
      policy.reduce.reduce = { policy.reduce with directives := policy.reduce.reduce.directives } :=
    rfl
  rw [hrebuilt, hdirectives]

/-- Where no value repeats, the written form is kept to the letter. -/
theorem build_reduce_of_nodup
    (hnodup : ∀ d ∈ policy.directives, d.values.Nodup) :
    policy.reduce.build = policy.build := by
  have hsame : policy.emitted.map (·.removeDuplicates) = policy.emitted :=
    calc
      policy.emitted.map (·.removeDuplicates)
        = policy.emitted.map id :=
          List.map_congr_left fun d hd =>
            d.removeDuplicates_of_nodup (hnodup d ((mem_emitted_iff policy d).mp hd).1)
      _ = policy.emitted := List.map_id _
  rw [build_eq, build_eq, emitted_reduce, directives_reduce, hsame]

/--
A reduction keeps the directives that have a written form, in their order, each
without its repeated values, and leaves all else of the policy alone.  So the
directives that are written have the same names and sets of tokens before and
after it.  A reduced policy is not reduced any further, and where no value
repeats the same text is written.
-/
theorem reduce_preserves_emitted
    (policy : Policy) :
    List.Forall₂ Directive.IsDeduplicated
      (policy.directives.filter (·.build ≠ "")) policy.reduce.directives ∧
    policy.reduce.level = policy.level ∧
    policy.reduce.report = policy.report ∧
    List.Forall₂
      (fun d r => r.name = d.name ∧ ∀ token, token ∈ r.tokens ↔ token ∈ d.tokens)
      (policy.directives.filter (·.build ≠ ""))
      (policy.reduce.directives.filter (·.build ≠ "")) ∧
    policy.reduce.reduce = policy.reduce ∧
    ((∀ d ∈ policy.directives, d.values.Nodup) → policy.reduce.build = policy.build) := by
  have hdirectives :
      List.Forall₂ Directive.IsDeduplicated policy.emitted policy.reduce.directives := by
    rw [directives_reduce, List.forall₂_map_right_iff, List.forall₂_same]
    exact fun d _ => d.isDeduplicated_removeDuplicates
  have htokens :
      List.Forall₂ (fun d r => r.name = d.name ∧ ∀ token, token ∈ r.tokens ↔ token ∈ d.tokens)
        policy.emitted policy.reduce.emitted := by
    rw [emitted_reduce, directives_reduce, List.forall₂_map_right_iff, List.forall₂_same]
    exact fun d _ => ⟨rfl, d.mem_tokens_removeDuplicates⟩
  rw [emitted_eq_filter_build] at hdirectives
  rw [emitted_eq_filter_build, emitted_eq_filter_build] at htokens
  exact ⟨hdirectives, rfl, rfl, htokens, reduce_reduce policy, build_reduce_of_nodup policy⟩

/-- Nothing repeats, and the directive that only holds a nonce is dropped. -/
theorem reduce_preserves_emitted_of_script_policy :
    let policy : Policy :=
      { directives :=
          [(Directive.registered .scriptSrc).editAll
              [.value "'self'", .experimental "'self'", .nonce "cmFuZG9t"],
           (Directive.registered .styleSrc).editAll [.nonce "cmFuZG9t"]] }
    policy.reduce.directives.length = 1 ∧
      policy.reduce.build = policy.build ∧
        policy.build = "script-src 'self' 'self' 'nonce-cmFuZG9t'" := by
  intro policy
  have hbuild := (reduce_preserves_emitted policy).2.2.2.2.2 (by decide)
  exact ⟨by decide, hbuild, by decide⟩

end Policy
end ContentSecurity
