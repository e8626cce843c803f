import ContentSecurity.Proofs.Directive.Tokens
import ContentSecurity.Proofs.Policy.Findings
import ContentSecurity.Proofs.Policy.WrittenForm

/-!
# Separation of tokens in a written policy

A browser cuts a written policy into directives and a directive into tokens.
This module shows that a policy that passes its validation is cut exactly where
it was joined: every directive and every token arrives as it was stored, and no
token turns into another token or into another directive.

Only directives under the character gate are considered here.  Their names, and
the algorithms of their hashes, come from the caller and are checked by no rule,
so they are assumed to hold no separator.
-/

namespace ContentSecurity
namespace Directive

/-- An edit that names no hash algorithm with a separator in it. -/
def Edit.NamesPlainAlgorithm : Edit → Prop
  | .hash algorithm _ => HoldsNoSeparator algorithm
  | _ => True

instance
    (e : Edit) :
    Decidable e.NamesPlainAlgorithm :=
  match e with
  | .hash algorithm _ => inferInstanceAs (Decidable (HoldsNoSeparator algorithm))
  | .value _ | .experimental _ | .nonce _ | .hashOf _ _ => isTrue trivial
  | .resetNonces | .resetHashes | .removeDuplicates => isTrue trivial

/--
A directive under a name without separators, of a kind with the character gate,
filled by its own operations with any texts but for the algorithms of hashes.
-/
def IsFilled
    (d : Directive) : Prop :=
  ∃ (name : String) (kind : DirectiveKind) (edits : List Edit),
    HoldsNoSeparator name ∧ kind.isGated = true ∧
      (∀ e ∈ edits, Edit.NamesPlainAlgorithm e) ∧
        d = editAll { name, kind := kind.cleared } edits

theorem isGated_cleared
    (kind : DirectiveKind) :
    kind.cleared.isGated = kind.isGated := by
  cases kind <;> rfl

/-- Trimming cannot bring a separator into a text. -/
theorem holdsNoSeparator_trim
    (text : String)
    (htext : HoldsNoSeparator text) :
    HoldsNoSeparator (Text.trim text) := by
  have hsub : ∀ c ∈ Text.trimChars text.toList, c ∈ text.toList := by
    intro c hc
    have hend := (Text.trimEndChars_prefix _).subset hc
    exact (List.dropWhile_sublist _).subset hend
  rw [HoldsNoSeparator, Text.toList_trim]
  exact ⟨fun hc => htext.1 (hsub _ hc), fun hc => htext.2 (hsub _ hc)⟩

theorem admitted_of_namesPlainAlgorithm
    (e : Edit)
    (hplain : e.NamesPlainAlgorithm) :
    e.Admitted HoldsNoSeparator := by
  cases e with
  | hash algorithm digest => exact holdsNoSeparator_trim algorithm hplain
  | hashOf algorithm content =>
      refine holdsNoSeparator_trim algorithm.name ?_
      cases algorithm <;> decide
  | _ => trivial

/-- What is known about a filled directive, once it has no faults. -/
theorem holdsNoSeparator_of_isFilled
    (d : Directive)
    (hfilled : d.IsFilled)
    (hfaults : d.faults = []) :
    ∀ token ∈ d.tokens, HoldsNoSeparator token := by
  obtain ⟨name, kind, edits, hname, hgated, hplain, rfl⟩ := hfilled
  refine holdsNoSeparator_of_mem_tokens _ (by simpa using hname) ?_ ?_ hfaults
  · rw [← isGated_cleared, cleared_kind_editAll, isGated_cleared, isGated_cleared, hgated]
  · exact holdsCleanTokens_editAll _ _ edits (holdsCleanTokens_fresh _ name kind)
      fun e he => admitted_of_namesPlainAlgorithm e (hplain e he)

end Directive

namespace Policy

/-- A policy whose directives are filled, and that passes its validation. -/
def IsSound
    (policy : Policy) : Prop :=
  (∀ d ∈ policy.directives, d.IsFilled) ∧ policy.resetReport.validate.hasNoErrors = true

/-- Every token of an emitted directive of such a policy is free of separators. -/
theorem holdsNoSeparator_of_isSound
    (policy : Policy)
    (hsound : policy.IsSound) :
    ∀ d ∈ policy.emitted, d.isEmpty = false ∧ ∀ token ∈ d.tokens, HoldsNoSeparator token := by
  intro d hd
  obtain ⟨hmem, hnonempty⟩ := List.mem_filter.mp hd
  have hfaults := (hasNoErrors_resetReport_validate_iff policy).mp hsound.2 d hmem
  refine ⟨by simpa using hnonempty, ?_⟩
  exact Directive.holdsNoSeparator_of_isFilled d (hsound.1 d hmem) hfaults

/-- The written policy is cut into the written directives. -/
theorem splitAt_separator_build
    (policy : Policy)
    (hsound : policy.IsSound)
    (hemitted : policy.emitted ≠ []) :
    Text.splitAt separator policy.build = policy.emitted.map (·.build) := by
  rw [build_eq]
  refine Text.splitAt_intercalate separator ';' _ rfl (by simpa using hemitted) ?_
  intro piece hpiece hsemicolon
  obtain ⟨d, hd, rfl⟩ := List.mem_map.mp hpiece
  obtain ⟨hnonempty, htokens⟩ := holdsNoSeparator_of_isSound policy hsound d hd
  obtain ⟨token, htoken, hmem⟩ :=
    (Directive.mem_build_iff d hnonempty ';' (by decide)).mp hsemicolon
  exact (htokens token htoken).2 hmem

/-- The written policy, cut into directives and these into tokens. -/
theorem splitAt_splitAt_build
    (policy : Policy)
    (hsound : policy.IsSound)
    (hemitted : policy.emitted ≠ []) :
    (Text.splitAt separator policy.build).map (Text.splitAt " ") =
      policy.emitted.map (·.tokens) := by
  rw [splitAt_separator_build policy hsound hemitted, List.map_map]
  refine List.map_congr_left fun d hd => ?_
  obtain ⟨hnonempty, htokens⟩ := holdsNoSeparator_of_isSound policy hsound d hd
  exact (Directive.splitAt_build_iff d hnonempty).mpr fun token htoken => (htokens token htoken).1

theorem build_of_emitted_eq_nil
    (policy : Policy)
    (hemitted : policy.emitted = []) :
    policy.build = "" := by
  rw [build_eq, hemitted]
  rfl

/-- Only a policy without emitted directives has an empty written form. -/
theorem emitted_eq_nil_of_build_eq_empty
    (policy : Policy)
    (hsound : policy.IsSound)
    (hbuild : policy.build = "") :
    policy.emitted = [] := by
  cases hemitted : policy.emitted with
  | nil => rfl
  | cons d others =>
      have hsplit := splitAt_separator_build policy hsound (by simp [hemitted])
      rw [hbuild, hemitted, List.map_cons] at hsplit
      have hempty : d.build = "" := (List.cons.inj hsplit).1.symm
      have hnonempty := (holdsNoSeparator_of_isSound policy hsound d (by simp [hemitted])).1
      rw [d.build_eq_empty_iff, hnonempty] at hempty
      exact absurd hempty (by simp)

/--
A policy that passes its validation is read back, directive by directive and
token by token, by cutting its written form; so the written form determines the
names and tokens that were emitted.
-/
theorem written_policy_separates_tokens
    (policy : Policy)
    (hfilled : ∀ d ∈ policy.directives, d.IsFilled)
    (hvalid : policy.resetReport.validate.hasNoErrors = true) :
    (policy.emitted = [] → policy.build = "") ∧
    (policy.emitted ≠ [] →
      (Text.splitAt separator policy.build).map (Text.splitAt " ") =
        policy.emitted.map (·.tokens)) ∧
    ∀ other : Policy,
      (∀ d ∈ other.directives, d.IsFilled) →
      other.resetReport.validate.hasNoErrors = true →
      policy.build = other.build →
      policy.emitted.map (·.tokens) = other.emitted.map (·.tokens) := by
  have hsound : policy.IsSound := ⟨hfilled, hvalid⟩
  refine ⟨build_of_emitted_eq_nil policy, splitAt_splitAt_build policy hsound, ?_⟩
  intro other hotherFilled hotherValid hbuild
  have hother : other.IsSound := ⟨hotherFilled, hotherValid⟩
  by_cases hnone : policy.emitted = []
  · have hempty := build_of_emitted_eq_nil policy hnone
    have hnoneToo := emitted_eq_nil_of_build_eq_empty other hother (hbuild ▸ hempty)
    rw [hnone, hnoneToo]
  · have hsome : other.emitted ≠ [] := by
      intro hnoneToo
      have hempty := build_of_emitted_eq_nil other hnoneToo
      exact hnone (emitted_eq_nil_of_build_eq_empty policy hsound (hbuild.trans hempty))
    rw [← splitAt_splitAt_build policy hsound hnone, ← splitAt_splitAt_build other hother hsome,
      hbuild]

/--
Hosts, a nonce with a hash, and an experimental value, beside a directive that
holds only a nonce and is not emitted.
-/
theorem written_policy_separates_tokens_of_script_policy :
    let script : List Directive.Edit :=
      [.value " 'Self' ", .value "https://a.example", .nonce "cmFuZG9t", .hash "sha256" "YWJj"]
    let policy : Policy :=
      { directives :=
          [(Directive.registered .scriptSrc).editAll script,
           (Directive.registered .styleSrc).editAll [.nonce "cmFuZG9t"],
           (Directive.unregistered "x-new").editAll [.experimental "a&b", .value "c"]] }
    (Text.splitAt separator policy.build).map (Text.splitAt " ") =
      [["script-src", "'Self'", "https://a.example", "'nonce-cmFuZG9t'", "'sha256-YWJj'"],
       ["x-new", "c", "a&b"]] := by
  intro script policy
  have hfilled : ∀ d ∈ policy.directives, d.IsFilled := by
    intro d hd
    simp only [policy, List.mem_cons, List.not_mem_nil, or_false] at hd
    rcases hd with rfl | rfl | rfl
    · exact ⟨_, .inline [] [], script, by decide, rfl, by decide, rfl⟩
    · exact ⟨_, .inline [] [], _, by decide, rfl, by decide, rfl⟩
    · exact ⟨_, .keyword .experimental, _, by decide, rfl, by decide, rfl⟩
  have hvalid : policy.resetReport.validate.hasNoErrors = true := by decide
  have hemitted : policy.emitted ≠ [] := by decide
  exact (written_policy_separates_tokens policy hfilled hvalid).2.1 hemitted

end Policy
end ContentSecurity
