import ContentSecurity.Proofs.Directive.Accounting
import ContentSecurity.Proofs.Directive.ComputedHashes

/-!
# Nonce sources that are read back

A nonce is stored as a token, and validation looks for it between the first
hyphen and the last quote of the token.  Both belong to the wrapping, whatever
hyphens and quotes the nonce holds, so the nonce itself is found.

For the same reason a stored token always has a part that can be checked.  The
errors about tokens without such a part never occur: every directive that can be
made holds nonces and hashes that its own edits have wrapped.
-/

namespace ContentSecurity
namespace Directive

/-- A nonce that is not blank enters as one more token. -/
theorem addNonce_of_inline
    (d : Directive)
    (text : String)
    (nonces hashes : List String)
    (hkind : d.kind = .inline nonces hashes)
    (htext : Text.trim text ≠ "") :
    d.addNonce text =
      { d with kind := .inline (nonces ++ [nonceToken (Text.trim text)]) hashes } := by
  simp [addNonce, hkind, htext]

/-- Nonces are checked last, so the faults of a new one stand behind all others. -/
theorem faults_addNonce
    (d : Directive)
    (text : String)
    (hinline : d.isInlineCapable = true)
    (htext : Text.trim text ≠ "") :
    (d.addNonce text).faults = d.faults ++ nonceFaults (nonceToken (Text.trim text)) := by
  have hkind := kind_of_isInlineCapable d hinline
  have hadd := addNonce_of_inline d text _ _ hkind htext
  have hold := faults_of_inline d _ _ hkind
  have hnew := faults_of_inline (d.addNonce text) _ _ (by rw [hadd])
  rw [hnew, hold, hadd, List.flatMap_append, List.flatMap_singleton, ← List.append_assoc]

/-- A hash token has a body, wherever its first hyphen is. -/
theorem exists_tokenBody?_hashToken
    (algorithm digest : String) :
    ∃ body, tokenBody? (hashToken algorithm digest) = some body := by
  by_cases hhyphen : '-' ∈ algorithm.toList
  · obtain ⟨body, hbody, -⟩ := tokenBody?_hashToken_of_mem algorithm digest hhyphen
    exact ⟨body, hbody⟩
  · exact ⟨digest, tokenBody?_hashToken algorithm digest hhyphen⟩

theorem mem_hashFaults_hashToken
    (algorithm digest : String)
    (cause : Fault)
    (hcause : cause ∈ hashFaults (hashToken algorithm digest)) :
    cause = .algorithmNotAllowed (hashToken algorithm digest) ∨
      cause = .hashNotBase64 (hashToken algorithm digest) := by
  obtain ⟨body, hbody⟩ := exists_tokenBody?_hashToken algorithm digest
  rw [hashFaults, hbody, List.mem_append] at hcause
  rcases hcause with hnamed | hpadded
  · split at hnamed
    · exact absurd hnamed List.not_mem_nil
    · exact Or.inl (List.mem_singleton.mp hnamed)
  · simp only at hpadded
    split at hpadded
    · exact absurd hpadded List.not_mem_nil
    · exact Or.inr (List.mem_singleton.mp hpadded)

theorem loneErrors_nonceToken
    (name : String)
    (kind : DirectiveKind)
    (nonce : String) :
    loneErrors name kind .nonces (nonceToken nonce) =
      if Base64.isPadded nonce then
        []
      else
        [Report.errorLine name ("Nonce: " ++ nonceToken nonce ++ " is not base-64 encoded")] := by
  rw [loneErrors_eq, tokenFaults, nonceFaults_nonceToken]
  split <;> rfl

/-- The errors about nonces and hashes follow those that the directive has without them. -/
theorem errors_validate_eq_append
    (d : Directive)
    (report : Report) :
    (d.validate report).errors =
      (({ d with kind := d.kind.cleared } : Directive).validate report).errors ++
        (d.hashes.flatMap (loneErrors d.name d.kind .hashes) ++
          d.nonces.flatMap (loneErrors d.name d.kind .nonces)) := by
  have hcleared : d.kind.cleared.cleared = d.kind.cleared := by
    cases d.kind <;> rfl
  have hlone : loneErrors d.name d.kind.cleared = loneErrors d.name d.kind :=
    loneErrors_congr d.name _ _ hcleared
  have hnone :
      ({ d with kind := d.kind.cleared } : Directive).hashes = [] ∧
        ({ d with kind := d.kind.cleared } : Directive).nonces = [] := by
    cases hkind : d.kind <;> simp [hashes, nonces, DirectiveKind.cleared]
  rw [errors_validate_eq_loneErrors d, errors_validate_eq_loneErrors, hnone.1, hnone.2, hlone]
  simp

/-- A line that says that a token has no value to check. -/
def SaysNoValidValue
    (line : String) : Prop :=
  " does not have a valid value".toList <:+ line.toList

instance
    (line : String) :
    Decidable (SaysNoValidValue line) :=
  inferInstanceAs (Decidable (_ <:+ _))

/-- A line with another end does not say so. -/
theorem not_saysNoValidValue_errorLine
    (name start ending : String)
    (hshort : ¬ ending.toList <:+ " does not have a valid value".toList)
    (hlong : ¬ " does not have a valid value".toList <:+ ending.toList) :
    ¬ SaysNoValidValue (Report.errorLine name (start ++ ending)) := by
  intro hsays
  have hending : ending.toList <:+ (Report.errorLine name (start ++ ending)).toList := by
    rw [Report.errorLine, ← String.append_assoc, String.toList_append]
    exact List.suffix_append _ _
  rcases List.suffix_or_suffix_of_suffix hsays hending with h | h
  · exact hlong h
  · exact hshort h

theorem not_saysNoValidValue_of_hashToken
    (name : String)
    (kind : DirectiveKind)
    (algorithm digest line : String)
    (hline : line ∈ loneErrors name kind .hashes (hashToken algorithm digest)) :
    ¬ SaysNoValidValue line := by
  rw [loneErrors_eq, tokenFaults, List.mem_map] at hline
  obtain ⟨cause, hcause, rfl⟩ := hline
  rcases mem_hashFaults_hashToken algorithm digest cause hcause with rfl | rfl
  · exact not_saysNoValidValue_errorLine name _ " not allowed" (by decide) (by decide)
  · exact not_saysNoValidValue_errorLine name _ " is not base-64 encoded" (by decide) (by decide)

theorem not_saysNoValidValue_of_nonceToken
    (name : String)
    (kind : DirectiveKind)
    (nonce line : String)
    (hline : line ∈ loneErrors name kind .nonces (nonceToken nonce)) :
    ¬ SaysNoValidValue line := by
  rw [loneErrors_nonceToken] at hline
  split at hline
  · exact absurd hline List.not_mem_nil
  · rw [List.mem_singleton.mp hline]
    exact not_saysNoValidValue_errorLine name _ " is not base-64 encoded" (by decide) (by decide)

/-- No stored token of a directive that can be made lacks a part to check. -/
theorem IsReachable.not_saysNoValidValue
    {d : Directive}
    (hd : d.IsReachable) :
    ∀ line ∈
      d.hashes.flatMap (loneErrors d.name d.kind .hashes) ++
        d.nonces.flatMap (loneErrors d.name d.kind .nonces),
      ¬ SaysNoValidValue line := by
  intro line hline
  rw [List.mem_append, List.mem_flatMap, List.mem_flatMap] at hline
  rcases hline with ⟨token, htoken, hline⟩ | ⟨token, htoken, hline⟩
  · obtain ⟨algorithm, digest, -, -, -, rfl⟩ := hd.holdsCleanTokens.hashes token htoken
    exact not_saysNoValidValue_of_hashToken d.name d.kind algorithm digest line hline
  · obtain ⟨nonce, -, rfl⟩ := hd.holdsCleanTokens.nonces token htoken
    exact not_saysNoValidValue_of_nonceToken d.name d.kind nonce line hline

/-- A token that no edit has wrapped can lack one. -/
example :
    ∃ line ∈ loneErrors "script-src" (.inline [] []) .nonces "'nonce-",
      SaysNoValidValue line := by
  decide

/--
A nonce that is not blank is stored as one more token, its trimmed text is found
in the token again, and validation appends one error, or none if that text is in
padded form.  So does every nonce that a directive has come to store.  The errors
about nonces and hashes follow those about the values, and none of them says that
a token has no valid value.
-/
theorem nonces_are_read_back
    (d : Directive)
    (hreachable : d.IsReachable)
    (hinline : d.isInlineCapable = true) :
    let notEncoded := fun token =>
      Report.errorLine d.name ("Nonce: " ++ token ++ " is not base-64 encoded")
    let tokenErrors :=
      d.hashes.flatMap (loneErrors d.name d.kind .hashes) ++
        d.nonces.flatMap (loneErrors d.name d.kind .nonces)
    (∀ text, Text.trim text ≠ "" →
      let nonce := Text.trim text
      let token := "'nonce-" ++ nonce ++ "'"
      d.addNonce text = { d with kind := .inline (d.nonces ++ [token]) d.hashes } ∧
      nonceBody? token = some nonce ∧
      ∀ report : Report,
        ((d.addNonce text).validate report).errors =
          (d.validate report).errors ++
            if Base64.isPadded nonce then [] else [notEncoded token]) ∧
    (∀ token ∈ d.nonces, ∃ nonce,
      IsTrimmed nonce ∧ token = "'nonce-" ++ nonce ++ "'" ∧ nonceBody? token = some nonce ∧
        loneErrors d.name d.kind .nonces token =
          if Base64.isPadded nonce then [] else [notEncoded token]) ∧
    (∀ report : Report,
      (d.validate report).errors =
        (({ d with kind := d.kind.cleared } : Directive).validate report).errors ++
          tokenErrors) ∧
    ∀ line ∈ tokenErrors, ¬ SaysNoValidValue line := by
  intro notEncoded tokenErrors
  refine ⟨fun text htext => ?_, fun token htoken => ?_, d.errors_validate_eq_append,
    hreachable.not_saysNoValidValue⟩
  · intro nonce token
    have hadd := addNonce_of_inline d text _ _ (kind_of_isInlineCapable d hinline) htext
    have hline : (d.addNonce text).errorLine = d.errorLine := by
      rw [hadd]
      rfl
    have hlone :
        (nonceFaults (nonceToken nonce)).map d.errorLine =
          loneErrors d.name d.kind .nonces (nonceToken nonce) := by
      rw [loneErrors_eq, tokenFaults]
      rfl
    refine ⟨hadd, nonceBody?_nonceToken nonce, fun report => ?_⟩
    rw [errors_validate, errors_validate, faults_addNonce d text hinline htext, hline,
      List.map_append, hlone, loneErrors_nonceToken, ← List.append_assoc]
    rfl
  · obtain ⟨nonce, htrimmed, rfl⟩ := hreachable.holdsCleanTokens.nonces token htoken
    exact ⟨nonce, htrimmed, rfl, nonceBody?_nonceToken nonce,
      loneErrors_nonceToken d.name d.kind nonce⟩

/--
A nonce with a quote and a hyphen in it, beside a hash whose algorithm holds a
hyphen, in a directive that dropped a nonce before.
-/
theorem nonces_are_read_back_of_quoted_text :
    let d :=
      (registered .styleSrc).editAll
        [.nonce "dropped", .hash "md5-x" "a'b", .resetNonces, .nonce "QUJD"]
    (d.addNonce " a-'b ").nonces = ["'nonce-QUJD'", "'nonce-a-'b'"] ∧
      nonceBody? "'nonce-a-'b'" = some "a-'b" ∧
      ((d.addNonce " a-'b ").validate {}).errors =
        ["style-src reports a validation error: Hash algorithm 'md5-x-a'b' not allowed",
          "style-src reports a validation error: Hash: 'md5-x-a'b' is not base-64 encoded",
          "style-src reports a validation error: Nonce: 'nonce-a-'b' is not base-64 encoded"] ∧
      ∀ line ∈ (d.validate {}).errors, ¬ SaysNoValidValue line := by
  intro d
  have hreachable : d.IsReachable := (IsReachable.fresh "style-src" (.inline [] [])).editAll _
  obtain ⟨hadd, -, htokens, hsays⟩ := nonces_are_read_back d hreachable (by decide)
  obtain ⟨hadded, hbody, herrors⟩ := hadd " a-'b " (by decide)
  have htrim : Text.trim " a-'b " = "a-'b" := by decide
  have htoken : "'nonce-" ++ "a-'b" ++ "'" = "'nonce-a-'b'" := by decide
  rw [htrim, htoken] at hbody
  refine ⟨?_, hbody, ?_, ?_⟩
  · rw [hadded, htrim, htoken]
    decide
  · rw [herrors, htrim, htoken]
    decide
  -- Without its tokens the directive has no errors, so all its errors are about tokens.
  · have hnone : (({ d with kind := d.kind.cleared } : Directive).validate {}).errors = [] := by
      decide
    rw [htokens {}, hnone, List.nil_append]
    exact hsays

end Directive
end ContentSecurity
