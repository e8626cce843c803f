import ContentSecurity.Proofs.Digest
import ContentSecurity.Proofs.Directive.Accounting
import ContentSecurity.Proofs.Directive.HashSources
import ContentSecurity.Proofs.Source.VisibleText

/-!
# Computed hashes

The hash of a script or style body is computed, encoded, trimmed and wrapped
into a token.  Validation takes the token apart again and tests its parts by
patterns of its own.  This module shows that the two agree for every content:
the digest has a fixed size, so its encoding is a text in padded form without
blanks, which trimming keeps and which stands between the first hyphen and the
last quote of the token.
-/

namespace ContentSecurity

namespace Base64

/-- A text in padded form holds no blank. -/
theorem isBlankChar_of_isPadded
    (text : String)
    (hpadded : isPadded text = true) :
    ∀ c ∈ text.toList, Text.isBlankChar c = false := by
  intro c hc
  refine Source.isBlankChar_of_isVisible c ?_
  rcases isDigit_or_eq_of_isPaddedChars text.toList hpadded c hc with hdigit | rfl
  · refine Source.isVisible_of_isAlphanum_or_mem ['+', '/']
      (List.all_iff_forall_prop.mp (by decide)) c ?_
    simpa [isDigit, or_assoc] using hdigit
  · decide

theorem trim_of_isPadded
    (text : String)
    (hpadded : isPadded text = true) :
    Text.trim text = text :=
  Text.trim_eq_self text (isBlankChar_of_isPadded text hpadded)

end Base64

namespace Digest.Algorithm

variable (algorithm : Algorithm) (content : List UInt8)

theorem trim_name : Text.trim algorithm.name = algorithm.name := by
  cases algorithm <;> decide

theorem trim_digestText :
    Text.trim (algorithm.digestText content) = algorithm.digestText content :=
  Base64.trim_of_isPadded _ (algorithm.isPadded_digestText content)

theorem digestText_ne_empty : algorithm.digestText content ≠ "" := by
  intro hempty
  have hlength := algorithm.length_digestText content
  rw [hempty] at hlength
  cases algorithm <;> simp [textSize] at hlength

end Digest.Algorithm

namespace Directive

section Content

variable (algorithm : Digest.Algorithm) (content : List UInt8)

/-- The token of a computed hash has no faults. -/
theorem hashFaults_digestText :
    hashFaults (hashToken algorithm.name (algorithm.digestText content)) = [] := by
  rw [hashFaults_hashToken_eq_nil_iff]
  exact ⟨⟨algorithm, "", by simp, by simp⟩, algorithm.isPadded_digestText content⟩

theorem addHashOf_of_isInlineCapable
    (d : Directive)
    (hinline : d.isInlineCapable = true) :
    d.addHashOf algorithm content =
      { d with
        kind :=
          .inline d.nonces
            (d.hashes ++ [hashToken algorithm.name (algorithm.digestText content)]) } := by
  have hname : Text.trim algorithm.name ≠ "" := by
    cases algorithm <;> decide
  have hdigest : Text.trim (algorithm.digestText content) ≠ "" := by
    rw [algorithm.trim_digestText]
    exact algorithm.digestText_ne_empty content
  have hadd :=
    addHash_of_inline d algorithm.name (algorithm.digestText content) d.nonces d.hashes
      (kind_of_isInlineCapable d hinline) hname hdigest
  rwa [algorithm.trim_name, algorithm.trim_digestText] at hadd

/-- A computed hash adds nothing to the faults of a directive. -/
theorem faults_addHashOf
    (d : Directive)
    (hinline : d.isInlineCapable = true) :
    (d.addHashOf algorithm content).faults = d.faults := by
  have hadd := addHashOf_of_isInlineCapable algorithm content d hinline
  have hold := faults_of_inline d _ _ (kind_of_isInlineCapable d hinline)
  have hnew := faults_of_inline (d.addHashOf algorithm content) _ _ (by rw [hadd])
  rw [hnew, hold, hadd, List.flatMap_append, List.flatMap_singleton, hashFaults_digestText,
    List.append_nil]

end Content

/--
The hash of any content enters a directive as one more token, made of the name
of the algorithm and the padded encoding of the digest, and nothing else in the
directive changes.  The encoding has the size that belongs to the algorithm, the
token has no errors and adds none to a validation, and the part of it that is
checked is decoded into the digest.
-/
theorem computed_hash_passes
    (d : Directive)
    (algorithm : Digest.Algorithm)
    (content : List UInt8)
    (hinline : d.isInlineCapable = true) :
    let digest := algorithm.digest content
    let token := "'" ++ algorithm.name ++ "-" ++ Base64.encode digest ++ "'"
    d.addHashOf algorithm content = { d with kind := .inline d.nonces (d.hashes ++ [token]) } ∧
    (Base64.encode digest).length =
      (match algorithm with
      | .sha256 => 44
      | .sha384 => 64
      | .sha512 => 88) ∧
    loneErrors d.name d.kind .hashes token = [] ∧
    (∀ report : Report,
      ((d.addHashOf algorithm content).validate report).errors = (d.validate report).errors) ∧
    (tokenBody? token).bind Base64.decode? = some digest := by
  intro digest token
  have hadd := addHashOf_of_isInlineCapable algorithm content d hinline
  have hline : (d.addHashOf algorithm content).errorLine = d.errorLine := by
    rw [hadd]
    rfl
  refine ⟨hadd, algorithm.length_digestText content, ?_, fun report => ?_, ?_⟩
  · have hfaults : tokenFaults d.kind .hashes token = [] := hashFaults_digestText algorithm content
    rw [loneErrors_eq, hfaults, List.map_nil]
  · rw [errors_validate, errors_validate, faults_addHashOf algorithm content d hinline, hline]
  · have hbody : tokenBody? token = some (Base64.encode digest) :=
      tokenBody?_hashToken algorithm.name _ algorithm.hyphen_not_mem_name
    rw [hbody, Option.bind_some, Base64.decode?_encode]

/-- A content of two blocks, in a directive that has an error of its own. -/
theorem computed_hash_passes_of_two_blocks :
    let d := ((registered .styleSrc).addValue "'self'").addNonce "a b"
    let content : List UInt8 := List.replicate 60 0x61
    let digest := Digest.Algorithm.sha256.digest content
    (d.addHashOf .sha256 content).build =
        "style-src 'self' 'nonce-a b' 'sha256-Ee45EhHGJWRgtu03WVf63YBhyvuzHa+Wfbh1rr1aqtQ='" ∧
      ((d.addHashOf .sha256 content).validate {}).errors =
        ["style-src reports a validation error: Nonce: 'nonce-a b' is not base-64 encoded"] ∧
      (tokenBody? "'sha256-Ee45EhHGJWRgtu03WVf63YBhyvuzHa+Wfbh1rr1aqtQ='").bind Base64.decode? =
        some digest := by
  intro d content digest
  have hdigest : Base64.encode digest = "Ee45EhHGJWRgtu03WVf63YBhyvuzHa+Wfbh1rr1aqtQ=" := by
    decide +kernel
  obtain ⟨hadd, -, -, herrors, hdecode⟩ := computed_hash_passes d .sha256 content (by decide)
  rw [hdigest] at hadd hdecode
  exact ⟨by rw [hadd]; decide, (herrors {}).trans (by decide), hdecode⟩

end Directive
end ContentSecurity
