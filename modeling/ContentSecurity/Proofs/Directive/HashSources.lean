import ContentSecurity.Proofs.Directive.Tokens

/-!
# Hash sources that pass

A hash is stored as one token, and validation reads the token again: it looks
for the name of an algorithm behind the opening quote, and for a padded text
between the first hyphen and the last quote.

The two readings do not meet.  The name is only looked for at the beginning, and
nothing asks for the hyphen right behind it, so whatever stands between the name
and the first hyphen passes unread.  The main statement is
`hash_passes_iff_begins_with_name`.
-/

namespace ContentSecurity

theorem Digest.Algorithm.mem_all
    (algorithm : Digest.Algorithm) :
    algorithm ∈ all := by
  cases algorithm <;> decide

/-- The name of an algorithm holds no hyphen. -/
theorem Digest.Algorithm.hyphen_not_mem_name
    (algorithm : Digest.Algorithm) :
    '-' ∉ algorithm.name.toList := by
  cases algorithm <;> decide

namespace Directive

/-- An algorithm is named in a hash token if the text before the hyphen begins with its name. -/
theorem namesAlgorithm_hashToken_iff
    (algorithm digest : String) :
    namesAlgorithm (hashToken algorithm digest) = true ↔
      ∃ a : Digest.Algorithm, a.name.toList <+: algorithm.toList := by
  have htoken :
      (hashToken algorithm digest).toList =
        '\'' :: (algorithm.toList ++ '-' :: (digest.toList ++ ['\''])) := by
    simp [hashToken]
  simp only [namesAlgorithm, htoken, List.any_eq_true, List.isPrefixOf_iff_prefix]
  constructor
  · rintro ⟨a, -, hname⟩
    exact ⟨a, (Text.prefix_append_cons_iff '-' _ _ a.hyphen_not_mem_name _).mp hname⟩
  · rintro ⟨a, hname⟩
    exact ⟨a, a.mem_all, (Text.prefix_append_cons_iff '-' _ _ a.hyphen_not_mem_name _).mpr hname⟩

/-- A hash without faults has no hyphen before its digest. -/
theorem hyphen_not_mem_of_hashFaults_eq_nil
    (algorithm digest : String)
    (hfaults : hashFaults (hashToken algorithm digest) = []) :
    '-' ∉ algorithm.toList := by
  intro hhyphen
  obtain ⟨body, htoken, hmem⟩ := tokenBody?_hashToken_of_mem algorithm digest hhyphen
  have hbody := (List.append_eq_nil_iff.mp hfaults).2
  rw [htoken] at hbody
  have hpadded : Base64.isPadded body = true := by simpa using hbody
  exact Base64.not_mem_of_isPadded body hpadded '-' (by decide) (by decide) hmem

/-- What is wrong with a hash, in terms of the texts that it was made from. -/
theorem hashFaults_hashToken_eq_nil_iff
    (algorithm digest : String) :
    hashFaults (hashToken algorithm digest) = [] ↔
      (∃ (a : Digest.Algorithm) (more : String),
        algorithm = a.name ++ more ∧ '-' ∉ more.toList) ∧
      Base64.isPadded digest = true := by
  constructor
  · intro hfaults
    have hhyphen := hyphen_not_mem_of_hashFaults_eq_nil algorithm digest hfaults
    have hnamed : namesAlgorithm (hashToken algorithm digest) = true := by
      simpa using (List.append_eq_nil_iff.mp hfaults).1
    obtain ⟨a, more, hmore⟩ := (namesAlgorithm_hashToken_iff algorithm digest).mp hnamed
    refine ⟨⟨a, String.ofList more, ?_, ?_⟩, isPadded_of_hashFaults_eq_nil _ _ hfaults⟩
    · rw [← String.toList_inj, String.toList_append, String.toList_ofList, hmore]
    · rw [← hmore, List.mem_append, not_or] at hhyphen
      simpa using hhyphen.2
  · rintro ⟨⟨a, more, rfl, hmore⟩, hpadded⟩
    have hnamed : namesAlgorithm (hashToken (a.name ++ more) digest) = true := by
      rw [namesAlgorithm_hashToken_iff]
      exact ⟨a, by simp⟩
    have hhyphen : '-' ∉ (a.name ++ more).toList := by
      rw [String.toList_append, List.mem_append, not_or]
      exact ⟨a.hyphen_not_mem_name, hmore⟩
    rw [hashFaults, hnamed, tokenBody?_hashToken _ digest hhyphen]
    simp [hpadded]

/-- The faults of a directive with nonces and hashes, store by store. -/
theorem faults_of_inline
    (d : Directive)
    (nonces hashes : List String)
    (hkind : d.kind = .inline nonces hashes) :
    d.faults =
      d.values.flatMap (sourceFaults true) ++ d.experimental.flatMap characterFaults ++
        hashes.flatMap hashFaults ++ nonces.flatMap nonceFaults := by
  rw [faults, Directive.hashes, Directive.nonces, hkind]
  rfl

/-- A directive that stores nonces and hashes, with both of them in sight. -/
theorem kind_of_isInlineCapable
    (d : Directive)
    (hinline : d.isInlineCapable = true) :
    d.kind = .inline d.nonces d.hashes := by
  cases hkind : d.kind with
  | inline nonces hashes => simp [Directive.nonces, Directive.hashes, hkind]
  | _ => simp [isInlineCapable, hkind] at hinline

/-- A hash of two texts that are not blank enters as one more token. -/
theorem addHash_of_inline
    (d : Directive)
    (algorithm digest : String)
    (nonces hashes : List String)
    (hkind : d.kind = .inline nonces hashes)
    (halgorithm : Text.trim algorithm ≠ "")
    (hdigest : Text.trim digest ≠ "") :
    d.addHash algorithm digest =
      { d with
        kind :=
          .inline nonces (hashes ++ [hashToken (Text.trim algorithm) (Text.trim digest)]) } := by
  simp [addHash, hkind, halgorithm, hdigest]

/--
A hash is stored as one token, and validation has nothing against the token
exactly if its algorithm is the name of a supported one, followed by any text
without a hyphen, and its digest is in padded form.
-/
theorem hash_passes_iff_begins_with_name
    (d : Directive)
    (algorithm digest : String)
    (hinline : d.isInlineCapable = true)
    (halgorithm : Text.trim algorithm ≠ "")
    (hdigest : Text.trim digest ≠ "") :
    (d.addHash algorithm digest).hashes =
      d.hashes ++ [hashToken (Text.trim algorithm) (Text.trim digest)] ∧
    ∀ report : Report,
      ((d.addHash algorithm digest).validate report).errors = (d.validate report).errors ↔
        (∃ (a : Digest.Algorithm) (more : String),
          Text.trim algorithm = a.name ++ more ∧ '-' ∉ more.toList) ∧
        Base64.isPadded (Text.trim digest) = true := by
  obtain ⟨nonces, hashes, hkind⟩ : ∃ nonces hashes, d.kind = .inline nonces hashes := by
    cases hkind : d.kind with
    | inline nonces hashes => exact ⟨nonces, hashes, rfl⟩
    | _ => simp [isInlineCapable, hkind] at hinline
  have hadd := addHash_of_inline d algorithm digest nonces hashes hkind halgorithm hdigest
  refine ⟨by simp [hadd, Directive.hashes, hkind], fun report => ?_⟩
  have hname : (d.addHash algorithm digest).errorLine = d.errorLine := by
    rw [hadd]
    rfl
  have hold := faults_of_inline d nonces hashes hkind
  have hnew := faults_of_inline (d.addHash algorithm digest) nonces _ (by rw [hadd])
  rw [← hashFaults_hashToken_eq_nil_iff, errors_validate, errors_validate, hname,
    List.append_right_inj, hold, hnew, hadd]
  -- The faults of the new token stand between those of the other hashes and of the nonces.
  constructor
  · intro herrors
    have hlength := congrArg List.length herrors
    rw [← List.length_eq_zero_iff]
    simp only [List.length_map, List.length_append, List.flatMap_append,
      List.flatMap_singleton] at hlength
    omega
  · intro hfaults
    simp [hfaults]

/-- Blanks around the texts do not matter. -/
theorem hash_passes_iff_begins_with_name_of_padded_texts :
    let d := (Directive.registered .styleSrc).addValue "'self'"
    (d.addHash " sha384\t" " QUJD ").hashes = ["'sha384-QUJD'"] ∧
      ((d.addHash " sha384\t" " QUJD ").validate {}).errors = (d.validate {}).errors := by
  intro d
  obtain ⟨hhashes, hpasses⟩ :=
    hash_passes_iff_begins_with_name d " sha384\t" " QUJD " (by decide) (by decide) (by decide)
  exact ⟨hhashes, (hpasses {}).mpr ⟨⟨.sha384, "", by decide, by decide⟩, by decide⟩⟩

/--
A text that only begins with the name of an algorithm passes, and so does one
that holds the separators of values and of directives.
-/
theorem unsupported_algorithms_pass :
    let d := Directive.registered .scriptSrc
    let longer := d.addHash "sha2567" "QUJD"
    let wider := d.addHash "sha256 *; object" "QUJD"
    Digest.Algorithm.ofName? "sha2567" = none ∧
      longer.hashes = ["'sha2567-QUJD'"] ∧ (longer.validate {}).errors = [] ∧
    Digest.Algorithm.ofName? "sha256 *; object" = none ∧
      wider.hashes = ["'sha256 *; object-QUJD'"] ∧ (wider.validate {}).errors = [] := by
  decide

end Directive
end ContentSecurity
