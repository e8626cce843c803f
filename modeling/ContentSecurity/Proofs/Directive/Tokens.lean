import ContentSecurity.Proofs.Base64.PaddedForm
import ContentSecurity.Proofs.Directive.Edits
import ContentSecurity.Proofs.Directive.Findings
import ContentSecurity.Proofs.Text.Splitting

/-!
# Tokens without faults

The parts of a token are put together by an edit and taken apart again by a
check.  This module shows what the check finds between the first hyphen and the
last quote of a nonce or a hash, whatever characters the parts hold.

The main statement is `holdsNoSeparator_of_mem_tokens`: no token of a directive
without faults holds a space or a semicolon, if only its name and the
algorithms of its hashes hold none.
-/

namespace ContentSecurity

/-- A text in which no value and no directive can end. -/
def HoldsNoSeparator
    (text : String) : Prop :=
  ' ' ∉ text.toList ∧ ';' ∉ text.toList

instance
    (text : String) :
    Decidable (HoldsNoSeparator text) :=
  inferInstanceAs (Decidable (_ ∧ _))

theorem holdsNoSeparator_append
    (s t : String)
    (hs : HoldsNoSeparator s)
    (ht : HoldsNoSeparator t) :
    HoldsNoSeparator (s ++ t) := by
  simp only [HoldsNoSeparator, String.toList_append, List.mem_append, not_or]
  exact ⟨⟨hs.1, ht.1⟩, hs.2, ht.2⟩

/-- The character gate keeps out the illegal characters, and nothing else but the empty text. -/
theorem hasLegalCharacters_iff
    (text : String) :
    Source.hasLegalCharacters text = true ↔
      text ≠ "" ∧ ∀ c ∈ Source.illegalCharacters, c ∉ text.toList := by
  simp only [Source.hasLegalCharacters, Bool.and_eq_true, bne_iff_ne, List.all_eq_true,
    Bool.not_eq_true', List.contains_eq_mem, decide_eq_false_iff_not]
  constructor
  · rintro ⟨hne, hlegal⟩
    exact ⟨hne, fun c hillegal hc => hlegal c hc hillegal⟩
  · rintro ⟨hne, hfree⟩
    exact ⟨hne, fun c hc hillegal => hfree c hillegal hc⟩

theorem holdsNoSeparator_of_hasLegalCharacters
    (text : String)
    (hlegal : Source.hasLegalCharacters text = true) :
    HoldsNoSeparator text := by
  obtain ⟨-, hfree⟩ := (hasLegalCharacters_iff text).mp hlegal
  exact ⟨hfree ' ' (by decide), hfree ';' (by decide)⟩

/-- A separator has no other lower case, so it survives lower-casing. -/
theorem holdsNoSeparator_of_lower
    (text : String)
    (hlower : HoldsNoSeparator (Text.lower text)) :
    HoldsNoSeparator text := by
  simp only [HoldsNoSeparator, Text.lower, String.toList_ofList, List.mem_flatMap,
    not_exists, not_and] at hlower
  constructor
  · intro hspace
    exact hlower.1 ' ' hspace (by decide)
  · intro hsemicolon
    exact hlower.2 ';' hsemicolon (by decide)

namespace Base64

/-- A padded text holds digits and equals signs only. -/
theorem isDigit_or_eq_of_isPaddedChars
    (chars : List Char)
    (hpadded : isPaddedChars chars = true) :
    ∀ c ∈ chars, isDigit c = true ∨ c = '=' := by
  obtain ⟨digits, padding, hfills, rfl⟩ := exists_fillsGroups_of_isPaddedChars chars hpadded
  intro c hc
  rcases List.mem_append.mp hc with hc | hc
  · exact Or.inl (hfills.isDigit c hc)
  · exact Or.inr (List.eq_of_mem_replicate hc)

/-- A character that is no digit and no equals sign stands in no padded text. -/
theorem not_mem_of_isPadded
    (text : String)
    (hpadded : isPadded text = true)
    (c : Char)
    (hdigit : isDigit c = false)
    (heq : c ≠ '=') :
    c ∉ text.toList := by
  intro hc
  rcases isDigit_or_eq_of_isPaddedChars text.toList hpadded c hc with h | h
  · simp [h] at hdigit
  · exact heq h

theorem holdsNoSeparator_of_isPadded
    (text : String)
    (hpadded : isPadded text = true) :
    HoldsNoSeparator text :=
  ⟨not_mem_of_isPadded text hpadded ' ' (by decide) (by decide),
    not_mem_of_isPadded text hpadded ';' (by decide) (by decide)⟩

end Base64

namespace Directive

/-- The body of a token reaches from its first hyphen to the quote at its end. -/
theorem tokenBody?_of_toList_eq
    (token : String)
    (start body : List Char)
    (hstart : '-' ∉ start)
    (htoken : token.toList = start ++ '-' :: (body ++ ['\''])) :
    tokenBody? token = some (String.ofList body) := by
  have hdash : token.toList.dropWhile (· != '-') = '-' :: (body ++ ['\'']) := by
    rw [htoken]
    exact (Text.takeWhile_dropWhile_ne_append '-' start _ hstart).2
  simp [tokenBody?, hdash]

/-- The body of a nonce token is the nonce, whatever hyphens and quotes it holds. -/
theorem tokenBody?_nonceToken
    (nonce : String) :
    tokenBody? (nonceToken nonce) = some nonce := by
  have hbody :=
    tokenBody?_of_toList_eq (nonceToken nonce) "'nonce".toList nonce.toList (by decide)
      (by simp [nonceToken])
  rwa [String.ofList_toList] at hbody

theorem nonceBody?_nonceToken
    (nonce : String) :
    nonceBody? (nonceToken nonce) = some nonce := by
  have hstart : "'nonce-".toList.isPrefixOf (nonceToken nonce).toList = true := by
    simp [nonceToken]
  rw [nonceBody?, if_pos hstart, tokenBody?_nonceToken]

/-- The body of a hash token is the digest if no hyphen stands before it. -/
theorem tokenBody?_hashToken
    (algorithm digest : String)
    (hhyphen : '-' ∉ algorithm.toList) :
    tokenBody? (hashToken algorithm digest) = some digest := by
  have hbody :=
    tokenBody?_of_toList_eq (hashToken algorithm digest) ('\'' :: algorithm.toList) digest.toList
      (by simp [hhyphen]) (by simp [hashToken])
  rwa [String.ofList_toList] at hbody

/-- A hyphen in the algorithm leaves the hyphen before the digest in the body. -/
theorem tokenBody?_hashToken_of_mem
    (algorithm digest : String)
    (hhyphen : '-' ∈ algorithm.toList) :
    ∃ body, tokenBody? (hashToken algorithm digest) = some body ∧ '-' ∈ body.toList := by
  obtain ⟨start, rest, halgorithm, hstart⟩ := List.eq_append_cons_of_mem hhyphen
  refine ⟨String.ofList (rest ++ '-' :: digest.toList), ?_, by simp⟩
  refine tokenBody?_of_toList_eq _ ('\'' :: start) _ (by simp [hstart]) ?_
  simp [hashToken, halgorithm]

theorem nonceFaults_nonceToken
    (nonce : String) :
    nonceFaults (nonceToken nonce) =
      if Base64.isPadded nonce then [] else [.nonceNotBase64 (nonceToken nonce)] := by
  rw [nonceFaults, nonceBody?_nonceToken]

/-- A hash without faults has a digest in padded form. -/
theorem isPadded_of_hashFaults_eq_nil
    (algorithm digest : String)
    (hfaults : hashFaults (hashToken algorithm digest) = []) :
    Base64.isPadded digest = true := by
  have hbody := (List.append_eq_nil_iff.mp hfaults).2
  by_cases hhyphen : '-' ∈ algorithm.toList
  · obtain ⟨body, htoken, hmem⟩ := tokenBody?_hashToken_of_mem algorithm digest hhyphen
    rw [htoken] at hbody
    have hpadded : Base64.isPadded body = true := by simpa using hbody
    exact absurd hmem (Base64.not_mem_of_isPadded body hpadded '-' (by decide) (by decide))
  · rw [tokenBody?_hashToken algorithm digest hhyphen] at hbody
    simpa using hbody

end Directive

/-- The kinds that hold every plain value to the character gate. -/
def DirectiveKind.isGated : DirectiveKind → Bool
  | .keyword .sandbox => false
  | .keyword .pluginTypes => false
  | .keyword .reportUri => false
  | _ => true

namespace Directive

theorem holdsNoSeparator_of_characterFaults_eq_nil
    (value : String)
    (htrimmed : IsTrimmed value)
    (hfaults : characterFaults value = []) :
    HoldsNoSeparator value := by
  have hlegal : Source.hasLegalCharacters value = true := by
    simpa [characterFaults, htrimmed.2] using hfaults
  exact holdsNoSeparator_of_hasLegalCharacters value hlegal

theorem holdsNoSeparator_of_normalize
    (value : String)
    (htrimmed : IsTrimmed value)
    (hlegal : Source.hasLegalCharacters (normalize value) = true) :
    HoldsNoSeparator value := by
  rw [normalize, htrimmed.2] at hlegal
  exact holdsNoSeparator_of_lower value (holdsNoSeparator_of_hasLegalCharacters _ hlegal)

/-- A plain value without faults holds no separator if its kind has the gate. -/
theorem holdsNoSeparator_of_valueFaults_eq_nil
    (kind : DirectiveKind)
    (value : String)
    (hgated : kind.isGated = true)
    (htrimmed : IsTrimmed value)
    (hfaults : valueFaults kind value = []) :
    HoldsNoSeparator value := by
  have hsource :
      ∀ allowUnsafe, sourceFaults allowUnsafe value = [] → HoldsNoSeparator value := by
    intro allowUnsafe hnone
    refine holdsNoSeparator_of_normalize value htrimmed ?_
    cases hlegal : Source.hasLegalCharacters (normalize value) with
    | true => rfl
    | false => simp [sourceFaults, hlegal] at hnone
  cases kind with
  | sourceList => exact hsource false hfaults
  | inline nonces hashes => exact hsource true hfaults
  | keyword rule =>
      cases rule with
      | frameAncestors =>
          refine holdsNoSeparator_of_normalize value htrimmed ?_
          cases hlegal : Source.hasLegalCharacters (normalize value) with
          | true => rfl
          | false => simp [valueFaults, ancestorFaults, hlegal] at hfaults
      | experimental =>
          exact holdsNoSeparator_of_characterFaults_eq_nil value htrimmed hfaults
      | _ => simp [DirectiveKind.isGated] at hgated

/-- No token of a directive without faults holds a separator. -/
theorem holdsNoSeparator_of_mem_tokens
    (d : Directive)
    (hname : HoldsNoSeparator d.name)
    (hgated : d.kind.isGated = true)
    (hclean : d.HoldsCleanTokens HoldsNoSeparator)
    (hfaults : d.faults = []) :
    ∀ token ∈ d.tokens, HoldsNoSeparator token := by
  simp only [faults, List.append_eq_nil_iff, List.flatMap_eq_nil_iff] at hfaults
  obtain ⟨⟨⟨hvalues, hexperimental⟩, hhashes⟩, hnonces⟩ := hfaults
  intro token htoken
  simp only [tokens, List.cons_append, List.mem_cons, List.mem_append] at htoken
  rcases htoken with rfl | ((htoken | htoken) | htoken) | htoken
  · exact hname
  · exact holdsNoSeparator_of_valueFaults_eq_nil d.kind token hgated
      (hclean.values token htoken) (hvalues token htoken)
  · exact holdsNoSeparator_of_characterFaults_eq_nil token
      (hclean.experimental token htoken) (hexperimental token htoken)
  · obtain ⟨nonce, -, rfl⟩ := hclean.nonces token htoken
    have hpadded : Base64.isPadded nonce = true := by
      have hnone := hnonces _ htoken
      rw [nonceFaults_nonceToken] at hnone
      simpa using hnone
    have hnonce := Base64.holdsNoSeparator_of_isPadded nonce hpadded
    exact holdsNoSeparator_append _ _ (holdsNoSeparator_append _ _ (by decide) hnonce) (by decide)
  · obtain ⟨algorithm, digest, -, -, halgorithm, rfl⟩ := hclean.hashes token htoken
    have hpadded := isPadded_of_hashFaults_eq_nil algorithm digest (hhashes _ htoken)
    have hdigest := Base64.holdsNoSeparator_of_isPadded digest hpadded
    refine holdsNoSeparator_append _ _ (holdsNoSeparator_append _ _ ?_ hdigest) (by decide)
    exact holdsNoSeparator_append _ _
      (holdsNoSeparator_append _ _ (by decide) halgorithm) (by decide)

end Directive
end ContentSecurity
