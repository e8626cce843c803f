import ContentSecurity.Proofs.Directive.Findings
import ContentSecurity.Proofs.Directive.Tokens
import ContentSecurity.Proofs.Text.Lowercase
import Mathlib.Data.Bool.AllAny

/-!
# The rules for sources

Three kinds of directives read their plain values as sources: source lists,
source lists with the unsafe keywords, and the list of ancestors.  Each of them
has a check of its own.  This module gives the three checks one form: the
illegal characters decide first, then the keywords of the kind and the grammar
of schemes and hosts.

The main lemma is `valueFaults_eq_of_readsSources`.  The main statement is
`source_rules_agree`: the kinds differ in the text of one fault and in the two
unsafe keywords, and in nothing else.
-/

namespace ContentSecurity

/-- A text in which one of the illegal characters stands. -/
def HoldsIllegalCharacter
    (text : String) : Prop :=
  ∃ c ∈ Source.illegalCharacters, c ∈ text.toList

instance
    (text : String) :
    Decidable (HoldsIllegalCharacter text) :=
  List.decidableBEx (· ∈ text.toList) Source.illegalCharacters

/-- Illegal characters are no letters, so lower-casing neither brings them in nor takes them out. -/
theorem holdsIllegalCharacter_lower_iff
    (text : String) :
    HoldsIllegalCharacter (Text.lower text) ↔ HoldsIllegalCharacter text := by
  have hsigns :
      ∀ c ∈ Source.illegalCharacters, Text.IsAscii c ∧ c.isAlpha = false :=
    List.all_iff_forall_prop.mp (by decide)
  refine exists_congr fun c => and_congr_right fun hc => ?_
  exact Text.mem_lower_iff text c (hsigns c hc).1 (hsigns c hc).2

/-- A text that is not empty passes the character gate unless it holds an illegal character. -/
theorem hasLegalCharacters_iff_of_ne_empty
    (text : String)
    (hne : text ≠ "") :
    Source.hasLegalCharacters text = true ↔ ¬ HoldsIllegalCharacter text := by
  rw [hasLegalCharacters_iff]
  simp [HoldsIllegalCharacter, hne]

namespace DirectiveKind

/-- The kinds whose plain values are sources. -/
def readsSources : DirectiveKind → Bool
  | keyword .frameAncestors => true
  | keyword _ => false
  | sourceList => true
  | inline _ _ => true

/-- The keywords among the sources of a kind. -/
def keywords : DirectiveKind → List String
  | inline _ _ =>
      [Source.selfKeyword, Source.noneKeyword, Source.unsafeInlineKeyword,
        Source.unsafeEvalKeyword]
  | _ => [Source.selfKeyword, Source.noneKeyword]

/-- A keyword of the kind, a scheme source or a host source. -/
def Recognizes
    (kind : DirectiveKind)
    (value : String) : Prop :=
  value ∈ kind.keywords ∨ Source.isSchemeSource value = true ∨ Source.isHostSource value = true

instance
    (kind : DirectiveKind)
    (value : String) :
    Decidable (kind.Recognizes value) :=
  inferInstanceAs (Decidable (_ ∨ _))

/-- What a kind says of a value that it does not recognise. -/
def unrecognized : DirectiveKind → String → Fault
  | keyword .frameAncestors, value => .unrecognizedAncestor value
  | _, value => .unrecognizedSource value

end DirectiveKind

namespace Directive

/-- The character gate on the form that is read judges the value itself. -/
theorem hasLegalCharacters_normalize_iff
    (value : String)
    (htrimmed : IsTrimmed value) :
    Source.hasLegalCharacters (normalize value) = true ↔ ¬ HoldsIllegalCharacter value := by
  have hne : Text.lower value ≠ "" := by
    rw [Ne, Text.lower_eq_empty_iff]
    exact htrimmed.1
  rw [normalize, htrimmed.2, hasLegalCharacters_iff_of_ne_empty _ hne,
    holdsIllegalCharacter_lower_iff]

/-- A check in which the gate comes first and the grammar second. -/
theorem ite_gate_eq
    (value : String)
    (htrimmed : IsTrimmed value)
    (isRecognized : Bool)
    (recognized : Prop)
    [Decidable recognized]
    (hrecognized : isRecognized = true ↔ recognized)
    (cause : Fault) :
    (if !Source.hasLegalCharacters (normalize value) then [Fault.illegalCharacter value]
      else if isRecognized then [] else [cause]) =
      if HoldsIllegalCharacter value then [.illegalCharacter value]
      else if recognized then [] else [cause] := by
  have hlegal := hasLegalCharacters_normalize_iff value htrimmed
  by_cases hillegal : HoldsIllegalCharacter value
  · simp [hlegal, hillegal]
  · have hpasses := hlegal.mpr hillegal
    simp [hpasses, hillegal, hrecognized]

/-- What a source list recognises, with or without the unsafe keywords. -/
theorem isRecognized_iff
    (value : String) :
    (Source.isKeyword value || isLocation value) = true ↔
      DirectiveKind.sourceList.Recognizes value := by
  simp [DirectiveKind.Recognizes, DirectiveKind.keywords, Source.isKeyword, isLocation]

theorem isRecognized_unsafe_iff
    (value : String)
    (nonces hashes : List String) :
    ((Source.isKeyword value || Source.isUnsafeKeyword value) || isLocation value) = true ↔
      (DirectiveKind.inline nonces hashes).Recognizes value := by
  simp [DirectiveKind.Recognizes, DirectiveKind.keywords, Source.isKeyword,
    Source.isUnsafeKeyword, isLocation, or_assoc]

/-- The one form of the three checks. -/
theorem valueFaults_eq_of_readsSources
    (kind : DirectiveKind)
    (hkind : kind.readsSources = true)
    (value : String)
    (htrimmed : IsTrimmed value) :
    valueFaults kind value =
      if HoldsIllegalCharacter value then [.illegalCharacter value]
      else if kind.Recognizes (Text.lower value) then [] else [kind.unrecognized value] := by
  have hnormal : normalize value = Text.lower value := by rw [normalize, htrimmed.2]
  rw [← hnormal]
  cases kind with
  | sourceList =>
      rw [valueFaults, sourceFaults, Bool.false_and, Bool.or_false]
      exact ite_gate_eq value htrimmed _ _ (isRecognized_iff _) (.unrecognizedSource value)
  | inline nonces hashes =>
      rw [valueFaults, sourceFaults, Bool.true_and]
      exact ite_gate_eq value htrimmed _ _ (isRecognized_unsafe_iff _ nonces hashes)
        (.unrecognizedSource value)
  | keyword rule =>
      cases rule with
      | frameAncestors =>
          rw [valueFaults, ancestorFaults]
          exact ite_gate_eq value htrimmed _ _ (isRecognized_iff _) (.unrecognizedAncestor value)
      | _ => simp [DirectiveKind.readsSources] at hkind

theorem valueFaults_eq_nil_iff_of_readsSources
    (kind : DirectiveKind)
    (hkind : kind.readsSources = true)
    (value : String)
    (htrimmed : IsTrimmed value) :
    valueFaults kind value = [] ↔
      ¬ HoldsIllegalCharacter value ∧ kind.Recognizes (Text.lower value) := by
  rw [valueFaults_eq_of_readsSources kind hkind value htrimmed]
  by_cases hillegal : HoldsIllegalCharacter value
  · simp [hillegal]
  · simp [hillegal]

theorem addValue_of_trim_ne_empty
    (d : Directive)
    (text : String)
    (htext : Text.trim text ≠ "") :
    d.addValue text = { d with values := d.values ++ [Text.trim text] } := by
  simp [addValue, appendTrimmed, htext]

/-- A directive that holds one plain value and nothing else has the faults of that value. -/
theorem faults_of_values_singleton
    (name : String)
    (kind : DirectiveKind)
    (hcleared : kind.cleared = kind)
    (value : String) :
    ({ name, kind, values := [value] } : Directive).faults = valueFaults kind value := by
  cases kind with
  | inline nonces hashes =>
      obtain ⟨rfl, rfl⟩ := DirectiveKind.inline.inj hcleared
      simp [faults, hashes, nonces]
  | _ => simp [faults, hashes, nonces]

/-- A keyword in small ASCII letters other than k is recognised in any case of its letters. -/
theorem equalIgnoringAsciiCase_iff
    (value keyword : String)
    (hascii : ∀ c ∈ keyword.toList, Text.IsAscii c)
    (hfree : 'k' ∉ keyword.toList)
    (hsmall : Text.lowerAscii keyword = keyword) :
    Text.equalIgnoringAsciiCase value keyword = true ↔ Text.lower value = keyword := by
  rw [Text.equalIgnoringAsciiCase, beq_iff_eq, hsmall,
    Text.lower_eq_iff_lowerAscii_eq value keyword hascii hfree]

theorem equalIgnoringAsciiCase_unsafe_iff
    (value : String) :
    Text.equalIgnoringAsciiCase value Source.unsafeInlineKeyword = true ∨
        Text.equalIgnoringAsciiCase value Source.unsafeEvalKeyword = true ↔
      Text.lower value = Source.unsafeInlineKeyword ∨
        Text.lower value = Source.unsafeEvalKeyword :=
  or_congr
    (equalIgnoringAsciiCase_iff value _ (List.all_iff_forall_prop.mp (by decide)) (by decide)
      (by decide))
    (equalIgnoringAsciiCase_iff value _ (List.all_iff_forall_prop.mp (by decide)) (by decide)
      (by decide))

/-- The two unsafe keywords are all that script and style directives recognise in addition. -/
theorem recognizes_inline_iff
    (nonces hashes : List String)
    (value : String) :
    (DirectiveKind.inline nonces hashes).Recognizes (Text.lower value) ↔
      DirectiveKind.sourceList.Recognizes (Text.lower value) ∨
        Text.equalIgnoringAsciiCase value Source.unsafeInlineKeyword = true ∨
        Text.equalIgnoringAsciiCase value Source.unsafeEvalKeyword = true := by
  rw [equalIgnoringAsciiCase_unsafe_iff]
  simp only [DirectiveKind.Recognizes, DirectiveKind.keywords, List.mem_cons, List.not_mem_nil,
    or_false]
  grind

/-- A value that equals an unsafe keyword holds no illegal character. -/
theorem not_holdsIllegalCharacter_of_isUnsafe
    (value : String)
    (hkey :
      Text.equalIgnoringAsciiCase value Source.unsafeInlineKeyword = true ∨
        Text.equalIgnoringAsciiCase value Source.unsafeEvalKeyword = true) :
    ¬ HoldsIllegalCharacter value := by
  rw [equalIgnoringAsciiCase_unsafe_iff] at hkey
  rw [← holdsIllegalCharacter_lower_iff]
  rcases hkey with hlower | hlower
  · rw [hlower]
    decide
  · rw [hlower]
    decide

/-- The line of a value's only fault, if it has one. -/
def verdict
    (name : String)
    (kind : DirectiveKind)
    (value : String) :
    List String :=
  if HoldsIllegalCharacter value then
    [Report.errorLine name (Fault.message (.illegalCharacter value))]
  else if kind.Recognizes (Text.lower value) then
    []
  else
    [Report.errorLine name (kind.unrecognized value).message]

theorem verdict_eq_nil_iff
    (name : String)
    (kind : DirectiveKind)
    (value : String) :
    verdict name kind value = [] ↔
      ¬ HoldsIllegalCharacter value ∧ kind.Recognizes (Text.lower value) := by
  unfold verdict
  by_cases hillegal : HoldsIllegalCharacter value
  · simp [hillegal]
  · simp [hillegal]

/-- The errors about a directive that holds one plain value and nothing else. -/
theorem errors_validate_addValue_alone
    (name : String)
    (kind : DirectiveKind)
    (hkind : kind.readsSources = true)
    (hcleared : kind.cleared = kind)
    (text : String)
    (htext : Text.trim text ≠ "")
    (report : Report) :
    let d := ({ name, kind } : Directive).addValue text
    d.values = [Text.trim text] ∧
      (d.validate report).errors = report.errors ++ verdict name kind (Text.trim text) := by
  intro d
  have hd : d = { name, kind, values := [Text.trim text] } :=
    addValue_of_trim_ne_empty _ text htext
  have hfaults :=
    valueFaults_eq_of_readsSources kind hkind _ (isTrimmed_trim text htext)
  refine ⟨by rw [hd], ?_⟩
  rw [errors_validate, hd, faults_of_values_singleton name kind hcleared, hfaults, verdict]
  by_cases hillegal : HoldsIllegalCharacter (Text.trim text)
  · rw [if_pos hillegal, if_pos hillegal]
    rfl
  · rw [if_neg hillegal, if_neg hillegal]
    by_cases hrecognized : kind.Recognizes (Text.lower (Text.trim text))
    · rw [if_pos hrecognized, if_pos hrecognized]
      rfl
    · rw [if_neg hrecognized, if_neg hrecognized]
      rfl

/--
A source list and a list of ancestors judge a value alike: a space, a semicolon
or a comma in it is one fault, and a value that holds none of them is another
one unless its lower case is a keyword, a scheme source or a host source.  Only
the text of the second fault differs.  A script or style directive accepts the
unsafe keywords in addition, in any case of their ASCII letters.
-/
theorem source_rules_agree
    (text listName ancestorsName scriptName : String)
    (htext : Text.trim text ≠ "")
    (report : Report) :
    let value := Text.trim text
    let list := ({ name := listName, kind := .sourceList } : Directive).addValue text
    let ancestors :=
      ({ name := ancestorsName, kind := .keyword .frameAncestors } : Directive).addValue text
    let script := ({ name := scriptName, kind := .inline [] [] } : Directive).addValue text
    (list.values = [value] ∧ ancestors.values = [value] ∧ script.values = [value]) ∧
    (list.validate report).errors =
      report.errors ++
        (if HoldsIllegalCharacter value then [list.errorLine (.illegalCharacter value)]
        else if DirectiveKind.sourceList.Recognizes (Text.lower value) then []
        else [list.errorLine (.unrecognizedSource value)]) ∧
    (ancestors.validate report).errors =
      report.errors ++
        (if HoldsIllegalCharacter value then [ancestors.errorLine (.illegalCharacter value)]
        else if DirectiveKind.sourceList.Recognizes (Text.lower value) then []
        else [ancestors.errorLine (.unrecognizedAncestor value)]) ∧
    ((list.validate report).errors = report.errors ↔
      (ancestors.validate report).errors = report.errors) ∧
    ((script.validate report).errors = report.errors ↔
      (list.validate report).errors = report.errors ∨
        Text.equalIgnoringAsciiCase value Source.unsafeInlineKeyword = true ∨
        Text.equalIgnoringAsciiCase value Source.unsafeEvalKeyword = true) := by
  intro value list ancestors script
  obtain ⟨hlist, hlistErrors⟩ :=
    errors_validate_addValue_alone listName .sourceList rfl rfl text htext report
  obtain ⟨hancestors, hancestorsErrors⟩ :=
    errors_validate_addValue_alone ancestorsName (.keyword .frameAncestors) rfl rfl text htext
      report
  obtain ⟨hscript, hscriptErrors⟩ :=
    errors_validate_addValue_alone scriptName (.inline [] []) rfl rfl text htext report
  have hlistPasses :
      (list.validate report).errors = report.errors ↔
        ¬ HoldsIllegalCharacter value ∧
          DirectiveKind.sourceList.Recognizes (Text.lower value) := by
    rw [hlistErrors, List.append_right_eq_self, verdict_eq_nil_iff]
  have hancestorsPasses :
      (ancestors.validate report).errors = report.errors ↔
        ¬ HoldsIllegalCharacter value ∧
          (DirectiveKind.keyword .frameAncestors).Recognizes (Text.lower value) := by
    rw [hancestorsErrors, List.append_right_eq_self, verdict_eq_nil_iff]
  have hscriptPasses :
      (script.validate report).errors = report.errors ↔
        ¬ HoldsIllegalCharacter value ∧
          (DirectiveKind.inline [] []).Recognizes (Text.lower value) := by
    rw [hscriptErrors, List.append_right_eq_self, verdict_eq_nil_iff]
  refine ⟨⟨hlist, hancestors, hscript⟩, hlistErrors, hancestorsErrors, ?_, ?_⟩
  · rw [hlistPasses, hancestorsPasses]
    rfl
  · rw [hscriptPasses, hlistPasses, recognizes_inline_iff]
    constructor
    · rintro ⟨hlegal, hrecognized | hkey⟩
      · exact Or.inl ⟨hlegal, hrecognized⟩
      · exact Or.inr hkey
    · rintro (⟨hlegal, hrecognized⟩ | hkey)
      · exact ⟨hlegal, Or.inl hrecognized⟩
      · exact ⟨not_holdsIllegalCharacter_of_isUnsafe value hkey, Or.inr hkey⟩

/-- An unsafe keyword in mixed case: one error in a source list, none in a script directive. -/
theorem source_rules_agree_on_unsafe_keyword :
    let list := (registered .imgSrc).addValue " 'Unsafe-Inline'\t"
    let script := (registered .scriptSrc).addValue " 'Unsafe-Inline'\t"
    Text.trim " 'Unsafe-Inline'\t" ≠ "" ∧
      (list.validate {}).errors =
        ["img-src reports a validation error: " ++
          "Source value 'Unsafe-Inline' could not be validated"] ∧
      (script.validate {}).errors = [] := by
  intro list script
  have htext : Text.trim " 'Unsafe-Inline'\t" ≠ "" := by decide
  obtain ⟨-, hlist, -, -, hscript⟩ :=
    source_rules_agree " 'Unsafe-Inline'\t" "img-src" "frame-ancestors" "script-src" htext {}
  have hillegal : ¬ HoldsIllegalCharacter (Text.trim " 'Unsafe-Inline'\t") := by decide
  have hrecognized :
      ¬ DirectiveKind.sourceList.Recognizes
        (Text.lower (Text.trim " 'Unsafe-Inline'\t")) := by
    decide
  rw [if_neg hillegal, if_neg hrecognized] at hlist
  exact ⟨htext, hlist, hscript.mpr (Or.inr (Or.inl (by decide)))⟩

end Directive
end ContentSecurity
