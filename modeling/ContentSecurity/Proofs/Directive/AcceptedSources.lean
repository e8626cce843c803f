import ContentSecurity.Header.Fields
import ContentSecurity.Proofs.Directive.SourceRules
import ContentSecurity.Proofs.Source.VisibleText

/-!
# Accepted sources and ASCII

The rules for sources look at the lower case of a value, and the value itself is
what is written.  The grammar is ASCII, but lower-casing is not: the Kelvin sign
has an ASCII letter for its lower case, so the rules take it for a letter k.

The main statement is `source_passes_iff_folded_text_recognized`: Kelvin signs
are the only characters beyond visible ASCII that an accepted value can hold,
and the value is in the grammar itself exactly if it holds none.
-/

namespace ContentSecurity

theorem Source.isAscii_of_isVisible
    (c : Char)
    (hc : IsVisible c) :
    Text.IsAscii c := by
  have hlast := hc.2
  unfold Text.IsAscii
  omega

namespace DirectiveKind

/-- What a kind recognises is visible ASCII. -/
theorem isVisible_of_recognizes
    (kind : DirectiveKind)
    (value : String)
    (hrecognized : kind.Recognizes value) :
    ∀ c ∈ value.toList, Source.IsVisible c := by
  have hkeywords :
      ∀ keyword ∈ kind.keywords, keyword.toList.all (fun c => Source.IsVisible c) = true := by
    unfold keywords
    split <;> decide
  rcases hrecognized with hkeyword | hscheme | hhost
  · exact List.all_iff_forall_prop.mp (hkeywords value hkeyword)
  · exact Source.isVisible_of_isSchemeSource value hscheme
  · exact Source.isVisible_of_isHostSource value hhost

theorem isAscii_of_recognizes
    (kind : DirectiveKind)
    (value : String)
    (hrecognized : kind.Recognizes value) :
    ∀ c ∈ value.toList, Text.IsAscii c :=
  fun c hc => Source.isAscii_of_isVisible c (kind.isVisible_of_recognizes value hrecognized c hc)

/-- For what is recognised, lower-casing folds the letters of ASCII and Kelvin signs only. -/
theorem recognizes_lower_iff
    (kind : DirectiveKind)
    (value : String) :
    kind.Recognizes (Text.lower value) ↔ kind.Recognizes (Text.foldLetters value) := by
  constructor
  · intro hlower
    have hnear := Text.isNearAscii_of_lower value (kind.isAscii_of_recognizes _ hlower)
    rwa [Text.lower_eq_foldLetters value hnear] at hlower
  · intro hfolded
    have hnear := Text.isNearAscii_of_foldLetters value (kind.isAscii_of_recognizes _ hfolded)
    rwa [Text.lower_eq_foldLetters value hnear]

/-- A text whose folded letters are recognised is visible ASCII but for its Kelvin signs. -/
theorem isVisible_or_eq_kelvinSign
    (kind : DirectiveKind)
    (value : String)
    (hrecognized : kind.Recognizes (Text.foldLetters value)) :
    ∀ c ∈ value.toList, Source.IsVisible c ∨ c = Text.kelvinSign := by
  intro c hc
  by_cases hkelvin : c = Text.kelvinSign
  · exact Or.inr hkelvin
  · have hvisible : Source.IsVisible (Text.foldLetter c) := by
      refine kind.isVisible_of_recognizes _ hrecognized _ ?_
      rw [Text.foldLetters, String.toList_ofList]
      exact List.mem_map_of_mem hc
    rw [Text.foldLetter, if_neg hkelvin] at hvisible
    have hascii : Text.IsAscii c :=
      (Text.isAscii_toLower_iff c).mp (Source.isAscii_of_isVisible _ hvisible)
    have hcapitals :=
      Text.forall_ascii (fun c => Source.IsVisible c.toLower → Source.IsVisible c) (by decide) c
        hascii
    exact Or.inl (hcapitals hvisible)

/-- Folding the letters of ASCII alone leaves Kelvin signs, for which the grammar has no place. -/
theorem recognizes_lowerAscii_iff
    (kind : DirectiveKind)
    (value : String)
    (hrecognized : kind.Recognizes (Text.foldLetters value)) :
    kind.Recognizes (Text.lowerAscii value) ↔ Text.kelvinSign ∉ value.toList := by
  constructor
  · intro hlower hkelvin
    have hmem : Text.kelvinSign ∈ (Text.lowerAscii value).toList := by
      rw [Text.lowerAscii, String.toList_ofList]
      exact List.mem_map.mpr ⟨Text.kelvinSign, hkelvin, by decide⟩
    exact absurd (kind.isAscii_of_recognizes _ hlower _ hmem) (by decide)
  · intro hkelvin
    rwa [← Text.foldLetters_eq_lowerAscii value hkelvin]

end DirectiveKind

/-- A field takes every visible character and the Kelvin sign. -/
theorem Fields.isValue_of_isVisible_or_eq_kelvinSign
    (value : String)
    (hvalue : ∀ c ∈ value.toList, Source.IsVisible c ∨ c = Text.kelvinSign) :
    Fields.isValue value = true := by
  rw [Fields.isValue, List.all_eq_true]
  intro c hc
  rcases hvalue c hc with ⟨hfirst, hlast⟩ | rfl
  · have hdelete : c ≠ '\x7f' := by
      rintro rfl
      exact absurd hlast (by decide)
    have hspace : 0x20 ≤ c.toNat := by omega
    simp [hdelete, hspace]
  · decide

namespace Directive

/-- Whether a new plain value adds an error is a matter of its own faults. -/
theorem errors_validate_addValue_eq_iff
    (d : Directive)
    (text : String)
    (htext : Text.trim text ≠ "")
    (report : Report) :
    ((d.addValue text).validate report).errors = (d.validate report).errors ↔
      valueFaults d.kind (Text.trim text) = [] := by
  have hd := addValue_of_trim_ne_empty d text htext
  have hline : (d.addValue text).errorLine = d.errorLine := by
    rw [hd]
    rfl
  have hfaults :
      (d.addValue text).faults =
        d.values.flatMap (valueFaults d.kind) ++ valueFaults d.kind (Text.trim text) ++
          (d.experimental.flatMap characterFaults ++ d.hashes.flatMap hashFaults ++
            d.nonces.flatMap nonceFaults) := by
    rw [hd]
    simp [faults, hashes, nonces]
  rw [errors_validate, errors_validate, hline, List.append_right_inj, hfaults]
  constructor
  · intro herrors
    have hlength := congrArg List.length herrors
    rw [← List.length_eq_zero_iff]
    simp only [faults, List.length_map, List.length_append] at hlength
    omega
  · intro hnone
    simp [hnone, faults]

/--
A new plain value adds no error exactly if it holds no illegal character and is
recognised once its ASCII letters and its Kelvin signs are folded.  Such a value
is visible ASCII but for its Kelvin signs, it is recognised with only its ASCII
letters folded exactly if it has none, and a field takes it in either case.
-/
theorem source_passes_iff_folded_text_recognized
    (d : Directive)
    (text : String)
    (hkind : d.kind.readsSources = true)
    (htext : Text.trim text ≠ "") :
    let value := Text.trim text
    (d.addValue text).values = d.values ++ [value] ∧
    (∀ report : Report,
      ((d.addValue text).validate report).errors = (d.validate report).errors ↔
        ¬ HoldsIllegalCharacter value ∧ d.kind.Recognizes (Text.foldLetters value)) ∧
    (d.kind.Recognizes (Text.foldLetters value) →
      (∀ c ∈ value.toList, Source.IsVisible c ∨ c = Text.kelvinSign) ∧
      (d.kind.Recognizes (Text.lowerAscii value) ↔ Text.kelvinSign ∉ value.toList) ∧
      Fields.isValue value = true) := by
  intro value
  refine ⟨by rw [addValue_of_trim_ne_empty d text htext], fun report => ?_, fun hfolded => ?_⟩
  · rw [errors_validate_addValue_eq_iff d text htext, ← d.kind.recognizes_lower_iff]
    exact valueFaults_eq_nil_iff_of_readsSources d.kind hkind value (isTrimmed_trim text htext)
  · have hvisible := d.kind.isVisible_or_eq_kelvinSign value hfolded
    exact ⟨hvisible, d.kind.recognizes_lowerAscii_iff value hfolded,
      Fields.isValue_of_isVisible_or_eq_kelvinSign value hvisible⟩

/-- Behind a mixed-case host, a value in which the Kelvin sign stands for a letter passes. -/
theorem source_passes_iff_folded_text_recognized_of_kelvin_host :
    let d := (registered .frameAncestors).addValue "HTTPS://Example.ORG"
    (d.addValue " \u212aelvin.example:* ").values = d.values ++ ["\u212aelvin.example:*"] ∧
      ((d.addValue " \u212aelvin.example:* ").validate {}).errors = (d.validate {}).errors ∧
      ¬ d.kind.Recognizes (Text.lowerAscii "\u212aelvin.example:*") := by
  intro d
  obtain ⟨hvalues, hpasses, hfolded⟩ :=
    source_passes_iff_folded_text_recognized d " \u212aelvin.example:* " (by decide) (by decide)
  have hrecognized :
      d.kind.Recognizes (Text.foldLetters (Text.trim " \u212aelvin.example:* ")) := by
    decide
  refine ⟨hvalues, (hpasses {}).mpr ⟨by decide, hrecognized⟩, fun hlower => ?_⟩
  exact (hfolded hrecognized).2.1.mp hlower (by decide)

/--
In each of the three kinds a host passes whose first letter is the Kelvin sign.
It is written as it is, it is no visible ASCII, and with only its ASCII letters
in lower case it is no source.
-/
theorem kelvin_sign_passes_for_a_letter :
    let directives :=
      [RegisteredDirective.imgSrc, .scriptSrc, .frameAncestors].map fun directive =>
        (registered directive).addValue "\u212a.com"
    directives.map (fun d => (d.validate {}).errors) = [[], [], []] ∧
      directives.map values = [["\u212a.com"], ["\u212a.com"], ["\u212a.com"]] ∧
      directives.map build =
        ["img-src \u212a.com", "script-src \u212a.com", "frame-ancestors \u212a.com"] ∧
      "\u212a.com".toList.all (fun c => Source.IsVisible c) = false ∧
      directives.all (fun d => !d.kind.Recognizes (Text.lowerAscii "\u212a.com")) = true := by
  decide

end Directive
end ContentSecurity
