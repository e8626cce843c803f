import ContentSecurity.Proofs.Directive.Filling
import ContentSecurity.Proofs.Directive.Tokens
import ContentSecurity.Proofs.Directive.WrittenForm
import Mathlib.Data.List.TakeDrop

/-!
# Values outside the character gate

Media types and the addresses of report receivers are checked by rules of their
own, in which the character gate has no part.  This module says which values
these rules accept, and under which condition the accepted values survive the
written form.

The rules do not imply that condition: it is what the gate would have to ask
for, and what it does ask for when the same texts are added as experimental
values.
-/

namespace ContentSecurity
namespace Directive

/-- Two texts that are not blank, on the two sides of the only slash. -/
def IsTypeAndSubtype
    (value : String) : Prop :=
  ∃ kind subtype : String,
    value = kind ++ "/" ++ subtype ∧ '/' ∉ kind.toList ∧ '/' ∉ subtype.toList ∧
      Text.isBlank kind = false ∧ Text.isBlank subtype = false

/-- A media type is cut at its first slash, and another slash is not allowed. -/
theorem isMediaType_of_toList_eq
    (value : String)
    (kind subtype : List Char)
    (hkind : '/' ∉ kind)
    (hvalue : value.toList = kind ++ '/' :: subtype) :
    isMediaType value =
      (!subtype.contains '/' && !kind.all Text.isBlankChar && !subtype.all Text.isBlankChar) := by
  obtain ⟨htake, hdrop⟩ := Text.takeWhile_dropWhile_ne_append '/' kind subtype hkind
  simp only [isMediaType, List.span_eq_takeWhile_dropWhile, hvalue, htake, hdrop]

theorem mem_slash_of_isMediaType
    (value : String)
    (hmedia : isMediaType value = true) :
    '/' ∈ value.toList := by
  cases hrest : value.toList.dropWhile (· != '/') with
  | nil => simp [isMediaType, List.span_eq_takeWhile_dropWhile, hrest] at hmedia
  | cons c rest =>
      have hfirst := List.head?_dropWhile_not (· != '/') value.toList
      have hc : c = '/' := by simpa [hrest] using hfirst
      refine (List.dropWhile_sublist (· != '/')).subset ?_
      rw [hrest, hc]
      exact List.mem_cons_self

/-- Nothing is asked of a media type but its two sides. -/
theorem isMediaType_iff
    (value : String) :
    isMediaType value = true ↔ IsTypeAndSubtype value := by
  constructor
  · intro hmedia
    have hslash := mem_slash_of_isMediaType value hmedia
    obtain ⟨kind, subtype, hvalue, hkind⟩ := List.eq_append_cons_of_mem hslash
    rw [isMediaType_of_toList_eq value kind subtype hkind hvalue] at hmedia
    simp only [Bool.and_eq_true, Bool.not_eq_true', List.contains_eq_mem, decide_eq_false_iff_not]
      at hmedia
    obtain ⟨⟨hsubtype, hkindBlank⟩, hsubtypeBlank⟩ := hmedia
    refine ⟨String.ofList kind, String.ofList subtype, ?_, ?_⟩
    · exact String.toList_injective (by simpa using hvalue)
    · simp only [Text.isBlank, String.toList_ofList]
      exact ⟨hkind, hsubtype, hkindBlank, hsubtypeBlank⟩
  · rintro ⟨kind, subtype, rfl, hkind, hsubtype, hkindBlank, hsubtypeBlank⟩
    rw [isMediaType_of_toList_eq _ kind.toList subtype.toList hkind (by simp)]
    rw [Text.isBlank] at hkindBlank hsubtypeBlank
    simp [hsubtype, hkindBlank, hsubtypeBlank]

/-- The gate on a trimmed value keeps out the illegal characters, and nothing else. -/
theorem characterFaults_eq_nil_iff
    (value : String)
    (htrimmed : IsTrimmed value) :
    characterFaults value = [] ↔ ∀ c ∈ Source.illegalCharacters, c ∉ value.toList := by
  have hlegal := hasLegalCharacters_iff value
  simp only [ne_eq, htrimmed.1, not_false_eq_true, true_and] at hlegal
  rw [characterFaults, htrimmed.2, ← hlegal]
  simp

/-- The written form is one piece exactly if no name and no value holds a semicolon. -/
theorem splitAt_semicolon_build_iff
    (d : Directive) :
    Text.splitAt ";" d.build = [d.build] ↔
      d.isEmpty = true ∨ ∀ token ∈ d.tokens, ';' ∉ token.toList := by
  rw [Text.splitAt_eq_singleton_iff ";" ';' d.build rfl]
  cases hempty : d.isEmpty with
  | true => simp [build_of_isEmpty d hempty]
  | false => simp [mem_build_iff d hempty ';' (by decide)]

section Keyword

variable (directive : RegisteredDirective) (rule : KeywordRule) (texts : List String)

theorem name_foldl_addValue :
    (texts.foldl addValue (registered directive)).name = directive.name := by
  rw [foldl_addValue]
  rfl

theorem values_foldl_addValue :
    (texts.foldl addValue (registered directive)).values = keptValues texts := by
  rw [foldl_addValue]
  rfl

theorem isEmpty_foldl_addValue :
    (texts.foldl addValue (registered directive)).isEmpty = true ↔ keptValues texts = [] := by
  rw [isEmpty_iff, foldl_addValue]
  simp [registered]

/-- The tokens of a directive under a rule of its own. -/
theorem tokens_foldl_addValue
    (hkind : directive.kind = .keyword rule) :
    (texts.foldl addValue (registered directive)).tokens = directive.name :: keptValues texts := by
  rw [foldl_addValue]
  simp [tokens, nonces, hashes, registered, hkind]

/-- Values are held to the rule alone. -/
theorem faults_foldl_addValue
    (hkind : directive.kind = .keyword rule) :
    (texts.foldl addValue (registered directive)).faults =
      (keptValues texts).flatMap (valueFaults directive.kind) := by
  rw [foldl_addValue]
  simp [faults, nonces, hashes, registered, hkind]

/-- Experimental values are held to the gate alone. -/
theorem faults_foldl_addExperimental
    (hkind : directive.kind = .keyword rule) :
    (texts.foldl addExperimental (registered directive)).faults =
      (keptValues texts).flatMap characterFaults := by
  rw [foldl_addExperimental]
  simp [faults, nonces, hashes, registered, hkind]

/-- Under a name without semicolons, the values decide whether the written form is one piece. -/
theorem splitAt_semicolon_foldl_addValue_iff
    (hkind : directive.kind = .keyword rule)
    (hname : ';' ∉ directive.name.toList) :
    let d := texts.foldl addValue (registered directive)
    Text.splitAt ";" d.build = [d.build] ↔ ∀ value ∈ keptValues texts, ';' ∉ value.toList := by
  intro d
  rw [splitAt_semicolon_build_iff, tokens_foldl_addValue directive rule texts hkind,
    isEmpty_foldl_addValue, List.forall_mem_cons]
  constructor
  · rintro (hnone | hfree)
    · simp [hnone]
    · exact hfree.2
  · exact fun hfree => Or.inr ⟨hname, hfree⟩

/-- Under a name without spaces, the values decide whether the written form is read back. -/
theorem splitAt_space_foldl_addValue_iff
    (hkind : directive.kind = .keyword rule)
    (hname : ' ' ∉ directive.name.toList)
    (hsome : keptValues texts ≠ []) :
    let d := texts.foldl addValue (registered directive)
    Text.splitAt " " d.build = directive.name :: keptValues texts ↔
      ∀ value ∈ keptValues texts, ' ' ∉ value.toList := by
  intro d
  have hnonempty : d.isEmpty = false := by
    rw [← Bool.not_eq_true, isEmpty_foldl_addValue]
    exact hsome
  have hsplit := splitAt_build_iff d hnonempty
  rw [tokens_foldl_addValue directive rule texts hkind, List.forall_mem_cons] at hsplit
  rw [hsplit]
  exact ⟨fun hfree => hfree.2, fun hfree => ⟨hname, hfree⟩⟩

end Keyword

/-- What the two rules without the gate ask for. -/
theorem valueFaults_eq_nil_iff_of_ungated
    (directive : RegisteredDirective)
    (hdirective : directive = .pluginTypes ∨ directive = .reportUri)
    (value : String)
    (htrimmed : IsTrimmed value) :
    valueFaults directive.kind value = [] ↔
      directive = .pluginTypes ∧ IsTypeAndSubtype value ∨
        directive = .reportUri ∧ Url.isAbsolute value = true := by
  rcases hdirective with rfl | rfl
  · simp [valueFaults, RegisteredDirective.kind, isMediaType_iff]
  · simp [valueFaults, RegisteredDirective.kind, htrimmed.2]

/--
The rules for media types and for receivers of reports say nothing about
separators.  The written form of accepted values can be cut back exactly if the
values would also pass the gate, which the same texts have to pass as
experimental values.
-/
theorem ungated_values_separate_iff
    (directive : RegisteredDirective)
    (hdirective : directive = .pluginTypes ∨ directive = .reportUri)
    (texts : List String) :
    let d := texts.foldl addValue (registered directive)
    let gated := texts.foldl addExperimental (registered directive)
    d.values = keptValues texts ∧
    (∀ report : Report,
      (d.validate report).errors = report.errors ↔
        ∀ value ∈ d.values,
          directive = .pluginTypes ∧ IsTypeAndSubtype value ∨
            directive = .reportUri ∧ Url.isAbsolute value = true) ∧
    (Text.splitAt ";" d.build = [d.build] ↔ ∀ value ∈ d.values, ';' ∉ value.toList) ∧
    (d.values ≠ [] →
      (Text.splitAt " " d.build = d.name :: d.values ↔
        ∀ value ∈ d.values, ' ' ∉ value.toList)) ∧
    ∀ report : Report,
      (gated.validate report).errors = report.errors ↔
        ∀ value ∈ d.values, ∀ c ∈ Source.illegalCharacters, c ∉ value.toList := by
  intro d gated
  obtain ⟨rule, hkind⟩ : ∃ rule, directive.kind = .keyword rule := by
    rcases hdirective with rfl | rfl <;> exact ⟨_, rfl⟩
  have hname : HoldsNoSeparator directive.name := by
    rcases hdirective with rfl | rfl <;> decide
  have htrimmed := isTrimmed_of_mem_keptValues texts
  have hvalues : d.values = keptValues texts := values_foldl_addValue directive texts
  have hdname : d.name = directive.name := name_foldl_addValue directive texts
  rw [hvalues, hdname]
  refine ⟨rfl, fun report => ?_, ?_, ?_, fun report => ?_⟩
  · rw [errors_validate_eq_self_iff, faults_foldl_addValue directive rule texts hkind,
      List.flatMap_eq_nil_iff]
    exact forall₂_congr fun value hvalue =>
      valueFaults_eq_nil_iff_of_ungated directive hdirective value (htrimmed value hvalue)
  · exact splitAt_semicolon_foldl_addValue_iff directive rule texts hkind hname.2
  · exact splitAt_space_foldl_addValue_iff directive rule texts hkind hname.1
  · rw [errors_validate_eq_self_iff, faults_foldl_addExperimental directive rule texts hkind,
      List.flatMap_eq_nil_iff]
    exact forall₂_congr fun value hvalue =>
      characterFaults_eq_nil_iff value (htrimmed value hvalue)

/-- Two media types and a blank text: the written form is cut back into the media types. -/
theorem ungated_values_separate_for_media_types :
    let d :=
      [" text/html", " ", "image/png "].foldl addValue (registered .pluginTypes)
    Text.splitAt " " d.build = ["plugin-types", "text/html", "image/png"] := by
  intro d
  have hvalues : d.values = ["text/html", "image/png"] := by decide
  have hseparate :=
    ungated_values_separate_iff .pluginTypes (Or.inl rfl) [" text/html", " ", "image/png "]
  have hsplit := (hseparate.2.2.2.1 (by decide)).mpr (by decide)
  rw [hvalues] at hsplit
  exact hsplit

/--
Each of the two rules accepts a value that holds every illegal character, and
the written form is cut inside of the value.
-/
theorem accepted_values_hold_separators :
    let media := (registered .pluginTypes).addValue "a /b;c,d"
    let receiver := (registered .reportUri).addValue "data:a b;c,d"
    ((media.validate {}).errors = [] ∧
      (media.values.all fun value => Source.illegalCharacters.all value.toList.contains) ∧
      Text.splitAt ";" media.build = ["plugin-types a /b", "c,d"] ∧
      Text.splitAt " " media.build = ["plugin-types", "a", "/b;c,d"]) ∧
    (receiver.validate {}).errors = [] ∧
      (receiver.values.all fun value => Source.illegalCharacters.all value.toList.contains) ∧
      Text.splitAt ";" receiver.build = ["report-uri data:a b", "c,d"] ∧
      Text.splitAt " " receiver.build = ["report-uri", "data:a", "b;c,d"] := by
  decide

end Directive
end ContentSecurity
