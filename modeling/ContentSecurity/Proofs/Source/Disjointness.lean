import ContentSecurity.Proofs.Directive.Tokens
import ContentSecurity.Proofs.Source.VisibleText

/-!
# Grammars apart from each other

A source value is recognised as a keyword, an unsafe keyword, a scheme source or
a host source.  The four tests are written apart from each other and share most
of their characters.  They still meet in no text: a keyword begins with a quote,
which no scheme and no host does, and a scheme source ends with a colon, where a
host source would go on with a port.

The character gate is a fifth test.  The main statement is
`source_grammars_are_disjoint`: whatever the gate keeps out is recognised as a
host source at most, and then for a separator in its path.
-/

namespace ContentSecurity
namespace Source

/-- The quoted words that are recognised as they stand. -/
def quotedWords : List String :=
  [selfKeyword, noneKeyword, unsafeInlineKeyword, unsafeEvalKeyword]

theorem mem_quotedWords_iff
    (value : String) :
    value ∈ quotedWords ↔ isKeyword value = true ∨ isUnsafeKeyword value = true := by
  simp [quotedWords, isKeyword, isUnsafeKeyword, or_assoc]

/-- A keyword of every source list is not one of the unsafe ones. -/
theorem isUnsafeKeyword_eq_false_of_isKeyword
    (value : String)
    (hkeyword : isKeyword value = true) :
    isUnsafeKeyword value = false := by
  simp only [isKeyword, Bool.or_eq_true, beq_iff_eq] at hkeyword
  rcases hkeyword with rfl | rfl
  · decide
  · decide

/-- A quoted word has neither the form of a scheme source nor that of a host source. -/
theorem isSchemeSource_isHostSource_eq_false_of_mem_quotedWords
    (value : String)
    (hquoted : value ∈ quotedWords) :
    isSchemeSource value = false ∧ isHostSource value = false := by
  have hall : ∀ word ∈ quotedWords, isSchemeSource word = false ∧ isHostSource word = false := by
    decide
  exact hall value hquoted

/-- Behind the colon of a scheme source the port is missing that a host source would have. -/
theorem parse?_scheme_colon
    (scheme : List Char)
    (hscheme : isScheme scheme = true) :
    HostSource.parse? (scheme ++ [':']) = none := by
  obtain ⟨htake, hdrop⟩ := takeWhile_dropWhile_scheme_colon scheme hscheme
  have hsplit : splitScheme (scheme ++ [':']) = (none, scheme ++ [':']) := by
    simp [splitScheme, htake, hdrop]
  have hchars : ∀ c ∈ scheme, (c != ':' && c != '/') = true := fun c hc =>
    ne_colon_and_ne_slash isSchemeChar (by decide) (by decide) c
      (isSchemeChar_of_mem_of_isScheme scheme hscheme c hc)
  obtain ⟨hhost, htail⟩ := Text.takeWhile_dropWhile_append _ scheme [':'] hchars
    (by rintro _ ⟨⟩; decide)
  have hport : portAndPath? [':'] = none := by decide
  simp [HostSource.parse?, hsplit, hhost, htail, hport]

theorem isHostSource_eq_false_of_isSchemeSource
    (value : String)
    (hsource : isSchemeSource value = true) :
    isHostSource value = false := by
  obtain ⟨scheme, hscheme, htext⟩ := (isSchemeSource_iff value).mp hsource
  rw [isHostSource, htext, parse?_scheme_colon scheme hscheme]

/-- Quoted words and scheme sources pass the character gate. -/
theorem hasLegalCharacters_of_mem_quotedWords
    (value : String)
    (hquoted : value ∈ quotedWords) :
    hasLegalCharacters value = true := by
  have hall : ∀ word ∈ quotedWords, hasLegalCharacters word = true := by decide
  exact hall value hquoted

theorem hasLegalCharacters_of_isSchemeSource
    (value : String)
    (hsource : isSchemeSource value = true) :
    hasLegalCharacters value = true := by
  obtain ⟨scheme, hscheme, htext⟩ := (isSchemeSource_iff value).mp hsource
  have hillegal : ∀ c ∈ illegalCharacters, isSchemeChar c = false ∧ c ≠ ':' :=
    List.all_iff_forall_prop.mp (by decide)
  refine (hasLegalCharacters_iff value).mpr ⟨?_, fun c hc hmem => ?_⟩
  · rintro rfl
    simp at htext
  · obtain ⟨hscheme', hcolon⟩ := hillegal c hc
    rw [htext, List.mem_append, List.mem_singleton] at hmem
    rcases hmem with hmem | hmem
    · have hchar := isSchemeChar_of_mem_of_isScheme scheme hscheme c hmem
      simp [hscheme'] at hchar
    · exact hcolon hmem

theorem ne_empty_of_isFormed
    (value : String)
    (source : HostSource)
    (hformed : source.IsFormed)
    (htext : source.text = value.toList) :
    value ≠ "" := by
  rintro rfl
  have hread := (parse?_eq_some_iff _ source).mpr ⟨hformed, htext⟩
  have hnone : HostSource.parse? "".toList = none := by decide
  rw [hnone] at hread
  cases hread

/-- The path is the only part of a host source that can hold an illegal character. -/
theorem exists_mem_path_of_mem_illegalCharacters
    (source : HostSource)
    (hformed : source.IsFormed)
    (c : Char)
    (hillegal : c ∈ illegalCharacters)
    (hc : c ∈ source.text) :
    ∃ path ∈ source.path, ';' ∈ path ∨ ',' ∈ path := by
  have hsigns :
      ∀ c ∈ illegalCharacters, isSchemeChar c = false ∧ c ∉ [':', '/', '*'] :=
    List.all_iff_forall_prop.mp (by decide)
  obtain ⟨hnochar, hnosign⟩ := hsigns c hillegal
  rcases isSchemeChar_or_mem_of_mem_text source hformed c hc with
    hchar | hsign | ⟨path, hpath, hmem⟩
  · simp [hnochar] at hchar
  · exact absurd hsign hnosign
  · refine ⟨path, hpath, ?_⟩
    simp only [illegalCharacters, List.mem_cons, List.not_mem_nil, or_false] at hillegal
    rcases hillegal with rfl | rfl | rfl
    · have hvisible := isVisible_of_mem_path path (hformed.path path hpath) ' ' hmem
      exact absurd hvisible (by decide)
    · exact Or.inl hmem
    · exact Or.inr hmem

/-- A host source fails the character gate exactly if a separator stands in its path. -/
theorem hasLegalCharacters_eq_false_iff_of_isFormed
    (value : String)
    (source : HostSource)
    (hformed : source.IsFormed)
    (htext : source.text = value.toList) :
    hasLegalCharacters value = false ↔ ∃ path ∈ source.path, ';' ∈ path ∨ ',' ∈ path := by
  have hne := ne_empty_of_isFormed value source hformed htext
  rw [← Bool.not_eq_true, hasLegalCharacters_iff, ← htext]
  constructor
  · intro hgate
    by_contra hnone
    refine hgate ⟨hne, fun c hillegal hc => hnone ?_⟩
    exact exists_mem_path_of_mem_illegalCharacters source hformed c hillegal hc
  · rintro ⟨path, hpath, hseparator⟩ ⟨-, hfree⟩
    have hsome : source.path = some path := hpath
    have hmem : ∀ c ∈ path, c ∈ source.text := by
      intro c hc
      simp [HostSource.text, hsome, hc]
    rcases hseparator with hsemicolon | hcomma
    · exact hfree ';' (by decide) (hmem ';' hsemicolon)
    · exact hfree ',' (by decide) (hmem ',' hcomma)

/-- The parts of a host source are the only ones of their form that are written that way. -/
theorem exists_unique_parts_of_isHostSource
    (value : String)
    (hhost : isHostSource value = true) :
    ∃ source : HostSource,
      ∀ other : HostSource, other.IsFormed ∧ other.text = value.toList ↔ other = source := by
  obtain ⟨source, hformed, -, htext⟩ := (isHostSource_iff value).mp hhost
  refine ⟨source, fun other => ⟨fun ⟨hother, hsame⟩ => ?_, ?_⟩⟩
  · exact hother.text_inj other source hformed (hsame.trans htext.symm)
  · rintro rfl
    exact ⟨hformed, htext⟩

/-- At most one of four answers is yes if no two of them can be. -/
theorem count_le_one_of_exclusive :
    ∀ keyword unsafeKeyword scheme host : Bool,
      (keyword = true → unsafeKeyword = false) →
      (keyword = true ∨ unsafeKeyword = true → scheme = false ∧ host = false) →
      (scheme = true → host = false) →
        [keyword, unsafeKeyword, scheme, host].count true ≤ 1 := by
  decide

/--
At most one of the four tests recognises a text.  What the character gate keeps
out is no keyword, no unsafe keyword and no scheme source; a host source it keeps
out exactly if the path, which the text determines, holds a semicolon or a comma.
-/
theorem source_grammars_are_disjoint
    (value : String) :
    [isKeyword value, isUnsafeKeyword value, isSchemeSource value,
      isHostSource value].count true ≤ 1 ∧
    (hasLegalCharacters value = false →
      isKeyword value = false ∧ isUnsafeKeyword value = false ∧ isSchemeSource value = false) ∧
    (isHostSource value = true →
      ∃ source : HostSource,
        (∀ other : HostSource,
          other.IsFormed ∧ other.text = value.toList ↔ other = source) ∧
        (hasLegalCharacters value = false ↔
          ∃ path ∈ source.path, ';' ∈ path ∨ ',' ∈ path)) := by
  have hquoted := mem_quotedWords_iff value
  refine ⟨?_, fun hgate => ?_, fun hhost => ?_⟩
  · refine count_le_one_of_exclusive _ _ _ _ (isUnsafeKeyword_eq_false_of_isKeyword value)
      (fun hword => ?_) (isHostSource_eq_false_of_isSchemeSource value)
    exact isSchemeSource_isHostSource_eq_false_of_mem_quotedWords value (hquoted.mpr hword)
  · have hnoWord : value ∉ quotedWords := by
      intro hword
      simp [hasLegalCharacters_of_mem_quotedWords value hword] at hgate
    have hnoScheme : ¬ isSchemeSource value = true := by
      intro hscheme
      simp [hasLegalCharacters_of_isSchemeSource value hscheme] at hgate
    rw [hquoted, not_or] at hnoWord
    simp only [Bool.not_eq_true] at hnoWord hnoScheme
    exact ⟨hnoWord.1, hnoWord.2, hnoScheme⟩
  · obtain ⟨source, hunique⟩ := exists_unique_parts_of_isHostSource value hhost
    obtain ⟨hformed, htext⟩ := (hunique source).mpr rfl
    exact ⟨source, hunique,
      hasLegalCharacters_eq_false_iff_of_isFormed value source hformed htext⟩

/--
Scheme characters and a colon are no host source.  With a port behind them they
are one, and a semicolon in its path keeps it out of the gate.
-/
theorem source_grammars_are_disjoint_of_colon_and_port :
    isHostSource "ws.x:" = false ∧
      hasLegalCharacters "ws.x:80/a;b" = false ∧ isSchemeSource "ws.x:80/a;b" = false := by
  obtain ⟨hone, -, -⟩ := source_grammars_are_disjoint "ws.x:"
  obtain ⟨-, hgate, hparts⟩ := source_grammars_are_disjoint "ws.x:80/a;b"
  have hread :
      HostSource.parse? "ws.x:80/a;b".toList =
        some
          { scheme := none
            host := .named false ["ws".toList, "x".toList]
            port := some (.number "80".toList)
            path := some "/a;b".toList } := by
    decide
  obtain ⟨source, hunique, hillegal⟩ := hparts (by decide)
  obtain rfl := (hunique _).mp ((parse?_eq_some_iff _ _).mp hread)
  have hkeptOut := hillegal.mpr ⟨_, rfl, by decide⟩
  refine ⟨?_, hkeptOut, (hgate hkeptOut).2.2⟩
  have hscheme : isSchemeSource "ws.x:" = true := by decide
  rw [Bool.eq_false_iff]
  intro hhost
  simp only [hscheme, hhost, List.count_cons, List.count_nil, beq_self_eq_true, if_true] at hone
  omega

end Source
end ContentSecurity
