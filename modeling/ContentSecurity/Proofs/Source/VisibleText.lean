import ContentSecurity.Proofs.Source.HostGrammar
import ContentSecurity.Source.Keyword
import ContentSecurity.Text.Blank

/-!
# Recognised sources are visible ASCII

Keywords, scheme sources and host sources are grammars over the visible
characters of ASCII: no blank, no control character and nothing beyond ASCII
stands in a text that one of them recognises.

Schemes are cut off by their own characters, and most of a host source is made
of the same ones: `isSchemeChar_or_mem_of_mem_text` says that beside them there
are three signs, and whatever the path holds.
-/

namespace ContentSecurity
namespace Source

/-- A character of ASCII that leaves a mark. -/
def IsVisible
    (c : Char) : Prop :=
  0x21 ≤ c.toNat ∧ c.toNat ≤ 0x7E

instance
    (c : Char) :
    Decidable (IsVisible c) :=
  inferInstanceAs (Decidable (_ ∧ _))

theorem isVisible_of_isAlphanum
    (c : Char)
    (hc : c.isAlphanum = true) :
    IsVisible c := by
  have hclasses :
      (decide ('A'.val ≤ c.val ∧ c.val ≤ 'Z'.val) || ('a'.val ≤ c.val && c.val ≤ 'z'.val) ||
        ('0'.val ≤ c.val && c.val ≤ '9'.val)) = true :=
    hc
  simp only [Bool.or_eq_true, Bool.and_eq_true, decide_eq_true_eq, UInt32.le_iff_toNat_le,
    Char.toNat_val] at hclasses
  have hcodes :
      'A'.toNat = 65 ∧ 'Z'.toNat = 90 ∧ 'a'.toNat = 97 ∧ 'z'.toNat = 122 ∧
        '0'.toNat = 48 ∧ '9'.toNat = 57 := by
    decide
  unfold IsVisible
  omega

theorem isBlankChar_of_isVisible
    (c : Char)
    (hc : IsVisible c) :
    Text.isBlankChar c = false := by
  obtain ⟨hfirst, hlast⟩ := hc
  simp only [Text.isBlankChar, Text.blankRanges, List.any_cons, List.any_nil, Bool.or_false,
    Bool.or_eq_false_iff, Bool.and_eq_false_iff, decide_eq_false_iff_not]
  omega

/-- A class of letters, digits and some listed signs is visible if the signs are. -/
theorem isVisible_of_isAlphanum_or_mem
    (signs : List Char)
    (hsigns : ∀ c ∈ signs, IsVisible c)
    (c : Char)
    (hc : c.isAlphanum = true ∨ c ∈ signs) :
    IsVisible c := by
  rcases hc with halphanum | hmem
  · exact isVisible_of_isAlphanum c halphanum
  · exact hsigns c hmem

theorem isVisible_of_isSchemeChar
    (c : Char)
    (hc : isSchemeChar c = true) :
    IsVisible c := by
  refine isVisible_of_isAlphanum_or_mem ['+', '-', '.']
    (List.all_iff_forall_prop.mp (by decide)) c ?_
  simpa [isSchemeChar, or_assoc] using hc

theorem isVisible_of_isPathChar
    (c : Char)
    (hc : isPathChar c = true) :
    IsVisible c := by
  refine isVisible_of_isAlphanum_or_mem "-_:@&?=+,.!/~*'%$;()".toList
    (List.all_iff_forall_prop.mp (by decide)) c ?_
  simpa [isPathChar] using hc

theorem isSchemeChar_of_isLabelChar
    (c : Char)
    (hc : isLabelChar c = true) :
    isSchemeChar c = true := by
  simp only [isLabelChar, Bool.or_eq_true] at hc
  rcases hc with halphanum | hhyphen
  · simp [isSchemeChar, halphanum]
  · simp [isSchemeChar, hhyphen]

/-- A scheme is cut off at the colon behind it. -/
theorem takeWhile_dropWhile_scheme_colon
    (scheme : List Char)
    (hscheme : isScheme scheme = true) :
    (scheme ++ [':']).takeWhile isSchemeChar = scheme ∧
      (scheme ++ [':']).dropWhile isSchemeChar = [':'] :=
  Text.takeWhile_dropWhile_append _ _ _ (isSchemeChar_of_mem_of_isScheme scheme hscheme)
    (by rintro _ ⟨⟩; decide)

/-- A scheme source is a scheme with one colon behind it. -/
theorem isSchemeSource_iff
    (value : String) :
    isSchemeSource value = true ↔
      ∃ scheme, isScheme scheme = true ∧ value.toList = scheme ++ [':'] := by
  simp only [isSchemeSource, List.span_eq_takeWhile_dropWhile, Bool.and_eq_true, beq_iff_eq]
  constructor
  · rintro ⟨hscheme, hcolon⟩
    refine ⟨_, hscheme, ?_⟩
    rw [← hcolon, List.takeWhile_append_dropWhile]
  · rintro ⟨scheme, hscheme, htext⟩
    obtain ⟨htake, hdrop⟩ := takeWhile_dropWhile_scheme_colon scheme hscheme
    rw [htext, htake, hdrop]
    exact ⟨hscheme, rfl⟩

/-- Outside of its path, a host source is made of scheme characters and of three signs. -/
theorem isSchemeChar_or_mem_of_mem_text
    (source : HostSource)
    (hformed : source.IsFormed)
    (c : Char)
    (hc : c ∈ source.text) :
    isSchemeChar c = true ∨ c ∈ [':', '/', '*'] ∨ ∃ path ∈ source.path, c ∈ path := by
  rw [HostSource.text, List.mem_append, List.mem_append, List.mem_append] at hc
  rcases hc with ((hscheme | hhost) | hport) | hpath
  · cases hsome : source.scheme with
    | none => simp [hsome] at hscheme
    | some scheme =>
        simp only [hsome, Option.map_some, Option.getD_some, List.mem_append] at hscheme
        rcases hscheme with hmem | hsign
        · exact Or.inl (isSchemeChar_of_mem_of_isScheme _ (hformed.scheme scheme hsome) c hmem)
        · exact Or.inr (Or.inl ((by decide : [':', '/', '/'] ⊆ [':', '/', '*']) hsign))
  · have hsigns :=
      source.host.forall_mem_text hformed.host
        (fun c => isSchemeChar c = true ∨ c ∈ [':', '/', '*']) (by decide) (by decide)
        (fun c hlabel => Or.inl (isSchemeChar_of_isLabelChar c hlabel)) c hhost
    rcases hsigns with hchar | hsign
    · exact Or.inl hchar
    · exact Or.inr (Or.inl hsign)
  · cases hsome : source.port with
    | none => simp [hsome] at hport
    | some port =>
        simp only [hsome, Option.map_some, Option.getD_some, List.mem_cons] at hport
        rcases hport with rfl | hmem
        · exact Or.inr (Or.inl (by decide))
        · cases port with
          | any => exact Or.inr (Or.inl (by simpa [PortPattern.text] using Or.inr (Or.inr hmem)))
          | number digits =>
              have hdigit := (hformed.port _ hsome).2 c hmem
              exact Or.inl (by simp [isSchemeChar, Char.isAlphanum, hdigit])
  · cases hsome : source.path with
    | none => simp [hsome] at hpath
    | some path => exact Or.inr (Or.inr ⟨path, rfl, by simpa [hsome] using hpath⟩)

theorem isVisible_of_mem_path
    (path : List Char)
    (hformed : IsFormedPath path) :
    ∀ c ∈ path, IsVisible c := by
  obtain ⟨rest, rfl, hchars⟩ := hformed
  intro c hc
  rcases List.mem_cons.mp hc with rfl | hc
  · decide
  · exact isVisible_of_isPathChar c (hchars c hc)

/-- Every part of a host source is visible, and so are the signs between them. -/
theorem isVisible_of_isHostSource
    (value : String)
    (hhost : isHostSource value = true) :
    ∀ c ∈ value.toList, IsVisible c := by
  obtain ⟨source, hformed, -, htext⟩ := (isHostSource_iff value).mp hhost
  have hsigns : ∀ c ∈ [':', '/', '*'], IsVisible c := List.all_iff_forall_prop.mp (by decide)
  intro c hc
  rw [← htext] at hc
  rcases isSchemeChar_or_mem_of_mem_text source hformed c hc with
    hchar | hsign | ⟨path, hpath, hmem⟩
  · exact isVisible_of_isSchemeChar c hchar
  · exact hsigns c hsign
  · exact isVisible_of_mem_path path (hformed.path path hpath) c hmem

theorem isVisible_of_isSchemeSource
    (value : String)
    (hsource : isSchemeSource value = true) :
    ∀ c ∈ value.toList, IsVisible c := by
  obtain ⟨scheme, hscheme, htext⟩ := (isSchemeSource_iff value).mp hsource
  intro c hc
  rw [htext, List.mem_append, List.mem_singleton] at hc
  rcases hc with hmem | rfl
  · exact isVisible_of_isSchemeChar c (isSchemeChar_of_mem_of_isScheme scheme hscheme c hmem)
  · decide

end Source
end ContentSecurity
