import ContentSecurity.Text.Lowercase

/-!
# Lower case and ASCII

Lower-casing works over all of Unicode, while the grammars that read its result
know ASCII only.  This module says which characters reach ASCII: the ASCII
characters themselves, the Kelvin sign, whose small letter is the ASCII letter
k, and the capital I with a dot, which leaves its dot behind outside of ASCII.

The main statements are `lower_eq_foldLetters` and `isNearAscii_of_lower`, by
which a text whose lower case is ASCII throughout holds ASCII characters and
Kelvin signs only, and `mem_lower_iff`, by which signs and blanks of ASCII stand
in the lower case exactly if they stand in the text.
-/

namespace ContentSecurity
namespace Text

/-- The sign of the unit; its lower case is a letter of ASCII. -/
def kelvinSign : Char := '\u212a'

/-- A code point of ASCII. -/
def IsAscii
    (c : Char) : Prop :=
  c.toNat < 0x80

instance
    (c : Char) :
    Decidable (IsAscii c) :=
  inferInstanceAs (Decidable (_ < _))

/-- An ASCII character, or the one other character whose lower case is ASCII. -/
def IsNearAscii
    (c : Char) : Prop :=
  IsAscii c ∨ c = kelvinSign

instance
    (c : Char) :
    Decidable (IsNearAscii c) :=
  inferInstanceAs (Decidable (_ ∨ _))

/-- The lower case of ASCII letters and of the Kelvin sign. -/
def foldLetter
    (c : Char) :
    Char :=
  if c = kelvinSign then 'k' else c.toLower

/-- The text with its ASCII letters and Kelvin signs in lower case. -/
def foldLetters
    (s : String) :
    String :=
  String.ofList (s.toList.map foldLetter)

/-- A property of all ASCII characters, checked one by one. -/
theorem forall_ascii
    (holds : Char → Prop)
    (hall : ∀ n < 0x80, holds (Char.ofNat n))
    (c : Char)
    (hc : IsAscii c) :
    holds c := by
  have hn := hall c.toNat hc
  rwa [Char.ofNat_toNat] at hn

/-- Only ASCII letters have an ASCII lower case. -/
theorem toLower_of_not_isAscii
    (c : Char)
    (hc : ¬ IsAscii c) :
    c.toLower = c := by
  unfold Char.toLower
  refine dif_neg fun hcapital => hc ?_
  have hlast : c.toNat ≤ 'Z'.toNat := hcapital.2
  have hz : 'Z'.toNat < 0x80 := by decide
  simp only [IsAscii]
  omega

theorem isAscii_toLower_iff
    (c : Char) :
    IsAscii c.toLower ↔ IsAscii c := by
  by_cases hc : IsAscii c
  · have hlower := forall_ascii (fun c => IsAscii c.toLower) (by decide) c hc
    exact iff_of_true hlower hc
  · rw [toLower_of_not_isAscii c hc]

/-- Of the capitals outside of ASCII only the Kelvin sign has its small letter in ASCII. -/
theorem target_of_mem_caseRuns :
    ∀ run ∈ caseRuns,
      run.first = kelvinSign.toNat ∧ run.last = kelvinSign.toNat ∨
        0x80 ≤ run.target ∧
          (run.target + (run.last - run.first) < 0xD800 ∨
            0xDFFF < run.target ∧ run.target + (run.last - run.first) < 0x110000) := by
  decide +kernel

/-- A code point that is no surrogate is the one of its character. -/
theorem toNat_ofNat
    (n : Nat)
    (hn : n < 0xD800 ∨ 0xDFFF < n ∧ n < 0x110000) :
    (Char.ofNat n).toNat = n := by
  have hvalid : n.isValidChar := hn
  rw [Char.ofNat, dif_pos hvalid]
  rfl

theorem lowerChar_of_isAscii
    (c : Char)
    (hc : IsAscii c) :
    lowerChar c = [c.toLower] :=
  if_pos hc

theorem lowerChar_kelvinSign :
    lowerChar kelvinSign = ['k'] := by
  decide

theorem lowerChar_dottedCapital :
    lowerChar '\u0130' = ['i', '\u0307'] := by
  decide

/-- All other characters keep out of ASCII. -/
theorem exists_lowerChar_eq
    (c : Char)
    (hc : ¬ IsNearAscii c)
    (hdotted : c ≠ '\u0130') :
    ∃ x, lowerChar c = [x] ∧ ¬ IsAscii x := by
  obtain ⟨hascii, hkelvin⟩ := not_or.mp hc
  have hlarge : ¬ c.toNat < 0x80 := hascii
  rw [lowerChar, if_neg hlarge, if_neg hdotted]
  cases hrun : caseRuns.find? (·.covers c.toNat) with
  | none => exact ⟨c, rfl, hascii⟩
  | some run =>
      have hcovers := List.find?_some hrun
      simp only [CaseRun.covers, Bool.and_eq_true, decide_eq_true_eq] at hcovers
      refine ⟨_, rfl, ?_⟩
      rcases target_of_mem_caseRuns run (List.mem_of_find?_eq_some hrun) with
        ⟨hfirst, hlast⟩ | ⟨htarget, hvalid⟩
      · have hcode : c.toNat = kelvinSign.toNat := by omega
        exact absurd (Char.toNat_inj.mp hcode) hkelvin
      · have himage : (Char.ofNat (run.image c.toNat)).toNat = run.image c.toNat := by
          refine toNat_ofNat _ ?_
          rw [CaseRun.image]
          omega
        rw [IsAscii, himage, CaseRun.image]
        omega

/-- Characters near ASCII have one small letter. -/
theorem lowerChar_of_isNearAscii
    (c : Char)
    (hc : IsNearAscii c) :
    lowerChar c = [foldLetter c] := by
  rcases hc with hascii | rfl
  · have hkelvin : c ≠ kelvinSign := by
      rintro rfl
      exact absurd hascii (by decide)
    rw [lowerChar_of_isAscii c hascii, foldLetter, if_neg hkelvin]
  · exact lowerChar_kelvinSign

/-- A lower case that is ASCII throughout comes from a character near ASCII. -/
theorem isNearAscii_of_lowerChar
    (c : Char)
    (hlower : ∀ x ∈ lowerChar c, IsAscii x) :
    IsNearAscii c := by
  refine Decidable.byContradiction fun hc => ?_
  by_cases hdotted : c = '\u0130'
  · rw [hdotted, lowerChar_dottedCapital] at hlower
    exact absurd (hlower '\u0307' (by simp)) (by decide)
  · obtain ⟨x, hx, hlarge⟩ := exists_lowerChar_eq c hc hdotted
    rw [hx] at hlower
    exact hlarge (hlower x (by simp))

theorem isAscii_foldLetter_iff
    (c : Char) :
    IsAscii (foldLetter c) ↔ IsNearAscii c := by
  by_cases hkelvin : c = kelvinSign
  · subst hkelvin
    decide
  · rw [foldLetter, if_neg hkelvin, isAscii_toLower_iff, IsNearAscii]
    simp [hkelvin]

/-- The lower case of a text near ASCII folds its letters. -/
theorem lower_eq_foldLetters
    (s : String)
    (hs : ∀ c ∈ s.toList, IsNearAscii c) :
    lower s = foldLetters s := by
  have hchars : s.toList.flatMap lowerChar = s.toList.map foldLetter := by
    rw [List.map_eq_flatMap, List.flatMap_def, List.flatMap_def]
    exact congrArg List.flatten
      (List.map_congr_left fun c hc => lowerChar_of_isNearAscii c (hs c hc))
  rw [lower, foldLetters, hchars]

/-- A text whose lower case is ASCII throughout is near ASCII. -/
theorem isNearAscii_of_lower
    (s : String)
    (hlower : ∀ x ∈ (lower s).toList, IsAscii x) :
    ∀ c ∈ s.toList, IsNearAscii c := by
  intro c hc
  refine isNearAscii_of_lowerChar c fun x hx => hlower x ?_
  rw [lower, String.toList_ofList]
  exact List.mem_flatMap.mpr ⟨c, hc, hx⟩

/-- A text whose folded letters are ASCII throughout is near ASCII. -/
theorem isNearAscii_of_foldLetters
    (s : String)
    (hfolded : ∀ x ∈ (foldLetters s).toList, IsAscii x) :
    ∀ c ∈ s.toList, IsNearAscii c := by
  intro c hc
  refine (isAscii_foldLetter_iff c).mp (hfolded _ ?_)
  rw [foldLetters, String.toList_ofList]
  exact List.mem_map_of_mem hc

/-- Without Kelvin signs only ASCII letters are folded. -/
theorem foldLetters_eq_lowerAscii
    (s : String)
    (hs : kelvinSign ∉ s.toList) :
    foldLetters s = lowerAscii s := by
  have hchars : s.toList.map foldLetter = s.toList.map Char.toLower := by
    refine List.map_congr_left fun c hc => if_neg ?_
    rintro rfl
    exact hs hc
  rw [foldLetters, lowerAscii, hchars]

/-- For an ASCII text without the letter k, lower case is a matter of ASCII letters. -/
theorem lower_eq_iff_lowerAscii_eq
    (s text : String)
    (hascii : ∀ c ∈ text.toList, IsAscii c)
    (hfree : 'k' ∉ text.toList) :
    lower s = text ↔ lowerAscii s = text := by
  constructor
  · rintro rfl
    have hnear := isNearAscii_of_lower s hascii
    have hfolded := lower_eq_foldLetters s hnear
    rw [hfolded, foldLetters, String.toList_ofList] at hfree
    have hkelvin : kelvinSign ∉ s.toList := fun hmem => hfree (List.mem_map_of_mem hmem)
    rw [hfolded, foldLetters_eq_lowerAscii s hkelvin]
  · rintro rfl
    have hs : ∀ c ∈ s.toList, IsAscii c := by
      intro c hc
      refine (isAscii_toLower_iff c).mp (hascii _ ?_)
      rw [lowerAscii, String.toList_ofList]
      exact List.mem_map_of_mem hc
    have hkelvin : kelvinSign ∉ s.toList := fun hmem => absurd (hs _ hmem) (by decide)
    rw [lower_eq_foldLetters s fun c hc => Or.inl (hs c hc),
      foldLetters_eq_lowerAscii s hkelvin]

/-- An ASCII character that is no letter is the lower case of itself alone. -/
theorem mem_lowerChar_iff
    (c x : Char)
    (hx : IsAscii x)
    (hletter : x.isAlpha = false) :
    x ∈ lowerChar c ↔ c = x := by
  by_cases hnear : IsNearAscii c
  · rcases hnear with hc | rfl
    · have hletters :=
        forall_ascii (fun c => c.toLower = c ∨ c.isAlpha = true ∧ c.toLower.isAlpha = true)
          (by decide) c hc
      rw [lowerChar_of_isAscii c hc, List.mem_singleton]
      rcases hletters with hsame | ⟨hletter', hlower⟩
      · rw [hsame, eq_comm]
      · constructor
        · rintro rfl
          simp [hlower] at hletter
        · rintro rfl
          simp [hletter'] at hletter
    · rw [lowerChar_kelvinSign, List.mem_singleton]
      constructor
      · rintro rfl
        exact absurd hletter (by decide)
      · rintro rfl
        exact absurd hx (by decide)
  · have hne : c ≠ x := by
      rintro rfl
      exact hnear (Or.inl hx)
    refine iff_of_false (fun hmem => ?_) hne
    by_cases hdotted : c = '\u0130'
    · rw [hdotted, lowerChar_dottedCapital] at hmem
      rcases List.mem_cons.mp hmem with rfl | hmem
      · exact absurd hletter (by decide)
      · rw [List.mem_singleton.mp hmem] at hx
        exact absurd hx (by decide)
    · obtain ⟨y, hy, hlarge⟩ := exists_lowerChar_eq c hnear hdotted
      rw [hy, List.mem_singleton] at hmem
      exact hlarge (hmem ▸ hx)

/-- Lower-casing neither brings in nor takes away an ASCII character that is no letter. -/
theorem mem_lower_iff
    (s : String)
    (x : Char)
    (hx : IsAscii x)
    (hletter : x.isAlpha = false) :
    x ∈ (lower s).toList ↔ x ∈ s.toList := by
  rw [lower, String.toList_ofList, List.mem_flatMap]
  constructor
  · rintro ⟨c, hc, hmem⟩
    rwa [(mem_lowerChar_iff c x hx hletter).mp hmem] at hc
  · intro hmem
    exact ⟨x, hmem, (mem_lowerChar_iff x x hx hletter).mpr rfl⟩

/-- Every character has a lower case. -/
theorem lowerChar_ne_nil
    (c : Char) :
    lowerChar c ≠ [] := by
  unfold lowerChar
  split
  · simp
  · split
    · simp
    · split <;> simp

theorem lower_eq_empty_iff
    (s : String) :
    lower s = "" ↔ s = "" := by
  rw [← String.toList_inj, ← String.toList_inj, lower, String.toList_ofList, String.toList_empty,
    List.flatMap_eq_nil_iff, List.eq_nil_iff_forall_not_mem]
  exact forall₂_congr fun c hc => iff_false_intro (lowerChar_ne_nil c)

end Text
end ContentSecurity
