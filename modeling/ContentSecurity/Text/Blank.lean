/-!
# Blank characters and trimming

This module holds the Unicode White_Space property and the trimming that is
built on it.  Every text that enters a directive is trimmed here first.

The main statements say that a trimmed text has no blank at either end and that
trimming it again changes nothing.
-/

namespace ContentSecurity
namespace Text

/-- Ranges of code points, both ends included, that have the White_Space property. -/
def blankRanges : List (Nat × Nat) :=
  [(0x0009, 0x000D), (0x0020, 0x0020), (0x0085, 0x0085), (0x00A0, 0x00A0),
   (0x1680, 0x1680), (0x2000, 0x200A), (0x2028, 0x2029), (0x202F, 0x202F),
   (0x205F, 0x205F), (0x3000, 0x3000)]

/-- A blank is a character with the White_Space property. -/
def isBlankChar
    (c : Char) :
    Bool :=
  blankRanges.any fun range => range.1 ≤ c.toNat && c.toNat ≤ range.2

/-- Drops the blanks at the end. -/
def trimEndChars
    (cs : List Char) :
    List Char :=
  (cs.reverse.dropWhile isBlankChar).reverse

/-- Drops the blanks at both ends. -/
def trimChars
    (cs : List Char) :
    List Char :=
  trimEndChars (cs.dropWhile isBlankChar)

/-- The text without the blanks at its two ends. -/
def trim
    (s : String) :
    String :=
  String.ofList (trimChars s.toList)

/-- A text is blank when nothing of it is left after trimming. -/
def isBlank
    (s : String) :
    Bool :=
  s.toList.all isBlankChar

@[simp] theorem toList_trim
    (s : String) :
    (trim s).toList = trimChars s.toList := by
  simp [trim]

/-- What is left begins with no blank. -/
theorem head?_dropWhile_isBlankChar
    (cs : List Char)
    (c : Char)
    (h : (cs.dropWhile isBlankChar).head? = some c) :
    isBlankChar c = false := by
  have hfirst := List.head?_dropWhile_not isBlankChar cs
  simpa [h] using hfirst

/-- Trimming at the end changes nothing where the last character is no blank. -/
theorem trimEndChars_eq_self
    (cs : List Char)
    (h : ∀ c, cs.getLast? = some c → isBlankChar c = false) :
    trimEndChars cs = cs := by
  cases hreversed : cs.reverse with
  | nil => simp_all [trimEndChars]
  | cons c rest =>
      have hlast : cs.getLast? = some c := by
        rw [← List.head?_reverse, hreversed, List.head?_cons]
      have hkept : cs.reverse.dropWhile isBlankChar = cs.reverse := by
        rw [hreversed, List.dropWhile_cons_of_neg (by simp [h c hlast])]
      rw [trimEndChars, hkept, List.reverse_reverse]

/-- A trimmed text ends with no blank. -/
theorem getLast?_trimEndChars
    (cs : List Char)
    (c : Char)
    (h : (trimEndChars cs).getLast? = some c) :
    isBlankChar c = false := by
  rw [trimEndChars, List.getLast?_reverse] at h
  exact head?_dropWhile_isBlankChar cs.reverse c h

/-- Trimming at the end keeps what a text begins with. -/
theorem trimEndChars_prefix
    (cs : List Char) :
    trimEndChars cs <+: cs := by
  have hsuffix := List.dropWhile_suffix (l := cs.reverse) isBlankChar
  simpa [trimEndChars] using List.reverse_prefix.mpr hsuffix

/-- A trimmed text begins with no blank. -/
theorem head?_trimChars
    (cs : List Char)
    (c : Char)
    (h : (trimChars cs).head? = some c) :
    isBlankChar c = false := by
  obtain ⟨rest, hrest⟩ := trimEndChars_prefix (cs.dropWhile isBlankChar)
  refine head?_dropWhile_isBlankChar cs c ?_
  rw [← hrest, List.head?_append]
  simpa [trimChars] using Or.inl h

/-- Trimming a trimmed text changes nothing. -/
theorem trimChars_trimChars
    (cs : List Char) :
    trimChars (trimChars cs) = trimChars cs := by
  have hstart : (trimChars cs).dropWhile isBlankChar = trimChars cs := by
    cases htrimmed : trimChars cs with
    | nil => rfl
    | cons c rest =>
        have hc := head?_trimChars cs c (by rw [htrimmed, List.head?_cons])
        rw [List.dropWhile_cons_of_neg (by simp [hc])]
  rw [trimChars, hstart]
  exact trimEndChars_eq_self _ (getLast?_trimEndChars _)

theorem dropWhile_isBlankChar_eq_nil_iff
    (cs : List Char) :
    cs.dropWhile isBlankChar = [] ↔ ∀ c ∈ cs, isBlankChar c = true := by
  induction cs with
  | nil => simp
  | cons c rest ih => by_cases hc : isBlankChar c = true <;> simp [hc, ih]

/-- Nothing is left of a text of blanks, and only of such a text. -/
theorem trimChars_eq_nil_iff
    (cs : List Char) :
    trimChars cs = [] ↔ cs.all isBlankChar = true := by
  simp only [trimChars, trimEndChars, List.reverse_eq_nil_iff,
    dropWhile_isBlankChar_eq_nil_iff, List.mem_reverse, List.all_eq_true]
  constructor
  · intro hleft c hc
    rw [← List.takeWhile_append_dropWhile (p := isBlankChar) (l := cs), List.mem_append] at hc
    rcases hc with hc | hc
    · exact List.all_eq_true.mp List.all_takeWhile c hc
    · exact hleft c hc
  · intro hblank c hc
    exact hblank c ((List.dropWhile_sublist _).subset hc)

/-- A text is blank exactly when its trimmed form is empty. -/
theorem isBlank_iff_trim_eq_empty
    (s : String) :
    isBlank s = true ↔ trim s = "" := by
  rw [isBlank, ← trimChars_eq_nil_iff, ← String.toList_inj, toList_trim]
  simp

/-- Trimming a trimmed text changes nothing. -/
theorem trim_trim
    (s : String) :
    trim (trim s) = trim s := by
  simp [trim, trimChars_trimChars]

/-- A text is trimmed exactly if it has no blank at either end. -/
theorem trim_eq_self_iff
    (s : String) :
    trim s = s ↔
      (∀ c, s.toList.head? = some c → isBlankChar c = false) ∧
        ∀ c, s.toList.getLast? = some c → isBlankChar c = false := by
  constructor
  · intro htrim
    rw [← htrim, toList_trim]
    exact ⟨head?_trimChars _, getLast?_trimEndChars _⟩
  · rintro ⟨hfirst, hlast⟩
    have hstart : s.toList.dropWhile isBlankChar = s.toList := by
      cases hs : s.toList with
      | nil => rfl
      | cons c rest => exact List.dropWhile_cons_of_neg (by simp [hfirst c (by simp [hs])])
    rw [trim, trimChars, hstart, trimEndChars_eq_self _ hlast, String.ofList_toList]

/-- A text without blanks is trimmed already. -/
theorem trim_eq_self
    (s : String)
    (h : ∀ c ∈ s.toList, isBlankChar c = false) :
    trim s = s :=
  (trim_eq_self_iff s).mpr
    ⟨fun c hc => h c (List.mem_of_head? hc), fun c hc => h c (List.mem_of_getLast? hc)⟩

/-- Blanks at the end do not matter. -/
theorem trimEndChars_append
    (cs after : List Char)
    (h : ∀ c ∈ after, isBlankChar c = true) :
    trimEndChars (cs ++ after) = trimEndChars cs := by
  have hafter : ∀ c ∈ after.reverse, isBlankChar c = true := by simpa using h
  rw [trimEndChars, List.reverse_append, List.dropWhile_append_of_pos hafter, trimEndChars]

/-- Blanks around a text do not matter. -/
theorem trimChars_append
    (before cs after : List Char)
    (hbefore : ∀ c ∈ before, isBlankChar c = true)
    (hafter : ∀ c ∈ after, isBlankChar c = true) :
    trimChars (before ++ cs ++ after) = trimChars cs := by
  rw [trimChars, List.append_assoc, List.dropWhile_append_of_pos hbefore, List.dropWhile_append]
  split
  · rename_i hblank
    rw [List.isEmpty_iff] at hblank
    have hnone := (dropWhile_isBlankChar_eq_nil_iff after).mpr hafter
    rw [hnone, trimChars, hblank]
  · rw [trimEndChars_append _ after hafter, trimChars]

theorem trim_append
    (before s after : String)
    (hbefore : isBlank before = true)
    (hafter : isBlank after = true) :
    trim (before ++ s ++ after) = trim s := by
  rw [isBlank, List.all_eq_true] at hbefore hafter
  rw [trim, String.toList_append, String.toList_append,
    trimChars_append _ _ _ hbefore hafter, trim]

end Text
end ContentSecurity
