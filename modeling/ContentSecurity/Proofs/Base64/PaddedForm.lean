import ContentSecurity.Proofs.Base64
import ContentSecurity.Proofs.Source.VisibleText
import ContentSecurity.Proofs.Text.Lowercase

/-!
# The padded form

The shape test reads a text in groups of four and asks of every group whether it
is the last one.  The pattern of the padded form does the same with repetitions
and alternatives.  This module brings both to one condition that knows no
groups: the length is a positive multiple of four, and the characters are digits
with at most two equals signs behind them.

The main statement is `padded_iff_digits_then_padding`.  It also says that the
encoder keeps to the form, except for the empty text.
-/

namespace ContentSecurity

namespace Source

open scoped Computability

/-- A class that is repeated a fixed number of times admits texts of that length. -/
theorem mem_pow_oneOf_iff
    (admits : Char → Bool)
    (n : Nat)
    (text : List Char) :
    text ∈ oneOf admits ^ n ↔ text.length = n ∧ ∀ c ∈ text, admits c = true := by
  induction n generalizing text with
  | zero =>
      rw [pow_zero, Language.mem_one, List.length_eq_zero_iff]
      constructor
      · rintro rfl
        simp
      · exact fun h => h.1
  | succ n ih =>
      rw [pow_succ', Language.mem_mul]
      constructor
      · rintro ⟨_, ⟨c, hc, rfl⟩, rest, hrest, rfl⟩
        obtain ⟨hlength, hchars⟩ := (ih rest).mp hrest
        exact ⟨by simp [hlength], by simpa [hc] using hchars⟩
      · rintro ⟨hlength, hchars⟩
        cases text with
        | nil => simp at hlength
        | cons c rest =>
            rw [List.forall_mem_cons] at hchars
            have hrest := (ih rest).mpr ⟨by simpa using hlength, hchars.2⟩
            exact ⟨[c], ⟨c, hchars.1, rfl⟩, rest, hrest, rfl⟩

/-- Repeated groups of one size admit the texts whose length is a multiple of the size. -/
theorem mem_kstar_pow_oneOf_iff
    (admits : Char → Bool)
    (n : Nat)
    (text : List Char) :
    text ∈ (oneOf admits ^ n)∗ ↔ n ∣ text.length ∧ ∀ c ∈ text, admits c = true := by
  rw [Language.mem_kstar]
  constructor
  · rintro ⟨groups, rfl, hgroups⟩
    induction groups with
    | nil => simp
    | cons group groups ih =>
        obtain ⟨hlength, hchars⟩ :=
          (mem_pow_oneOf_iff admits n group).mp (hgroups group List.mem_cons_self)
        obtain ⟨hdvd, hrest⟩ := ih fun g hg => hgroups g (List.mem_cons_of_mem group hg)
        rw [List.flatten_cons, List.length_append, hlength]
        refine ⟨Nat.dvd_add (Nat.dvd_refl n) hdvd, fun c hc => ?_⟩
        rcases List.mem_append.mp hc with hc | hc
        · exact hchars c hc
        · exact hrest c hc
  · rintro ⟨⟨count, hcount⟩, hchars⟩
    induction count generalizing text with
    | zero =>
        have hempty : text = [] := List.length_eq_zero_iff.mp (by simpa using hcount)
        exact ⟨[], by simp [hempty], by simp⟩
    | succ count ih =>
        have hlength : text.length = n + n * count := by rw [hcount, Nat.mul_succ, Nat.add_comm]
        obtain ⟨groups, hrest, hgroups⟩ :=
          ih (text.drop n) (fun c hc => hchars c (List.mem_of_mem_drop hc)) (by simp [hlength])
        refine ⟨text.take n :: groups, ?_, fun group hgroup => ?_⟩
        · rw [List.flatten_cons, ← hrest, List.take_append_drop]
        · rcases List.mem_cons.mp hgroup with rfl | hgroup
          · rw [mem_pow_oneOf_iff]
            exact ⟨by simp [hlength], fun c hc => hchars c (List.mem_of_mem_take hc)⟩
          · exact hgroups group hgroup

end Source

namespace Base64

open scoped Computability
open Source (oneOf mem_pow_oneOf_iff mem_kstar_pow_oneOf_iff)

/-- Four digits, or three and two of them with the missing ones filled up. -/
def lastGroup : Language Char :=
  oneOf isDigit ^ 4 + oneOf isDigit ^ 3 * {['=']} + oneOf isDigit ^ 2 * {['=', '=']}

/-- Groups of four digits, and a last group. -/
def paddedPattern : Language Char :=
  (oneOf isDigit ^ 4)∗ * lastGroup

/-- The digits of the shape test are the characters that the encoder writes. -/
theorem isDigit_iff_mem_alphabet
    (c : Char) :
    isDigit c = true ↔ c ∈ alphabet := by
  constructor
  · intro hdigit
    have hascii : Text.IsAscii c := by
      simp only [isDigit, Bool.or_eq_true, beq_iff_eq] at hdigit
      rcases hdigit with (halphanum | rfl) | rfl
      · have hlast := (Source.isVisible_of_isAlphanum c halphanum).2
        unfold Text.IsAscii
        omega
      · decide
      · decide
    have hlisted :=
      Text.forall_ascii (fun c => isDigit c = true → c ∈ alphabet) (by decide +kernel) c hascii
    exact hlisted hdigit
  · exact isDigit_of_mem_alphabet c

/-- Digits, and the number of equals signs behind them, that fill whole groups of four. -/
structure FillsGroups
    (digits : List Char)
    (padding : Nat) : Prop where
  isDigit : ∀ c ∈ digits, isDigit c = true
  padding_le : padding ≤ 2
  pos : 0 < digits.length + padding
  dvd : 4 ∣ digits.length + padding

/-- Such digits and equals signs pass the shape test, group by group. -/
theorem isPaddedChars_of_fillsGroups :
    ∀ (digits : List Char) (padding : Nat),
      FillsGroups digits padding →
        isPaddedChars (digits ++ List.replicate padding '=') = true
  | [], padding, ⟨_, hpadding, hpos, hdvd⟩ => by
      simp only [List.length_nil] at hpos hdvd
      omega
  | [_], padding, ⟨_, hpadding, _, hdvd⟩ => by
      simp only [List.length_singleton] at hdvd
      omega
  | [a, b], padding, ⟨hdigits, hpadding, _, hdvd⟩ => by
      have htwo : padding = 2 := by
        simp only [List.length_cons, List.length_nil] at hdvd
        omega
      simp only [List.forall_mem_cons] at hdigits
      simp [htwo, List.replicate_succ, isPaddedChars, isLastGroup, hdigits]
  | [a, b, c], padding, ⟨hdigits, hpadding, _, hdvd⟩ => by
      have hone : padding = 1 := by
        simp only [List.length_cons, List.length_nil] at hdvd
        omega
      simp only [List.forall_mem_cons] at hdigits
      simp [hone, isPaddedChars, isLastGroup, hdigits]
  | a :: b :: c :: d :: digits, padding, ⟨hdigits, hpadding, _, hdvd⟩ => by
      simp only [List.forall_mem_cons] at hdigits
      obtain ⟨ha, hb, hc, hd, hrest⟩ := hdigits
      by_cases hmore : digits ++ List.replicate padding '=' = []
      · simp [hmore, isPaddedChars, isLastGroup, ha, hb, hc, hd]
      · have hlength : 0 < digits.length + padding := by
          simpa using List.length_pos_iff.mpr hmore
        have hfills : FillsGroups digits padding := by
          simp only [List.length_cons] at hdvd
          exact ⟨hrest, hpadding, hlength, by omega⟩
        rw [List.cons_append, List.cons_append, List.cons_append, List.cons_append,
          isPaddedChars_group a b c d _ hmore, isPaddedChars_of_fillsGroups digits padding hfills]
        simp [ha, hb, hc, hd]

/-- A text that passes the shape test falls into such digits and equals signs. -/
theorem exists_fillsGroups_of_isPaddedChars
    (text : List Char)
    (hpadded : isPaddedChars text = true) :
    ∃ digits padding,
      FillsGroups digits padding ∧ text = digits ++ List.replicate padding '=' := by
  fun_induction isPaddedChars text with
  | case1 a b c d =>
      simp only [isLastGroup, Bool.and_eq_true, Bool.or_eq_true, beq_iff_eq] at hpadded
      obtain ⟨⟨ha, hb⟩, ⟨hc, hd | rfl⟩ | ⟨rfl, rfl⟩⟩ := hpadded
      · exact ⟨[a, b, c, d], 0, ⟨by simp [ha, hb, hc, hd], by simp, by simp, by simp⟩, rfl⟩
      · exact ⟨[a, b, c], 1, ⟨by simp [ha, hb, hc], by simp, by simp, by simp⟩, rfl⟩
      · exact ⟨[a, b], 2, ⟨by simp [ha, hb], by simp, by simp, by simp⟩, rfl⟩
  | case2 a b c d rest hrest ih =>
      simp only [Bool.and_eq_true] at hpadded
      obtain ⟨⟨⟨⟨ha, hb⟩, hc⟩, hd⟩, hpadded⟩ := hpadded
      obtain ⟨digits, padding, hfills, rfl⟩ := ih hpadded
      have hdvd := hfills.dvd
      refine ⟨a :: b :: c :: d :: digits, padding, ⟨?_, hfills.padding_le, ?_, ?_⟩, rfl⟩
      · simpa [ha, hb, hc, hd] using hfills.isDigit
      · simp only [List.length_cons]
        omega
      · simp only [List.length_cons]
        omega
  | case3 => exact absurd hpadded (by simp)

theorem isPaddedChars_iff
    (text : List Char) :
    isPaddedChars text = true ↔
      ∃ digits padding,
        FillsGroups digits padding ∧ text = digits ++ List.replicate padding '=' := by
  constructor
  · exact exists_fillsGroups_of_isPaddedChars text
  · rintro ⟨digits, padding, hfills, rfl⟩
    exact isPaddedChars_of_fillsGroups digits padding hfills

/-- The last group is a group of four by itself. -/
theorem mem_lastGroup_iff
    (text : List Char) :
    text ∈ lastGroup ↔
      ∃ digits padding,
        FillsGroups digits padding ∧ digits.length + padding = 4 ∧
          text = digits ++ List.replicate padding '=' := by
  simp only [lastGroup, Language.mem_add, Language.mem_mul, mem_pow_oneOf_iff]
  constructor
  · rintro ((⟨hlength, hdigits⟩ | ⟨digits, ⟨hlength, hdigits⟩, _, rfl, rfl⟩) |
      ⟨digits, ⟨hlength, hdigits⟩, _, rfl, rfl⟩)
    · exact ⟨text, 0, ⟨hdigits, by simp, by omega, by omega⟩, hlength, by simp⟩
    · exact ⟨digits, 1, ⟨hdigits, by simp, by omega, by omega⟩, by omega, rfl⟩
    · exact ⟨digits, 2, ⟨hdigits, by simp, by omega, by omega⟩, by omega, rfl⟩
  · rintro ⟨digits, padding, hfills, hlength, rfl⟩
    have hpadding := hfills.padding_le
    have hcases : padding = 0 ∨ padding = 1 ∨ padding = 2 := by omega
    rcases hcases with rfl | rfl | rfl
    · exact Or.inl (Or.inl ⟨by simpa using hlength, by simpa using hfills.isDigit⟩)
    · exact Or.inl (Or.inr ⟨digits, ⟨by omega, hfills.isDigit⟩, _, rfl, rfl⟩)
    · exact Or.inr ⟨digits, ⟨by omega, hfills.isDigit⟩, _, rfl, rfl⟩

/-- The pattern admits the same texts as the shape test. -/
theorem mem_paddedPattern_iff
    (text : List Char) :
    text ∈ paddedPattern ↔ isPaddedChars text = true := by
  rw [isPaddedChars_iff, paddedPattern, Language.mem_mul]
  constructor
  · rintro ⟨groups, hgroups, _, hlast, rfl⟩
    obtain ⟨hdvd, hdigits⟩ := (mem_kstar_pow_oneOf_iff isDigit 4 groups).mp hgroups
    obtain ⟨digits, padding, hfills, hlength, rfl⟩ := (mem_lastGroup_iff _).mp hlast
    refine ⟨groups ++ digits, padding, ⟨fun c hc => ?_, hfills.padding_le, ?_, ?_⟩, by simp⟩
    · rcases List.mem_append.mp hc with hc | hc
      · exact hdigits c hc
      · exact hfills.isDigit c hc
    · rw [List.length_append]
      omega
    · rw [List.length_append]
      omega
  · rintro ⟨digits, padding, hfills, rfl⟩
    have hpadding := hfills.padding_le
    have hpos := hfills.pos
    have hdvd := hfills.dvd
    -- All digits but those of the last group are repeated groups.
    let start := digits.length + padding - 4
    refine ⟨digits.take start, ?_, digits.drop start ++ List.replicate padding '=', ?_, ?_⟩
    · rw [mem_kstar_pow_oneOf_iff]
      refine ⟨?_, fun c hc => hfills.isDigit c (List.mem_of_mem_take hc)⟩
      rw [List.length_take]
      omega
    · rw [mem_lastGroup_iff]
      have hlength : (digits.drop start).length + padding = 4 := by
        rw [List.length_drop]
        omega
      exact ⟨digits.drop start, padding,
        ⟨fun c hc => hfills.isDigit c (List.mem_of_mem_drop hc), hpadding, by omega, by omega⟩,
        hlength, rfl⟩
    · rw [← List.append_assoc, List.take_append_drop]

/--
A text has the padded form exactly if its length is a positive multiple of four
and it consists of digits with at most two equals signs behind them.  That is
what the pattern of the form admits, and what the encoder makes of any bytes
unless there are none.
-/
theorem padded_iff_digits_then_padding
    (text : String) :
    (isPadded text = true ↔ text.toList ∈ paddedPattern) ∧
    (isPadded text = true ↔
      (0 < text.length ∧ 4 ∣ text.length) ∧
        ∃ (digits : List Char) (padding : Nat),
          (∀ c ∈ digits, c ∈ alphabet) ∧ padding ≤ 2 ∧
            text.toList = digits ++ List.replicate padding '=') ∧
    ∀ bytes : List UInt8, isPadded (encode bytes) = true ↔ bytes ≠ [] := by
  refine ⟨(mem_paddedPattern_iff text.toList).symm, ?_, fun bytes => ⟨?_, isPadded_encode bytes⟩⟩
  · rw [isPadded, isPaddedChars_iff, ← String.length_toList]
    constructor
    · rintro ⟨digits, padding, hfills, htext⟩
      have hlength : text.toList.length = digits.length + padding := by simp [htext]
      rw [hlength]
      refine ⟨⟨hfills.pos, hfills.dvd⟩, digits, padding, fun c hc => ?_, hfills.padding_le, htext⟩
      exact (isDigit_iff_mem_alphabet c).mp (hfills.isDigit c hc)
    · rintro ⟨⟨hpos, hdvd⟩, digits, padding, hdigits, hpadding, htext⟩
      have hlength : text.toList.length = digits.length + padding := by simp [htext]
      rw [hlength] at hpos hdvd
      refine ⟨digits, padding, ⟨fun c hc => ?_, hpadding, hpos, hdvd⟩, htext⟩
      exact (isDigit_iff_mem_alphabet c).mpr (hdigits c hc)
  · rintro hpadded rfl
    exact absurd hpadded (by decide)

/-- A last group with two digits passes, and a text with an incomplete one does not. -/
theorem padded_iff_digits_then_padding_of_short_groups :
    isPadded "ab+/QQ==" = true ∧ isPadded "ab+/QQ=" = false := by
  constructor
  · have hform := (padded_iff_digits_then_padding "ab+/QQ==").2.1
    have hdigits : ∀ c ∈ "ab+/QQ".toList, c ∈ alphabet := List.all_iff_forall_prop.mp (by decide)
    exact hform.mpr ⟨by decide, "ab+/QQ".toList, 2, hdigits, by decide, by decide⟩
  · have hform := (padded_iff_digits_then_padding "ab+/QQ=").2.1
    rw [Bool.eq_false_iff]
    intro hpadded
    exact absurd (hform.mp hpadded).1.2 (by decide)

end Base64
end ContentSecurity
