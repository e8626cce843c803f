import ContentSecurity.Header.Collection
import ContentSecurity.Proofs.Text.Splitting
import Mathlib.Data.List.Forall2

/-!
# Headers as lines of a response

Names and values of headers can hold text from outside, line breaks included.
They are written without them, so a header is one line of the response whatever
it was made from, and a receiver that cuts the response at its line ends finds
the lines that were meant.

What is deleted is said by `IsWithoutLineBreaks`, which no other text satisfies
(`isWithoutLineBreaks_iff`).  The main statement is `written_lines_are_read_back`.
-/

namespace ContentSecurity
namespace HeaderCollection

/-- The characters that end a line. -/
def IsLineBreak
    (c : Char) :
    Prop :=
  c = '\r' ∨ c = '\n'

instance
    (c : Char) :
    Decidable (IsLineBreak c) :=
  inferInstanceAs (Decidable (_ ∨ _))

/--
A text with all line breaks of the original deleted and nothing else: the
characters stand in the order of the original, and every one that is no line break
stands there as often.
-/
structure IsWithoutLineBreaks
    (original text : String) : Prop where
  ordered : text.toList.Sublist original.toList
  count :
    ∀ c, text.toList.count c = if IsLineBreak c then 0 else original.toList.count c

/-- No line break is left. -/
theorem IsWithoutLineBreaks.not_mem
    {original text : String}
    (htext : IsWithoutLineBreaks original text)
    {c : Char}
    (hbreak : IsLineBreak c) :
    c ∉ text.toList := by
  have hcount := htext.count c
  rw [if_pos hbreak] at hcount
  exact List.count_eq_zero.mp hcount

theorem toList_dropLineBreaks
    (text : String) :
    (dropLineBreaks text).toList = text.toList.filter fun c => ¬ IsLineBreak c := by
  rw [dropLineBreaks, String.toList_ofList]
  refine List.filter_congr fun c _ => ?_
  simp [IsLineBreak, bne, beq_eq_decide]

theorem isWithoutLineBreaks_dropLineBreaks
    (original : String) :
    IsWithoutLineBreaks original (dropLineBreaks original) := by
  refine ⟨?_, fun c => ?_⟩
  · rw [toList_dropLineBreaks]
    exact List.filter_sublist
  · rw [toList_dropLineBreaks]
    by_cases hbreak : IsLineBreak c
    · rw [if_pos hbreak, List.count_eq_zero]
      simp [hbreak]
    · rw [if_neg hbreak]
      exact List.count_filter (by simpa using hbreak)

/-- There is one such text for every original, and it is the one that is written. -/
theorem isWithoutLineBreaks_iff
    (original text : String) :
    IsWithoutLineBreaks original text ↔ text = dropLineBreaks original := by
  constructor
  · intro htext
    have hwritten := isWithoutLineBreaks_dropLineBreaks original
    -- Both hold the same characters equally often, and one is a part of the other in order.
    have hperm : text.toList.Perm (dropLineBreaks original).toList := by
      rw [List.perm_iff_count]
      intro c
      rw [htext.count, hwritten.count]
    have hkept : text.toList.filter (fun c => ¬ IsLineBreak c) = text.toList := by
      rw [List.filter_eq_self]
      intro c hc
      simpa using fun hbreak => htext.not_mem hbreak hc
    have hordered : text.toList.Sublist (dropLineBreaks original).toList := by
      rw [toList_dropLineBreaks, ← hkept]
      exact htext.ordered.filter _
    exact String.toList_inj.mp (hordered.eq_of_length hperm.length_eq)
  · rintro rfl
    exact isWithoutLineBreaks_dropLineBreaks original

/-- The headers that have a value. -/
def emitted
    (collection : HeaderCollection) :
    List Header :=
  collection.headers.filter (·.value?.isSome)

/-- A name and a value are written for a header. -/
structure IsWritten
    (header : Header)
    (entry : String × String) : Prop where
  name : IsWithoutLineBreaks header.fieldName entry.1
  value : ∃ value, header.value? = some value ∧ IsWithoutLineBreaks value entry.2

/-- Names and values are written for the headers that have a value, in their order. -/
theorem forall₂_emitted_build
    (collection : HeaderCollection) :
    List.Forall₂ IsWritten collection.emitted collection.build := by
  obtain ⟨headers⟩ := collection
  induction headers with
  | nil => exact List.Forall₂.nil
  | cons header headers ih =>
      simp only [emitted, build] at ih ⊢
      cases hvalue : header.value? with
      | none =>
          rw [List.filter_cons_of_neg (by simp [hvalue]),
            List.filterMap_cons_none (by rw [hvalue, Option.map_none])]
          exact ih
      | some value =>
          rw [List.filter_cons_of_pos (by simp [hvalue]),
            List.filterMap_cons_some (by rw [hvalue, Option.map_some])]
          refine List.Forall₂.cons ⟨?_, value, hvalue, ?_⟩ ih
          · exact isWithoutLineBreaks_dropLineBreaks header.fieldName
          · exact isWithoutLineBreaks_dropLineBreaks value

/-- Neither part of an entry holds a line break. -/
theorem not_isLineBreak_of_mem_build
    (collection : HeaderCollection) :
    ∀ entry ∈ collection.build, ∀ c, IsLineBreak c → c ∉ entry.1.toList ∧ c ∉ entry.2.toList := by
  intro entry hentry c hbreak
  obtain ⟨header, -, hwritten⟩ := List.mem_filterMap.mp hentry
  obtain ⟨value, -, rfl⟩ := Option.map_eq_some_iff.mp hwritten
  exact ⟨(isWithoutLineBreaks_dropLineBreaks header.fieldName).not_mem hbreak,
    (isWithoutLineBreaks_dropLineBreaks value).not_mem hbreak⟩

/-- A line holds no line break: what is written between the name and the value is none. -/
theorem not_isLineBreak_of_mem_lines
    (collection : HeaderCollection) :
    ∀ line ∈ collection.lines, ∀ c, IsLineBreak c → c ∉ line.toList := by
  intro line hline c hbreak
  obtain ⟨entry, hentry, rfl⟩ := List.mem_map.mp hline
  obtain ⟨hname, hvalue⟩ := not_isLineBreak_of_mem_build collection entry hentry c hbreak
  have hcolon : c ∉ ": ".toList := by
    rcases hbreak with rfl | rfl <;> decide
  simp only [String.toList_append, List.mem_append, not_or]
  exact ⟨⟨hname, hcolon⟩, hvalue⟩

/-- A header is one line. -/
def IsLineOf
    (header : Header)
    (line : String) : Prop :=
  ∃ entry, IsWritten header entry ∧ line = entry.1 ++ ": " ++ entry.2

theorem forall₂_emitted_lines
    (collection : HeaderCollection) :
    List.Forall₂ IsLineOf collection.emitted collection.lines := by
  rw [lines, List.forall₂_map_right_iff]
  exact (forall₂_emitted_build collection).imp fun _ entry hentry => ⟨entry, hentry, rfl⟩

/--
Whatever the names and values of headers hold, one entry is written for every
header that has a value, in their order, and each part of it is the original
without its line breaks.  No line break is left in an entry.  So the lines, one
for every such header, are what a receiver finds between the line ends of the
response.
-/
theorem written_lines_are_read_back
    (collection : HeaderCollection) :
    List.Forall₂ IsWritten collection.emitted collection.build ∧
    (∀ entry ∈ collection.build, ∀ c, IsLineBreak c →
      c ∉ entry.1.toList ∧ c ∉ entry.2.toList) ∧
    List.Forall₂ IsLineOf collection.emitted collection.lines ∧
    (collection.emitted ≠ [] →
      Text.splitAt "\r\n" ("\r\n".intercalate collection.lines) = collection.lines) := by
  refine ⟨collection.forall₂_emitted_build, collection.not_isLineBreak_of_mem_build,
    collection.forall₂_emitted_lines, fun hemitted => ?_⟩
  have hne : collection.lines ≠ [] := by
    rw [← List.length_pos_iff, ← collection.forall₂_emitted_lines.length_eq]
    exact List.length_pos_iff.mpr hemitted
  exact Text.splitAt_intercalate "\r\n" '\r' collection.lines rfl hne fun line hline =>
    collection.not_isLineBreak_of_mem_lines line hline '\r' (Or.inl rfl)

/--
Two headers that try to begin lines of their own, with a header without a value
between them.
-/
theorem written_lines_are_read_back_of_broken_texts :
    let collection : HeaderCollection :=
      { headers :=
          [.custom "X-A\r\nSet-Cookie" (some "a\r\n\r\nb"), .policy {},
           .frame (.allowFrom "https://a.com\nX-B: c\r")] }
    collection.build =
      [("X-ASet-Cookie", "ab"), ("X-Frame-Options", "ALLOW-FROM https://a.comX-B: c")] ∧
    Text.splitAt "\r\n" ("\r\n".intercalate collection.lines) =
      ["X-ASet-Cookie: ab", "X-Frame-Options: ALLOW-FROM https://a.comX-B: c"] := by
  intro collection
  have hread := (written_lines_are_read_back collection).2.2.2 (by decide)
  refine ⟨by decide, ?_⟩
  rw [hread]
  decide

end HeaderCollection
end ContentSecurity
