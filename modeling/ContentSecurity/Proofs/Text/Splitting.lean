/-!
# Splitting at a separator

A text is cut at every occurrence of a separator.  Occurrences are looked for
from left to right and do not overlap.

Cutting undoes joining as soon as the first character of the separator stands in
none of the joined pieces.  For a separator of one character that condition is
also necessary.
-/

namespace ContentSecurity
namespace Text

/-- A run is cut off where a character outside of its class follows. -/
theorem takeWhile_dropWhile_append
    (admits : Char → Bool)
    (run rest : List Char)
    (hrun : ∀ c ∈ run, admits c = true)
    (hrest : ∀ c ∈ rest.head?, admits c = false) :
    (run ++ rest).takeWhile admits = run ∧ (run ++ rest).dropWhile admits = rest := by
  rw [List.takeWhile_append_of_pos hrun, List.dropWhile_append_of_pos hrun]
  cases rest with
  | nil => simp
  | cons c rest =>
      have hc : admits c = false := hrest c rfl
      simp [hc]

section FirstOccurrence

variable (stop : Char) (run rest : List Char) (hfree : stop ∉ run)

include hfree

/-- A text is cut off at the first occurrence of a character. -/
theorem takeWhile_dropWhile_ne_append :
    (run ++ stop :: rest).takeWhile (· != stop) = run ∧
      (run ++ stop :: rest).dropWhile (· != stop) = stop :: rest := by
  have hrun : ∀ c ∈ run, (c != stop) = true := by
    intro c hc
    exact bne_iff_ne.mpr fun hstop => hfree (hstop ▸ hc)
  exact takeWhile_dropWhile_append _ run (stop :: rest) hrun (by simp)

/-- A run without the stop begins a text exactly if it begins what stands before the stop. -/
theorem prefix_append_cons_iff
    (text : List Char) :
    run <+: text ++ stop :: rest ↔ run <+: text := by
  constructor
  · intro hrun
    have htext : text <+: text ++ stop :: rest := List.prefix_append text _
    rcases List.prefix_or_prefix_of_prefix hrun htext with h | ⟨beyond, rfl⟩
    · exact h
    · rw [List.prefix_append_right_inj] at hrun
      cases beyond with
      | nil => simp
      | cons c beyond =>
          -- A run that goes on beyond the text holds the stop.
          have hc : c = stop := (List.cons_prefix_cons.mp hrun).1
          exact absurd (by simp [hc]) hfree
  · intro hrun
    exact hrun.trans (List.prefix_append text _)

end FirstOccurrence

/--
The pieces between the occurrences of a separator.  The number counts the
characters of an occurrence that are still to be passed over.
-/
def piecesFrom
    (separator : List Char) :
    Nat → List Char → List (List Char)
  | _, [] => [[]]
  | skipped + 1, _ :: rest => piecesFrom separator skipped rest
  | 0, c :: rest =>
      if separator.isPrefixOf (c :: rest) then
        [] :: piecesFrom separator (separator.length - 1) rest
      else
        (piecesFrom separator 0 rest).modifyHead (c :: ·)

/-- The pieces of a text between the occurrences of a separator. -/
def splitAt
    (separator text : String) :
    List String :=
  (piecesFrom separator.toList 0 text.toList).map String.ofList

/-- What is left of an occurrence is passed over. -/
theorem piecesFrom_length_append
    (separator skipped rest : List Char) :
    piecesFrom separator skipped.length (skipped ++ rest) = piecesFrom separator 0 rest := by
  induction skipped with
  | nil => rfl
  | cons c skipped ih => simpa [piecesFrom] using ih

/-- A text without the first character of the separator is one piece. -/
theorem piecesFrom_of_not_mem
    (first : Char)
    (others piece : List Char)
    (hfree : first ∉ piece) :
    piecesFrom (first :: others) 0 piece = [piece] := by
  induction piece with
  | nil => rfl
  | cons c piece ih =>
      simp only [List.mem_cons, not_or] at hfree
      simp [piecesFrom, hfree.1, ih hfree.2]

/-- The first occurrence ends the first piece. -/
theorem piecesFrom_append
    (first : Char)
    (others piece rest : List Char)
    (hfree : first ∉ piece) :
    piecesFrom (first :: others) 0 (piece ++ (first :: others ++ rest)) =
      piece :: piecesFrom (first :: others) 0 rest := by
  induction piece with
  | nil =>
      have hrest := piecesFrom_length_append (first :: others) others rest
      simpa [piecesFrom] using hrest
  | cons c piece ih =>
      simp only [List.mem_cons, not_or] at hfree
      rw [List.cons_append, piecesFrom, if_neg (by simp [hfree.1]), ih hfree.2]
      rfl

/-- Cutting undoes joining. -/
theorem piecesFrom_intercalate
    (first : Char)
    (others : List Char)
    (pieces : List (List Char))
    (hne : pieces ≠ [])
    (hfree : ∀ piece ∈ pieces, first ∉ piece) :
    piecesFrom (first :: others) 0 ((first :: others).intercalate pieces) = pieces := by
  induction pieces with
  | nil => exact absurd rfl hne
  | cons piece pieces ih =>
      have hpiece : first ∉ piece := hfree piece List.mem_cons_self
      cases pieces with
      | nil => simpa using piecesFrom_of_not_mem first others piece hpiece
      | cons next pieces =>
          have hrest :=
            ih (by simp) fun p hp => hfree p (List.mem_cons_of_mem _ hp)
          rw [List.intercalate_cons_cons, List.append_assoc,
            piecesFrom_append first others piece _ hpiece, hrest]

/-- A separator of one character cuts where that character stands. -/
theorem piecesFrom_singleton
    (c : Char)
    (text : List Char) :
    piecesFrom [c] 0 text = text.splitOn c := by
  induction text with
  | nil => rfl
  | cons head text ih =>
      rw [List.splitOn_cons_eq_if_modifyHead, ← ih]
      by_cases hc : c = head
      · simp [piecesFrom, hc]
      · simp [piecesFrom, hc, Ne.symm hc]

/-- No piece holds the character at which the text was cut. -/
theorem not_mem_of_mem_splitOn
    (c : Char)
    (text piece : List Char)
    (hpiece : piece ∈ text.splitOn c) :
    c ∉ piece := by
  induction text generalizing piece with
  | nil => simp_all
  | cons head text ih =>
      rw [List.splitOn_cons_eq_if_modifyHead] at hpiece
      split at hpiece
      · rcases List.mem_cons.mp hpiece with rfl | hpiece
        · simp
        · exact ih piece hpiece
      · rename_i hhead
        cases hpieces : text.splitOn c with
        | nil => exact absurd hpieces (List.splitOn_ne_nil c text)
        | cons first pieces =>
            rw [hpieces] at hpiece ih
            rcases List.mem_cons.mp hpiece with rfl | hpiece
            · have hc : c ≠ head := fun h => hhead (by simp [h])
              simp [hc, ih first List.mem_cons_self]
            · exact ih piece (List.mem_cons_of_mem _ hpiece)

/-- A character of a joined text comes from the separator or from a piece. -/
theorem mem_intercalate
    (separator : String)
    (pieces : List String)
    (c : Char)
    (hc : c ∉ separator.toList) :
    c ∈ (separator.intercalate pieces).toList ↔ ∃ piece ∈ pieces, c ∈ piece.toList := by
  induction pieces with
  | nil => simp
  | cons piece pieces ih =>
      cases pieces with
      | nil => simp
      | cons next pieces =>
          rw [String.intercalate_cons_cons, String.toList_append, String.toList_append,
            List.mem_append, List.mem_append, ih]
          simp [hc]

/-- Cutting a text undoes joining it from pieces without the first character of the separator. -/
theorem splitAt_intercalate
    (separator : String)
    (first : Char)
    (pieces : List String)
    (hfirst : separator.toList.head? = some first)
    (hne : pieces ≠ [])
    (hfree : ∀ piece ∈ pieces, first ∉ piece.toList) :
    splitAt separator (separator.intercalate pieces) = pieces := by
  obtain ⟨others, hseparator⟩ := List.head?_eq_some_iff.mp hfirst
  have hpieces :=
    piecesFrom_intercalate first others (pieces.map String.toList) (by simpa using hne)
      (by simpa using hfree)
  rw [splitAt, String.toList_intercalate, hseparator, hpieces]
  simp

/-- Joined pieces are read back exactly if the separating character stands in none of them. -/
theorem splitAt_intercalate_iff
    (separator : String)
    (c : Char)
    (pieces : List String)
    (hseparator : separator.toList = [c])
    (hne : pieces ≠ []) :
    splitAt separator (separator.intercalate pieces) = pieces ↔
      ∀ piece ∈ pieces, c ∉ piece.toList := by
  constructor
  · intro hsplit piece hpiece
    rw [← hsplit, splitAt, hseparator, piecesFrom_singleton] at hpiece
    obtain ⟨chars, hchars, rfl⟩ := List.mem_map.mp hpiece
    simpa using not_mem_of_mem_splitOn c _ chars hchars
  · exact splitAt_intercalate separator c pieces (by simp [hseparator]) hne

/-- A text is one piece exactly if the separating character does not stand in it. -/
theorem splitAt_eq_singleton_iff
    (separator : String)
    (c : Char)
    (text : String)
    (hseparator : separator.toList = [c]) :
    splitAt separator text = [text] ↔ c ∉ text.toList := by
  simpa using splitAt_intercalate_iff separator c [text] hseparator (by simp)

end Text
end ContentSecurity
