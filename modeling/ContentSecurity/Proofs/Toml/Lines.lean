import ContentSecurity.Proofs.Toml.Values
import Mathlib.Data.List.Forall2

/-!
# TOML texts line by line

A text is written as lines, each of which is read as one statement.  Reading the
text then carries out the statements one after another, so what is left of a
question about a text is one about tables.

The step lemma is `run?_of_writesLine`, the lemma about all lines is
`run?_of_writesLines`, and the main statement is `read?_of_writesLines`.
-/

namespace ContentSecurity
namespace Toml

/-- The line of a header of an array of tables, without its end. -/
def elementLine
    (key : String) :
    List Char :=
  "[[".toList ++ key.toList ++ "]]".toList

/-- A line without its end that is read as a statement. -/
structure WritesLine
    (line : List Char)
    (statement : Statement) : Prop where
  opens : ∃ first text, line = first :: text ∧ endsGap first = true
  reads : ∀ rest, statement? (line ++ '\n' :: rest) = some (statement, '\n' :: rest)

/-- A bare key and a value that is understood make a line. -/
theorem writesLine_entry
    (key : String)
    (written : List Char)
    (v : Value)
    (hkey : isBareKey key = true)
    (hopens : ∃ first text, written = first :: text ∧ endsGap first = true)
    (hreads : ∀ rest, value? maxDepth (written ++ '\n' :: rest) = some (v, '\n' :: rest)) :
    WritesLine (assignmentText key written) (.ofEntry (key, v)) := by
  obtain ⟨first, others, hfirst, hbare⟩ := exists_eq_cons_of_isBareKey key hkey
  refine ⟨⟨first, others ++ " = ".toList ++ written, by simp [assignmentText, hfirst],
    endsGap_of_isBareChar first hbare⟩, fun rest => ?_⟩
  have hgap :
      (some ∘ List.dropWhile isBlank) (' ' :: (written ++ '\n' :: rest)) =
        some (written ++ '\n' :: rest) := by
    obtain ⟨opening, text, rfl, hopening⟩ := hopens
    have hblank : isBlank ' ' = true := by decide
    rw [Function.comp_apply, List.dropWhile_cons_of_pos hblank, List.cons_append,
      dropWhile_isBlank_of_endsGap _ _ hopening]
  have hassignment :=
    assignment?_of_isBareKey (some ∘ List.dropWhile isBlank) (value? maxDepth) key written
      ('\n' :: rest) v hkey (fun _ => rfl) hgap (hreads rest)
  -- A bare key opens no header.
  have hheader : first ≠ '[' := by
    rintro rfl
    exact absurd hbare (by decide)
  simp only [assignmentText, hfirst, List.cons_append] at hassignment ⊢
  unfold statement?
  split
  · simp_all
  · simp_all
  · rw [hassignment]
    rfl

/-- The line of an entry whose value is written in a way that is understood. -/
theorem WritesValues.writesLine
    {α : Type}
    {write : α → List Char}
    {toValue : α → Value}
    (hwrites : WritesValues (value? maxDepth) write toValue)
    (key : String)
    (a : α)
    (hkey : isBareKey key = true) :
    WritesLine (assignmentText key (write a)) (.ofEntry (key, toValue a)) := by
  obtain ⟨first, text, hfirst, hgap, -⟩ := hwrites.opens a
  exact writesLine_entry key (write a) (toValue a) hkey ⟨first, text, hfirst, hgap⟩
    fun rest => hwrites.reads a _ (by simp)

/-- The common header of an array of tables. -/
theorem writesLine_element
    (key : String)
    (hkey : isBareKey key = true) :
    WritesLine (elementLine key) (.element [] key) := by
  refine ⟨⟨'[', _, rfl, by decide⟩, fun rest => ?_⟩
  have hread :
      key? (key.toList ++ ']' :: ']' :: '\n' :: rest) =
        some ([key], ']' :: ']' :: '\n' :: rest) := by
    have hunread :
        (']' :: ']' :: '\n' :: rest).dropWhile isBlank = ']' :: ']' :: '\n' :: rest :=
      rfl
    rw [key?_of_isBareKey key _ _ hkey (by decide) (by rw [hunread]; simp), hunread]
  have htext :
      elementLine key ++ '\n' :: rest =
        '[' :: '[' :: (key.toList ++ ']' :: ']' :: '\n' :: rest) := by
    simp [elementLine]
  rw [htext, statement?, header?, hread]
  simp [splitLast?]

/-- One line is read and carried out. -/
theorem run?_of_writesLine
    (line rest : List Char)
    (statement : Statement)
    (hline : WritesLine line statement)
    (document : Document)
    (fuel : Nat) :
    Document.run? (fuel + 1) document (line ++ '\n' :: rest) =
      (document.step? statement).bind fun next => next.run? fuel rest := by
  obtain ⟨first, text, hfirst, hgap⟩ := hline.opens
  have hread := hline.reads rest
  have hend : endLine? false ('\n' :: rest) = some rest := rfl
  simp only [hfirst, List.cons_append] at hread ⊢
  rw [Document.run?, skipFiller?_of_endsGap _ _ hgap]
  dsimp only
  rw [hread]
  cases hstep : document.step? statement with
  | none => simp [hstep]
  | some next => simp [hstep, hend]

/-- Lines are carried out one after another; each takes one unit of fuel. -/
theorem run?_of_writesLines
    (lines : List (List Char))
    (statements : List Statement)
    (hlines : List.Forall₂ WritesLine lines statements)
    (document : Document)
    (fuel : Nat)
    (hfuel : lines.length < fuel) :
    document.run? fuel (lines.flatMap (· ++ ['\n'])) =
      statements.foldlM Document.step? document := by
  induction hlines generalizing document fuel with
  | nil =>
      obtain ⟨fuel, rfl⟩ := Nat.exists_eq_succ_of_ne_zero (Nat.ne_zero_of_lt hfuel)
      rfl
  | cons hline hlines ih =>
      obtain ⟨fuel, rfl⟩ := Nat.exists_eq_succ_of_ne_zero (Nat.ne_zero_of_lt hfuel)
      rw [List.length_cons, Nat.succ_lt_succ_iff] at hfuel
      rw [List.flatMap_cons, List.append_assoc, List.singleton_append,
        run?_of_writesLine _ _ _ hline, List.foldlM_cons]
      exact Option.bind_congr fun next _ => ih next fuel hfuel

theorem length_le_length_flatMap
    (lines : List (List Char)) :
    lines.length ≤ (lines.flatMap (· ++ ['\n'])).length := by
  induction lines with
  | nil => exact Nat.le_refl 0
  | cons line lines ih =>
      simp only [List.flatMap_cons, List.length_append, List.length_cons, List.length_nil]
      omega

/-- A text is read by carrying out the statements of its lines. -/
theorem read?_of_writesLines
    (lines : List (List Char))
    (statements : List Statement)
    (hlines : List.Forall₂ WritesLine lines statements)
    (hmark : (lines.flatMap (· ++ ['\n'])).head? ≠ some byteOrderMark) :
    read? (String.ofList (lines.flatMap (· ++ ['\n']))) =
      (statements.foldlM Document.step? {}).map (·.entries) := by
  have hlength := length_le_length_flatMap lines
  have hrun :=
    run?_of_writesLines lines statements hlines {} ((lines.flatMap (· ++ ['\n'])).length + 1)
      (by omega)
  rw [read?, String.toList_ofList, ← hrun]
  cases htext : lines.flatMap (· ++ ['\n']) with
  | nil => rfl
  | cons c rest =>
      have hc : c ≠ byteOrderMark := by
        rintro rfl
        exact hmark (by rw [htext]; rfl)
      simp [hc]

end Toml
end ContentSecurity
