import ContentSecurity.Proofs.Toml.Strings
import ContentSecurity.Proofs.Toml.Tables
import ContentSecurity.Toml.Reader

/-!
# TOML values as they are written

Strings, arrays on one line and inline tables are read back from their texts.
An array is read with fuel, one unit for each item, and its text is longer than
that; so the fuel that the length of a text allows is always enough.

`WritesValues` says that a way of writing is understood; `WritesValues.list`
carries it from the items to the array, and `inlineEntries?_of_assignment` is the
step through an inline table.
-/

namespace ContentSecurity
namespace Toml

/-- Characters that end the gap before a value or a key. -/
def endsGap
    (c : Char) :
    Bool :=
  !(isBlank c || c == '\n' || c == '\r' || c == '#')

theorem skipFiller?_of_endsGap
    (c : Char)
    (rest : List Char)
    (hc : endsGap c = true) :
    skipFiller? false (c :: rest) = some (c :: rest) := by
  simp only [endsGap, Bool.not_eq_true', Bool.or_eq_false_iff, beq_eq_false_iff_ne] at hc
  obtain ⟨⟨⟨hblank, hbreak⟩, hreturn⟩, hcomment⟩ := hc
  rw [skipFiller?]
  · simp [hblank, hcomment]
  all_goals simp [hbreak, hreturn]

theorem dropWhile_isBlank_of_endsGap
    (c : Char)
    (rest : List Char)
    (hc : endsGap c = true) :
    (c :: rest).dropWhile isBlank = c :: rest := by
  simp only [endsGap, Bool.not_eq_true', Bool.or_eq_false_iff] at hc
  simp [hc.1.1.1]

theorem skipFiller?_blank
    (rest : List Char) :
    skipFiller? false (' ' :: rest) = skipFiller? false rest :=
  rfl

section Keys

/-- Whether a key needs no quotes. -/
def isBareKey
    (key : String) :
    Bool :=
  !key.toList.isEmpty && key.toList.all isBareChar

theorem isBareKey_iff
    (key : String) :
    isBareKey key = true ↔ key.toList ≠ [] ∧ ∀ c ∈ key.toList, isBareChar c = true := by
  simp [isBareKey]

theorem endsGap_of_isBareChar
    (c : Char)
    (hc : isBareChar c = true) :
    endsGap c = true := by
  rw [← Bool.not_eq_false]
  intro hgap
  simp only [endsGap, isBlank, Bool.not_eq_false', Bool.or_eq_true, beq_iff_eq] at hgap
  rcases hgap with (((rfl | rfl) | rfl) | rfl) | rfl <;> exact absurd hc (by decide)

/-- A bare key begins with a character of bare keys. -/
theorem exists_eq_cons_of_isBareKey
    (key : String)
    (hkey : isBareKey key = true) :
    ∃ first others, key.toList = first :: others ∧ isBareChar first = true := by
  obtain ⟨hne, hbare⟩ := (isBareKey_iff key).mp hkey
  obtain ⟨first, others, hfirst⟩ := List.exists_cons_of_ne_nil hne
  exact ⟨first, others, hfirst, hbare first (hfirst ▸ List.mem_cons_self)⟩

theorem keyPart?_of_isBareChar
    (c : Char)
    (rest : List Char)
    (hc : isBareChar c = true) :
    keyPart? (c :: rest) =
      some (String.ofList ((c :: rest).takeWhile isBareChar),
        (c :: rest).dropWhile isBareChar) := by
  unfold keyPart?
  split
  · rename_i hsame
    injection hsame with hquote
    exact absurd (hquote ▸ hc) (by decide)
  · rename_i hsame
    injection hsame with hquote
    exact absurd (hquote ▸ hc) (by decide)
  · simp [hc]

/-- A bare key is read up to the blanks behind it, if no dot continues it. -/
theorem key?_of_isBareKey
    (key : String)
    (c : Char)
    (rest : List Char)
    (hkey : isBareKey key = true)
    (hc : isBareChar c = false)
    (hdot : ((c :: rest).dropWhile isBlank).head? ≠ some '.') :
    key? (key.toList ++ c :: rest) = some ([key], (c :: rest).dropWhile isBlank) := by
  obtain ⟨first, others, hfirst, hbareFirst⟩ := exists_eq_cons_of_isBareKey key hkey
  have hbare := ((isBareKey_iff key).mp hkey).2
  have htake : (key.toList ++ c :: rest).takeWhile isBareChar = key.toList := by
    rw [List.takeWhile_append_of_pos hbare]
    simp [hc]
  have hdrop : (key.toList ++ c :: rest).dropWhile isBareChar = c :: rest := by
    rw [List.dropWhile_append_of_pos hbare]
    simp [hc]
  have hunread :
      (key.toList ++ c :: rest).dropWhile isBlank = key.toList ++ c :: rest := by
    rw [hfirst, List.cons_append,
      dropWhile_isBlank_of_endsGap _ _ (endsGap_of_isBareChar first hbareFirst)]
  have hpart : keyPart? (key.toList ++ c :: rest) = some (key, c :: rest) := by
    rw [hfirst, List.cons_append, keyPart?_of_isBareChar _ _ hbareFirst, ← List.cons_append,
      ← hfirst, htake, hdrop, String.ofList_toList]
  rw [key?, maxDepth, keyParts?, hunread, hpart]
  dsimp only
  split
  · rename_i hbehind
    rw [hbehind] at hdot
    exact absurd rfl hdot
  · rfl

/-- A key with its value, as it stands on a line or in an inline table. -/
def assignmentText
    (key : String)
    (written : List Char) :
    List Char :=
  key.toList ++ " = ".toList ++ written

/-- A bare key, an equals sign between blanks, and a value that is understood. -/
theorem assignment?_of_isBareKey
    (skipGap? : List Char → Option (List Char))
    (value? : List Char → Option (Value × List Char))
    (key : String)
    (written rest : List Char)
    (v : Value)
    (hkey : isBareKey key = true)
    (hequals : ∀ text, skipGap? ('=' :: text) = some ('=' :: text))
    (hgap : skipGap? (' ' :: (written ++ rest)) = some (written ++ rest))
    (hvalue : value? (written ++ rest) = some (v, rest)) :
    assignment? skipGap? value? (assignmentText key written ++ rest) =
      some (([key], v), rest) := by
  have hunread :
      (' ' :: '=' :: ' ' :: (written ++ rest)).dropWhile isBlank =
        '=' :: ' ' :: (written ++ rest) :=
    rfl
  have hread :
      key? (key.toList ++ ' ' :: '=' :: ' ' :: (written ++ rest)) =
        some ([key], '=' :: ' ' :: (written ++ rest)) := by
    rw [key?_of_isBareKey key _ _ hkey (by decide) (by rw [hunread]; simp), hunread]
  have htext :
      assignmentText key written ++ rest =
        key.toList ++ ' ' :: '=' :: ' ' :: (written ++ rest) := by
    simp [assignmentText]
  rw [htext, assignment?, hread]
  simp [hequals, hgap, hvalue]

end Keys

/-- What is written ends the gap before it, and is read as a value unless a quote follows. -/
structure WritesValues
    {α : Type}
    (value? : List Char → Option (Value × List Char))
    (write : α → List Char)
    (toValue : α → Value) : Prop where
  opens : ∀ a, ∃ first text, write a = first :: text ∧ endsGap first = true ∧ first ≠ ']'
  reads : ∀ a rest, rest.head? ≠ some '"' → value? (write a ++ rest) = some (toValue a, rest)

/-- A written value ends the gap before it. -/
theorem WritesValues.skipFiller?
    {α : Type}
    {value? : List Char → Option (Value × List Char)}
    {write : α → List Char}
    {toValue : α → Value}
    (hwrites : WritesValues value? write toValue)
    (a : α)
    (rest : List Char) :
    skipFiller? false (write a ++ rest) = some (write a ++ rest) := by
  obtain ⟨first, text, hfirst, hgap, -⟩ := hwrites.opens a
  rw [hfirst, List.cons_append, skipFiller?_of_endsGap _ _ hgap]

section Lists

variable {α : Type} {value? : List Char → Option (Value × List Char)}
variable {write : α → List Char} {toValue : α → Value}

/-- One item, and what stands behind it. -/
theorem items?_of_item
    (hwrites : WritesValues value? write toValue)
    (a : α)
    (rest : List Char)
    (fuel : Nat)
    (hrest : rest.head? ≠ some '"') :
    items? value? (fuel + 1) (write a ++ rest) =
      match skipFiller? false rest with
      | some (',' :: rest) =>
          (items? value? fuel rest).map fun (items, rest) => (toValue a :: items, rest)
      | some (']' :: rest) => some ([toValue a], rest)
      | _ => none := by
  obtain ⟨first, text, hfirst, hgap, hclosing⟩ := hwrites.opens a
  have hread := hwrites.reads a rest hrest
  rw [hfirst, List.cons_append] at hread ⊢
  rw [items?, skipFiller?_of_endsGap first _ hgap]
  split
  · simp_all
  · rename_i hsame
    cases hsame
    rewrite [hread]
    rfl
  · simp_all

theorem items?_blank
    (fuel : Nat)
    (text : List Char) :
    items? value? fuel (' ' :: text) = items? value? fuel text := by
  cases fuel <;> rfl

/-- All items up to the closing bracket; the fuel must exceed the length of their text. -/
theorem items?_intercalate
    (hwrites : WritesValues value? write toValue)
    (items : List α)
    (rest : List Char)
    (fuel : Nat)
    (hfuel : (", ".toList.intercalate (items.map write)).length < fuel) :
    items? value? fuel (", ".toList.intercalate (items.map write) ++ ']' :: rest) =
      some (items.map toValue, rest) := by
  induction items generalizing fuel with
  | nil =>
      obtain ⟨fuel, rfl⟩ := Nat.exists_eq_succ_of_ne_zero (Nat.ne_zero_of_lt hfuel)
      rfl
  | cons a items ih =>
      obtain ⟨fuel, rfl⟩ := Nat.exists_eq_succ_of_ne_zero (Nat.ne_zero_of_lt hfuel)
      cases items with
      | nil =>
          rw [List.map_singleton, List.intercalate_singleton,
            items?_of_item hwrites _ _ _ (by simp)]
          rfl
      | cons b items =>
          have htext :
              ", ".toList.intercalate ((a :: b :: items).map write) =
                write a ++ ',' :: ' ' :: ", ".toList.intercalate ((b :: items).map write) := by
            simp [List.intercalate_cons_cons]
          rw [htext] at hfuel ⊢
          have hshorter : (", ".toList.intercalate ((b :: items).map write)).length < fuel := by
            simp only [List.length_append, List.length_cons] at hfuel
            omega
          have hskip (text : List Char) : skipFiller? false (',' :: text) = some (',' :: text) :=
            rfl
          rw [List.append_assoc, List.cons_append, List.cons_append,
            items?_of_item hwrites _ _ _ (by simp), hskip]
          simp only [items?_blank, ih fuel hshorter]
          simp

end Lists

theorem value?_quote
    (depth : Nat)
    (text : List Char) :
    value? depth ('"' :: text) = (text? ('"' :: text)).map fun (s, rest) => (.text s, rest) := by
  cases depth <;> rfl

theorem value?_openList
    (depth : Nat)
    (text : List Char) :
    value? (depth + 1) ('[' :: text) =
      (items? (value? depth) (text.length + 1) text).map fun (items, rest) => (.list items, rest) :=
  rfl

theorem value?_openTable
    (depth : Nat)
    (text : List Char) :
    value? (depth + 1) ('{' :: text) =
      (inlineEntries? (value? depth) [] (text.length + 1) text).map
        fun (entries, rest) => (.table .inline entries, rest) :=
  rfl

/-- Strings are understood at every depth. -/
theorem writesValues_text
    (depth : Nat) :
    WritesValues (value? depth) writeText .text where
  opens := fun s => ⟨'"', _, rfl, by decide, by decide⟩
  reads := fun s rest hrest => by
    have hread := text?_writeText s rest hrest
    rw [writeText_append] at hread ⊢
    rw [value?_quote, hread]
    rfl

/-- An array is understood one level above its items. -/
theorem WritesValues.list
    {α : Type}
    {depth : Nat}
    {write : α → List Char}
    {toValue : α → Value}
    (hwrites : WritesValues (value? depth) write toValue) :
    WritesValues (value? (depth + 1)) (writeList write) fun items => .list (items.map toValue) where
  opens := fun items => ⟨'[', _, rfl, by decide, by decide⟩
  reads := fun items rest _ => by
    have htext :
        writeList write items ++ rest =
          '[' :: (", ".toList.intercalate (items.map write) ++ ']' :: rest) := by
      simp [writeList]
    rw [htext, value?_openList, items?_intercalate hwrites]
    · rfl
    · simp only [List.length_append]
      omega

/-- One entry of an inline table, and what stands behind it. -/
theorem inlineEntries?_of_assignment
    (value? : List Char → Option (Value × List Char))
    (key : String)
    (written rest : List Char)
    (v : Value)
    (entries : Entries)
    (fuel : Nat)
    (hkey : isBareKey key = true)
    (hgap : skipFiller? false (written ++ rest) = some (written ++ rest))
    (hvalue : value? (written ++ rest) = some (v, rest))
    (hfresh : lookup? key entries = none) :
    inlineEntries? value? entries (fuel + 1)
        (' ' :: (assignmentText key written ++ rest)) =
      match skipFiller? false rest with
      | some (',' :: rest) => inlineEntries? value? (entries ++ [(key, v)]) fuel rest
      | some ('}' :: rest) => some (entries ++ [(key, v)], rest)
      | _ => none := by
  have hassignment :=
    assignment?_of_isBareKey (skipFiller? false) value? key written rest v hkey (fun _ => rfl)
      hgap hvalue
  have hinsert := insert?_singleton v hfresh
  obtain ⟨first, others, hfirst, hbare⟩ := exists_eq_cons_of_isBareKey key hkey
  have hclosing : first ≠ '}' := by
    rintro rfl
    exact absurd hbare (by decide)
  simp only [assignmentText, hfirst, List.cons_append] at hassignment ⊢
  rw [inlineEntries?, skipFiller?_blank,
    skipFiller?_of_endsGap first _ (endsGap_of_isBareChar first hbare)]
  split
  · simp_all
  · rename_i hsame
    cases hsame
    rw [hassignment]
    simp only [hinsert]
    split <;> simp_all
  · simp_all

end Toml
end ContentSecurity
