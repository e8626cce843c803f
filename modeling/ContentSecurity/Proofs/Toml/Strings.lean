import ContentSecurity.Toml.Text
import ContentSecurity.Toml.Writer

/-!
# TOML strings as they are written

A basic string is written character by character, and the scanner undoes each
character by itself.  A written string is recognised as a basic one on one line
unless another quote follows it, which only matters behind an empty string.

The main statement is `text?_writeText`.
-/

namespace ContentSecurity
namespace Toml

/-- A character is read back from its code in four digits, of which the first two are zeros. -/
theorem codeEscape?_byte
    (c : Char)
    (hbyte : c.toNat < 256) :
    codeEscape? ['0', '0', Text.hexDigit (c.toNat / 16), Text.hexDigit (c.toNat % 16)] =
      some c := by
  have hcode := Text.hexNumber?_byte c.toNat hbyte
  have hvalid : c.toNat < 0xD800 := by omega
  simp [codeEscape?, hcode, hvalid, Char.ofNat_toNat]

/-- The scanner undoes one written character, whatever stands before and behind it. -/
theorem scanBasic?_writeChar
    (c : Char)
    (reversed rest : List Char) :
    scanBasic? reversed (writeChar c ++ rest) = scanBasic? (c :: reversed) rest := by
  rw [writeChar]
  split
  · rename_i hescaped
    have hbyte : c.toNat < 256 := by
      simp only [Bool.or_eq_true, decide_eq_true_eq] at hescaped
      rcases hescaped with ((rfl | rfl) | rfl) | hcontrol
      · decide
      · decide
      · decide
      · omega
    have hcode := codeEscape?_byte c hbyte
    simp only [List.cons_append, List.nil_append, scanBasic?, hcode]
  · rename_i hplain
    simp only [Bool.or_eq_true, decide_eq_true_eq, not_or] at hplain
    obtain ⟨⟨⟨hquote, hslash⟩, hdelete⟩, hcontrol⟩ := hplain
    have htext : isTextChar c = true := by
      simp [isTextChar, hdelete]
      omega
    rw [List.singleton_append, scanBasic?]
    · simp [htext, hslash]
    all_goals simp [hquote, hslash]

/-- The scanner undoes all characters of a written string and stops behind its quote. -/
theorem scanBasic?_flatMap_writeChar
    (chars reversed rest : List Char) :
    scanBasic? reversed (chars.flatMap writeChar ++ '"' :: rest) =
      some (String.ofList (reversed.reverse ++ chars), rest) := by
  induction chars generalizing reversed with
  | nil => simp [scanBasic?]
  | cons c chars ih =>
      rw [List.flatMap_cons, List.append_assoc, scanBasic?_writeChar, ih]
      simp

/-- A written character does not begin with a quote. -/
theorem head?_writeChar
    (c : Char)
    (rest : List Char) :
    (writeChar c ++ rest).head? ≠ some '"' := by
  rw [writeChar]
  split
  · simp
  · rename_i hplain
    simp_all

theorem writeText_append
    (s : String)
    (rest : List Char) :
    writeText s ++ rest = '"' :: (s.toList.flatMap writeChar ++ '"' :: rest) := by
  simp [writeText]

/-- Quotes of several lines are three; what has fewer is a string on one line. -/
theorem text?_quote
    (text : List Char)
    (htext : ¬ ['"', '"'] <+: text) :
    text? ('"' :: text) = scanBasic? [] text := by
  unfold text?
  split
  · rename_i rest hsame
    injection hsame with _ hrest
    exact absurd ⟨rest, hrest.symm⟩ htext
  · rename_i hsame
    injection hsame with _ hrest
    rw [hrest]
  all_goals simp_all

/-- A written string is read back, unless another quote follows. -/
theorem text?_writeText
    (s : String)
    (rest : List Char)
    (hrest : rest.head? ≠ some '"') :
    text? (writeText s ++ rest) = some (s, rest) := by
  have hquotes : ¬ ['"', '"'] <+: s.toList.flatMap writeChar ++ '"' :: rest := by
    cases s.toList with
    | nil =>
        cases rest with
        | nil => simp
        | cons c rest =>
            simp at hrest
            simp [Ne.symm hrest]
    | cons c chars =>
        rintro ⟨behind, hsame⟩
        apply head?_writeChar c (chars.flatMap writeChar ++ '"' :: rest)
        rw [← List.append_assoc, ← List.flatMap_cons, ← hsame]
        rfl
  rw [writeText_append, text?_quote _ hquotes, scanBasic?_flatMap_writeChar]
  simp

end Toml
end ContentSecurity
