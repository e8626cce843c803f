import ContentSecurity.Json.Reader
import ContentSecurity.Json.Writer
import Mathlib.Data.List.Forall2
import Mathlib.Data.List.TakeDrop
import Mathlib.Data.List.TakeWhile

/-!
# JSON tokens as they are written

A string is written character by character, and the scanner makes one piece of
each written character, so the text of a string survives whatever characters it
holds.  A number survives if no character of numbers follows it.

The main statements are `token?_writeText` and `token?_numeral`.
-/

namespace ContentSecurity
namespace Json

/-- A piece of a string that is a character by itself. -/
inductive Piece.StandsFor : Piece → Char → Prop
  | char
      (c : Char) :
      StandsFor (.char c) c
  | unit
      (c : Char)
      (hcontrol : c.toNat < 0x20) :
      StandsFor (.unit c.toNat) c

/-- The scanner makes one piece of a written character, whatever stands before and behind it. -/
theorem scanString?_writeChar
    (c : Char) :
    ∃ piece : Piece, piece.StandsFor c ∧
      ∀ pieces rest,
        scanString? pieces (writeChar c ++ rest) = scanString? (piece :: pieces) rest := by
  by_cases hcontrol : c.toNat < 0x20
  · by_cases hletter : c = '\x08' ∨ c = '\x0c' ∨ c = '\n' ∨ c = '\r' ∨ c = '\t'
    · refine ⟨.char c, .char c, fun pieces rest => ?_⟩
      rcases hletter with rfl | rfl | rfl | rfl | rfl <;> simp [writeChar, scanString?, escape?]
    · refine ⟨.unit c.toNat, .unit c hcontrol, fun pieces rest => ?_⟩
      have hwritten :
          writeChar c =
            ['\\', 'u', '0', '0', Text.hexDigit (c.toNat / 16), Text.hexDigit (c.toNat % 16)] := by
        have hquote : c ≠ '"' := by rintro rfl; simp at hcontrol
        have hslash : c ≠ '\\' := by rintro rfl; simp at hcontrol
        simp only [not_or] at hletter
        simp [writeChar, hquote, hslash, hletter, hcontrol]
      have hcode := Text.hexNumber?_byte c.toNat (by omega)
      rw [hwritten]
      simp only [List.cons_append, List.nil_append, scanString?, hcode]
  · refine ⟨.char c, .char c, fun pieces rest => ?_⟩
    by_cases hescaped : c = '"' ∨ c = '\\'
    · rcases hescaped with rfl | rfl <;> simp [writeChar, scanString?, escape?]
    · rw [not_or] at hescaped
      have hwritten : writeChar c = [c] := by
        have hletter :
            c ≠ '\x08' ∧ c ≠ '\x0c' ∧ c ≠ '\n' ∧ c ≠ '\r' ∧ c ≠ '\t' := by
          refine ⟨?_, ?_, ?_, ?_, ?_⟩ <;> rintro rfl <;> simp at hcontrol
        simp [writeChar, hescaped, hletter, hcontrol]
      rw [hwritten, List.singleton_append, scanString?]
      · simp [hcontrol, hescaped.2]
      all_goals simp [hescaped]

/-- The scanner finds one piece for each character of a written string. -/
theorem scanString?_flatMap_writeChar
    (chars : List Char) :
    ∃ found : List Piece, List.Forall₂ Piece.StandsFor found chars ∧
      ∀ pieces rest,
        scanString? pieces (chars.flatMap writeChar ++ '"' :: rest) =
          some (pieces.reverse ++ found, rest) := by
  induction chars with
  | nil => exact ⟨[], .nil, fun pieces rest => by simp [scanString?]⟩
  | cons c chars ih =>
      obtain ⟨piece, hpiece, hscan⟩ := scanString?_writeChar c
      obtain ⟨found, hfound, hscanAll⟩ := ih
      refine ⟨piece :: found, .cons hpiece hfound, fun pieces rest => ?_⟩
      rw [List.flatMap_cons, List.append_assoc, hscan, hscanAll]
      simp

/-- A numeric escape that is no half of a character is a character, whatever follows. -/
theorem textOf?_unit
    (code : Nat)
    (reversed : List Char)
    (pieces : List Piece)
    (hhigh : isHighHalf code = false)
    (hlow : isLowHalf code = false) :
    textOf? reversed (.unit code :: pieces) = textOf? (Char.ofNat code :: reversed) pieces := by
  cases pieces with
  | nil => simp [textOf?, hhigh, hlow]
  | cons piece pieces => cases piece <;> simp [textOf?, hhigh, hlow]

/-- Pieces that stand for characters make up the text of these characters. -/
theorem textOf?_of_standsFor
    (found : List Piece)
    (chars reversed : List Char)
    (hfound : List.Forall₂ Piece.StandsFor found chars) :
    textOf? reversed found = some (String.ofList (reversed.reverse ++ chars)) := by
  induction hfound generalizing reversed with
  | nil => simp [textOf?]
  | @cons piece c found chars hpiece hrest ih =>
      have hnext : textOf? reversed (piece :: found) = textOf? (c :: reversed) found := by
        cases hpiece with
        | char => rw [textOf?]
        | unit _ hcontrol =>
            rw [textOf?_unit, Char.ofNat_toNat]
            · simp [isHighHalf]
              omega
            · simp [isLowHalf]
              omega
      rw [hnext, ih]
      simp

theorem writeText_some
    (s : String) :
    writeText (some s) = '"' :: (s.toList.flatMap writeChar ++ ['"']) :=
  rfl

theorem writeText_none :
    writeText none = ['"', '\\', 'u', 'd', '8', '0', '0', '"'] :=
  rfl

theorem head?_writeText
    (text : Option String)
    (rest : List Char) :
    (writeText text ++ rest).head? = some '"' := by
  cases text <;> rfl

theorem token?_quote
    (rest : List Char) :
    token? ('"' :: rest) =
      match scanString? [] rest with
      | some (pieces, rest) => some (.text (textOf? [] pieces), rest)
      | none => none :=
  rfl

/-- A written string is read back as its text; half a character still has none. -/
theorem token?_writeText
    (text : Option String)
    (rest : List Char) :
    token? (writeText text ++ rest) = some (.text text, rest) := by
  cases text with
  | none =>
      have hcode : Text.hexNumber? ['d', '8', '0', '0'] = some 0xD800 := by decide
      simp [writeText_none, token?_quote, scanString?, hcode, textOf?, isHighHalf]
  | some s =>
      obtain ⟨found, hfound, hscan⟩ := scanString?_flatMap_writeChar s.toList
      have htext := textOf?_of_standsFor found s.toList [] hfound
      simp [writeText_some, token?_quote, hscan, htext]

/-- The characters of a number, and nothing else. -/
def IsNumeral
    (digits : List Char) : Prop :=
  isNumber digits = true ∧ ∀ c ∈ digits, isNumberChar c = true

/-- A number begins with a character that is no blank. -/
theorem IsNumeral.exists_eq_cons
    {digits : List Char}
    (hnumeral : IsNumeral digits) :
    ∃ first rest, digits = first :: rest ∧ isBlank first = false := by
  obtain ⟨hnumber, hchars⟩ := hnumeral
  cases digits with
  | nil => simp [isNumber_nil] at hnumber
  | cons first rest =>
      refine ⟨first, rest, rfl, Bool.eq_false_iff.mpr fun hblank => ?_⟩
      have hfirst := hchars first List.mem_cons_self
      simp only [isBlank, Bool.or_eq_true, beq_iff_eq] at hblank
      rcases hblank with ((rfl | rfl) | rfl) | rfl <;> exact absurd hfirst (by decide)

theorem isNumber_of_isDigit
    (first : Char)
    (digits : List Char)
    (hdigits : ∀ c ∈ first :: digits, c.isDigit = true)
    (hzero : first = '0' → digits = []) :
    isNumber (first :: digits) = true := by
  have htake : (first :: digits).takeWhile Char.isDigit = first :: digits :=
    List.takeWhile_eq_self_iff.mpr hdigits
  have hdrop : (first :: digits).dropWhile Char.isDigit = [] :=
    List.dropWhile_eq_nil_iff.mpr hdigits
  have hunsigned : first ≠ '-' := by
    rintro rfl
    exact absurd (hdigits '-' List.mem_cons_self) (by decide)
  have hend : isFractionAndExponent [] = true := rfl
  by_cases hfirst : first = '0'
  · rw [hfirst, hzero hfirst]
    decide
  · simp [isNumber, hunsigned, htake, hdrop, hfirst, hend]

/-- The decimal digits of a natural number are a number. -/
theorem isNumeral_decimal
    (n : Nat) :
    IsNumeral (Text.decimal n) := by
  obtain ⟨first, digits, hdecimal, hzero⟩ := Text.exists_decimal_eq_cons n
  have hdigits := Text.isDigit_of_mem_decimal n
  rw [hdecimal] at hdigits ⊢
  refine ⟨isNumber_of_isDigit first digits hdigits hzero, fun c hc => ?_⟩
  simp [isNumberChar, hdigits c hc]

/-- What may follow a number: nothing, or a character that no number holds. -/
def EndsNumber
    (rest : List Char) : Prop :=
  ∀ c ∈ rest.head?, isNumberChar c = false

/-- A number is read back if nothing behind it continues it. -/
theorem token?_numeral
    (digits rest : List Char)
    (hnumeral : IsNumeral digits)
    (hrest : EndsNumber rest) :
    token? (digits ++ rest) = some (.number digits, rest) := by
  obtain ⟨hnumber, hchars⟩ := hnumeral
  have htake : (digits ++ rest).takeWhile isNumberChar = digits := by
    rw [List.takeWhile_append_of_pos hchars]
    cases rest with
    | nil => simp
    | cons c rest => simp [hrest c (by simp)]
  have hdrop : (digits ++ rest).dropWhile isNumberChar = rest := by
    rw [List.dropWhile_append_of_pos hchars]
    cases rest with
    | nil => simp
    | cons c rest => simp [hrest c (by simp)]
  cases digits with
  | nil => simp [isNumber_nil] at hnumber
  | cons first digits =>
      have hfirst := hchars first List.mem_cons_self
      have hother : ∀ c, isNumberChar c = false → first ≠ c := by
        rintro c hc rfl
        simp [hfirst] at hc
      unfold token?
      split
      case h_1 htext => simp at htext
      case h_12 htext =>
        simp only [← htext, htake, hdrop, hnumber, if_true]
      -- All other tokens begin with a character that no number holds.
      all_goals
        rename_i htext
        injection htext with hhead
        exact absurd hhead (hother _ (by decide))

end Json
end ContentSecurity
