/-!
# Decimal digits

Natural numbers are written without leading zeros and read with any number of
them.
-/

namespace ContentSecurity
namespace Text

/-- The digit of a value below ten. -/
def decimalDigit
    (value : Nat) :
    Char :=
  Char.ofNat ('0'.toNat + value)

/-- The decimal digits of a number. -/
def decimal
    (n : Nat) :
    List Char :=
  if n < 10 then [decimalDigit n] else decimal (n / 10) ++ [decimalDigit (n % 10)]
termination_by n
decreasing_by omega

/-- The number that decimal digits denote. -/
def decimalValue
    (digits : List Char) :
    Nat :=
  digits.foldl (fun value c => value * 10 + (c.toNat - '0'.toNat)) 0

theorem decimalDigit_value :
    ∀ value < 10, (decimalDigit value).toNat - '0'.toNat = value := by
  decide

theorem isDigit_decimalDigit :
    ∀ value < 10, (decimalDigit value).isDigit = true := by
  decide

theorem decimalValue_append_digit
    (digits : List Char)
    (c : Char) :
    decimalValue (digits ++ [c]) = decimalValue digits * 10 + (c.toNat - '0'.toNat) := by
  simp [decimalValue]

theorem decimalValue_decimal
    (n : Nat) :
    decimalValue (decimal n) = n := by
  induction n using Nat.strongRecOn with
  | ind n ih =>
      rw [decimal]
      split
      · rename_i hsmall
        have hdigit := decimalDigit_value n hsmall
        simp only [decimalValue, List.foldl_cons, List.foldl_nil, hdigit]
        omega
      · rename_i hlarge
        have hquotient := ih (n / 10) (by omega)
        have hdigit := decimalDigit_value (n % 10) (by omega)
        rw [decimalValue_append_digit, hquotient, hdigit]
        omega

/-- No two numbers are written alike. -/
theorem decimal_injective
    {m n : Nat}
    (hdigits : decimal m = decimal n) :
    m = n := by
  rw [← decimalValue_decimal m, hdigits, decimalValue_decimal]

/-- Every character of a written number is a digit. -/
theorem isDigit_of_mem_decimal
    (n : Nat) :
    ∀ c ∈ decimal n, c.isDigit = true := by
  induction n using Nat.strongRecOn with
  | ind n ih =>
      rw [decimal]
      split
      · rename_i hsmall
        simpa using isDigit_decimalDigit n hsmall
      · rename_i hlarge
        intro c hc
        rcases List.mem_append.mp hc with hc | hc
        · exact ih (n / 10) (by omega) c hc
        · rw [List.mem_singleton.mp hc]
          exact isDigit_decimalDigit (n % 10) (by omega)

/-- A number is written with at least one digit, and only zero begins with a zero. -/
theorem exists_decimal_eq_cons
    (n : Nat) :
    ∃ first digits, decimal n = first :: digits ∧ (first = '0' → digits = []) := by
  induction n using Nat.strongRecOn with
  | ind n ih =>
      rw [decimal]
      split
      · exact ⟨decimalDigit n, [], rfl, fun _ => rfl⟩
      · rename_i hlarge
        obtain ⟨first, digits, hquotient, hzero⟩ := ih (n / 10) (by omega)
        refine ⟨first, digits ++ [decimalDigit (n % 10)], by rw [hquotient]; rfl, fun hfirst => ?_⟩
        have hvalue := decimalValue_decimal (n / 10)
        rw [hquotient, hzero hfirst, hfirst] at hvalue
        simp [decimalValue] at hvalue
        omega

end Text
end ContentSecurity
