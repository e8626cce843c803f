import ContentSecurity.Text.Decimal

/-!
# Numbers of 32 bits

Decimal digits are read into a word of fixed size.  Every multiplication and
every addition on the way is checked, so a number that is too large is refused
instead of being cut off.

The main statement is `word?_map_toNat`: the word of digits is the number that
the digits denote, and it is missing only where that number does not fit.
-/

namespace ContentSecurity
namespace Text

/-- The product of two words, if it fits into a word. -/
def checkedMul
    (a b : UInt32) :
    Option UInt32 :=
  if a.toNat * b.toNat < UInt32.size then some (a * b) else none

/-- The sum of two words, if it fits into a word. -/
def checkedAdd
    (a b : UInt32) :
    Option UInt32 :=
  if a.toNat + b.toNat < UInt32.size then some (a + b) else none

/-- The word with one more digit at its end. -/
def appendDigit?
    (word : UInt32)
    (c : Char) :
    Option UInt32 :=
  if c.isDigit then do
    let shifted ← checkedMul word 10
    checkedAdd shifted (UInt32.ofNat (c.toNat - '0'.toNat))
  else
    none

/-- The text behind a plus sign, if it begins with one. -/
def dropPlus : List Char → List Char
  | '+' :: rest => rest
  | text => text

/-- The word of one or more digits; a plus sign may stand before them. -/
def word?
    (text : List Char) :
    Option UInt32 :=
  let digits := dropPlus text
  if digits.isEmpty then none else digits.foldlM appendDigit? 0

/-- A number, if it fits into a word. -/
def fitting
    (n : Nat) :
    Option Nat :=
  if n < UInt32.size then some n else none

/-- A word of the right remainder, given where the number fits, is the number where it fits. -/
theorem map_toNat_of_toNat_eq_mod
    (n : Nat)
    (word : UInt32)
    (hword : word.toNat = n % UInt32.size) :
    (if n < UInt32.size then some word else none).map UInt32.toNat = fitting n := by
  unfold fitting
  split
  · rename_i hfits
    rw [Option.map_some, hword, Nat.mod_eq_of_lt hfits]
  · rfl

theorem checkedMul_map_toNat
    (a b : UInt32) :
    (checkedMul a b).map UInt32.toNat = fitting (a.toNat * b.toNat) :=
  map_toNat_of_toNat_eq_mod _ (a * b) (UInt32.toNat_mul a b)

theorem checkedAdd_map_toNat
    (a b : UInt32) :
    (checkedAdd a b).map UInt32.toNat = fitting (a.toNat + b.toNat) :=
  map_toNat_of_toNat_eq_mod _ (a + b) (UInt32.toNat_add a b)

theorem fitting_eq_none_iff
    (n : Nat) :
    fitting n = none ↔ UInt32.size ≤ n := by
  simp [fitting]

theorem fitting_eq_some_iff
    (n value : Nat) :
    fitting n = some value ↔ n < UInt32.size ∧ n = value := by
  simp [fitting]

/-- A digit has a value that fits into a word. -/
theorem toNat_digit
    (c : Char)
    (hc : c.isDigit = true) :
    (UInt32.ofNat (c.toNat - '0'.toNat)).toNat = c.toNat - '0'.toNat := by
  have hlast : c.toNat ≤ '9'.toNat := by
    simp only [Char.isDigit, Bool.and_eq_true, decide_eq_true_eq] at hc
    exact hc.2
  have hsmall : c.toNat - '0'.toNat < UInt32.size := by
    have hnine : '9'.toNat < UInt32.size := by decide
    omega
  exact UInt32.toNat_ofNat_of_lt' hsmall

theorem appendDigit?_map_toNat
    (word : UInt32)
    (c : Char)
    (hc : c.isDigit = true) :
    (appendDigit? word c).map UInt32.toNat =
      fitting (word.toNat * 10 + (c.toNat - '0'.toNat)) := by
  have hmul := checkedMul_map_toNat word 10
  rw [appendDigit?, if_pos hc]
  cases hshifted : checkedMul word 10 with
  | none =>
      -- A product that does not fit does not get smaller by the digit.
      rw [hshifted, Option.map_none, eq_comm, fitting_eq_none_iff] at hmul
      have hnone := (fitting_eq_none_iff (word.toNat * 10 + (c.toNat - '0'.toNat))).mpr
        (Nat.le_add_right_of_le hmul)
      rw [hnone]
      rfl
  | some shifted =>
      rw [hshifted, Option.map_some, eq_comm, fitting_eq_some_iff] at hmul
      have hadd := checkedAdd_map_toNat shifted (UInt32.ofNat (c.toNat - '0'.toNat))
      rw [toNat_digit c hc, ← hmul.2] at hadd
      exact hadd

/-- More digits do not make a number smaller. -/
theorem le_foldl_digits
    (digits : List Char)
    (n : Nat) :
    n ≤ digits.foldl (fun value c => value * 10 + (c.toNat - '0'.toNat)) n := by
  induction digits generalizing n with
  | nil => exact Nat.le_refl n
  | cons c digits ih =>
      have hrest := ih (n * 10 + (c.toNat - '0'.toNat))
      rw [List.foldl_cons]
      omega

/-- Reading digits behind a word fails exactly where their number is too large. -/
theorem foldlM_appendDigit?_map_toNat
    (digits : List Char)
    (hdigits : ∀ c ∈ digits, c.isDigit = true)
    (word : UInt32) :
    (digits.foldlM appendDigit? word).map UInt32.toNat =
      fitting (digits.foldl (fun value c => value * 10 + (c.toNat - '0'.toNat)) word.toNat) := by
  induction digits generalizing word with
  | nil =>
      have hfits := (fitting_eq_some_iff word.toNat word.toNat).mpr ⟨word.toNat_lt, rfl⟩
      rw [List.foldl_nil, hfits]
      rfl
  | cons c digits ih =>
      have hfirst := appendDigit?_map_toNat word c (hdigits c List.mem_cons_self)
      have hothers := ih fun digit hdigit => hdigits digit (List.mem_cons_of_mem c hdigit)
      rw [List.foldlM_cons, List.foldl_cons]
      cases hread : appendDigit? word c with
      | none =>
          rw [hread, Option.map_none, eq_comm, fitting_eq_none_iff] at hfirst
          have hlarge := Nat.le_trans hfirst (le_foldl_digits digits _)
          rw [(fitting_eq_none_iff _).mpr hlarge]
          rfl
      | some longer =>
          rw [hread, Option.map_some, eq_comm, fitting_eq_some_iff] at hfirst
          rw [hfirst.2]
          exact hothers longer

theorem dropPlus_of_isDigit
    (digits : List Char)
    (hdigits : ∀ c ∈ digits, c.isDigit = true) :
    dropPlus digits = digits := by
  unfold dropPlus
  split
  · exact absurd (hdigits '+' List.mem_cons_self) (by decide)
  · rfl

/-- The word of digits is their number, and only a number that is too large has none. -/
theorem word?_map_toNat
    (digits : List Char)
    (hne : digits ≠ [])
    (hdigits : ∀ c ∈ digits, c.isDigit = true) :
    (word? digits).map UInt32.toNat = fitting (decimalValue digits) := by
  rw [word?, dropPlus_of_isDigit digits hdigits, if_neg (by simpa using hne)]
  exact foldlM_appendDigit?_map_toNat digits hdigits 0

end Text
end ContentSecurity
