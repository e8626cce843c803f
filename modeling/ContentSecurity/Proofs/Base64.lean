import ContentSecurity.Base64

/-!
# The codec of base64

What the encoder writes has the padded shape and is read back by the decoder,
however many bytes are left over for the last group.

Proofs follow the groups of the encoder.  Three bytes are one number of 24 bits;
it is cut into four digits, and these put it together again.
-/

namespace ContentSecurity
namespace Base64

theorem digit_mem_alphabet
    (value : Nat) :
    digit value ∈ alphabet := by
  rw [digit, List.getD_eq_getElem?_getD]
  cases hfound : alphabet[value]? with
  | none => decide
  | some c => exact List.mem_of_getElem? hfound

theorem isDigit_of_mem_alphabet
    (c : Char)
    (hmem : c ∈ alphabet) :
    isDigit c = true := by
  have hall : alphabet.all isDigit = true := by decide
  exact List.all_eq_true.mp hall c hmem

theorem isDigit_digit
    (value : Nat) :
    isDigit (digit value) = true :=
  isDigit_of_mem_alphabet _ (digit_mem_alphabet value)

/-- No digit is taken for padding. -/
theorem digit_ne_padding
    (value : Nat) :
    digit value ≠ '=' := by
  intro hpadding
  have hdigit := isDigit_digit value
  rw [hpadding] at hdigit
  exact absurd hdigit (by decide)

theorem digitValue?_digit
    (value : Nat)
    (hvalue : value < 64) :
    digitValue? (digit value) = some value := by
  have hall : ∀ value < 64, digitValue? (digit value) = some value := by decide
  exact hall value hvalue

/-- Four digits put a number together, and three bytes are cut out of it. -/
theorem decodeChars?_digits
    (n : Nat)
    (hn : n < 16777216)
    (rest : List Char)
    (bytes : List UInt8)
    (hrest : decodeChars? rest = some bytes) :
    decodeChars?
        (digit (n / 262144) :: digit (n / 4096 % 64) :: digit (n / 64 % 64) :: digit (n % 64) ::
          rest) =
      some
        (UInt8.ofNat (n / 65536) :: UInt8.ofNat (n / 256 % 256) :: UInt8.ofNat (n % 256) ::
          bytes) := by
  have hnumber : ((n / 262144 * 64 + n / 4096 % 64) * 64 + n / 64 % 64) * 64 + n % 64 = n := by
    omega
  have hlast := digit_ne_padding (n % 64)
  -- The last digit is no padding, so neither of the shorter groups matches.
  rw [decodeChars?]
  · simp only [digitValue?_digit (n / 262144) (by omega),
      digitValue?_digit (n / 4096 % 64) (by omega), digitValue?_digit (n / 64 % 64) (by omega),
      digitValue?_digit (n % 64) (by omega), hrest, hnumber, bind, Option.bind]
  · exact fun _ hpadding => absurd hpadding hlast
  · exact fun hpadding => absurd hpadding hlast

theorem decodeChars?_encodeChars
    (bytes : List UInt8) :
    decodeChars? (encodeChars bytes) = some bytes := by
  fun_induction encodeChars bytes with
  | case1 => rfl
  | case2 a n =>
      have ha := a.toNat_lt
      have hn : n = a.toNat * 16 := rfl
      have hnumber : n / 64 * 64 + n % 64 = n := by omega
      have hbyte : n / 16 = a.toNat := by omega
      simp [decodeChars?, digitValue?_digit (n / 64) (by omega),
        digitValue?_digit (n % 64) (by omega), hnumber, hbyte]
  | case3 a b n =>
      have ha := a.toNat_lt
      have hb := b.toNat_lt
      have hn : n = (a.toNat * 256 + b.toNat) * 4 := rfl
      have hnumber : (n / 4096 * 64 + n / 64 % 64) * 64 + n % 64 = n := by omega
      have hfirst : n / 1024 = a.toNat := by omega
      have hsecond : n / 4 % 256 = b.toNat := by omega
      rw [decodeChars?]
      · simp [digitValue?_digit (n / 4096) (by omega), digitValue?_digit (n / 64 % 64) (by omega),
          digitValue?_digit (n % 64) (by omega), hnumber, hfirst, hsecond]
      · exact digit_ne_padding _
  | case4 a b c rest n ih =>
      have ha := a.toNat_lt
      have hb := b.toNat_lt
      have hc := c.toNat_lt
      have hn : n = a.toNat * 65536 + b.toNat * 256 + c.toNat := rfl
      have hfirst : n / 65536 = a.toNat := by omega
      have hsecond : n / 256 % 256 = b.toNat := by omega
      have hthird : n % 256 = c.toNat := by omega
      rw [decodeChars?_digits n (by omega) _ _ ih, hfirst, hsecond, hthird]
      simp

/-- Every group of three bytes, the last one filled up, becomes four characters. -/
theorem length_encodeChars
    (bytes : List UInt8) :
    (encodeChars bytes).length = (bytes.length + 2) / 3 * 4 := by
  fun_induction encodeChars bytes with
  | case1 => rfl
  | case2 | case3 => simp
  | case4 a b c rest n ih =>
      simp only [List.length_cons, ih]
      omega

/-- A group with more characters behind it is not padded. -/
theorem isPaddedChars_group
    (a b c d : Char)
    (rest : List Char)
    (hrest : rest ≠ []) :
    isPaddedChars (a :: b :: c :: d :: rest) =
      (isDigit a && isDigit b && isDigit c && isDigit d && isPaddedChars rest) := by
  rw [isPaddedChars]
  exact hrest

theorem isPaddedChars_encodeChars
    (bytes : List UInt8)
    (hbytes : bytes ≠ []) :
    isPaddedChars (encodeChars bytes) = true := by
  fun_induction encodeChars bytes with
  | case1 => exact absurd rfl hbytes
  | case2 | case3 => simp [isPaddedChars, isLastGroup, isDigit_digit]
  | case4 a b c rest n ih =>
      cases rest with
      | nil => simp [encodeChars, isPaddedChars, isLastGroup, isDigit_digit]
      | cons first others =>
          have hmore : encodeChars (first :: others) ≠ [] := by
            rw [← List.length_pos_iff, length_encodeChars]
            simp
          rw [isPaddedChars_group _ _ _ _ _ hmore, ih (by simp)]
          simp [isDigit_digit]

section Texts

variable (bytes : List UInt8)

theorem decode?_encode : decode? (encode bytes) = some bytes := by
  rw [decode?, encode, String.toList_ofList, decodeChars?_encodeChars]

theorem length_encode : (encode bytes).length = (bytes.length + 2) / 3 * 4 := by
  rw [encode, String.length_ofList, length_encodeChars]

/-- Only the encoding of no bytes lacks the padded shape, since it is empty. -/
theorem isPadded_encode
    (hbytes : bytes ≠ []) :
    isPadded (encode bytes) = true := by
  rw [isPadded, encode, String.toList_ofList, isPaddedChars_encodeChars bytes hbytes]

end Texts

end Base64
end ContentSecurity
