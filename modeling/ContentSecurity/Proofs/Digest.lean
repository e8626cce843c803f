import ContentSecurity.Digest.Algorithm
import ContentSecurity.Proofs.Base64

/-!
# Sizes of digests

A digest consists of the words of the final state, so its size is fixed by the
algorithm, whatever the content and the number of its blocks are.  So is the
size of its text, which is therefore never empty and always in padded form.
-/

namespace ContentSecurity
namespace Digest

theorem length_bytesOfNat
    (count value : Nat) :
    (bytesOfNat count value).length = count := by
  induction count generalizing value with
  | zero => rfl
  | succ count ih => rw [bytesOfNat, List.length_append, ih, List.length_singleton]

/-- Whatever was absorbed, the state has eight words. -/
theorem Family.length_digest
    (family : Family)
    (start : State family.width)
    (message : List UInt8) :
    (family.digest start message).length = 8 * family.wordBytes := by
  simp only [digest, State.words, List.flatMap_cons, List.flatMap_nil, List.length_append,
    length_bytesOfNat, List.length_nil]
  omega

namespace Algorithm

/-- The number of bytes of a digest. -/
def size : Algorithm → Nat
  | sha256 => 32
  | sha384 => 48
  | sha512 => 64

/-- The number of characters of the text of a digest. -/
def textSize : Algorithm → Nat
  | sha256 => 44
  | sha384 => 64
  | sha512 => 88

section Content

variable (algorithm : Algorithm) (content : List UInt8)

theorem length_digest : (algorithm.digest content).length = algorithm.size := by
  cases algorithm with
  | sha256 => exact shortWords.length_digest start256 content
  | sha384 =>
      -- The longer words yield 64 bytes, of which 48 are kept.
      rw [digest, List.length_take, longWords.length_digest start384 content]
      rfl
  | sha512 => exact longWords.length_digest start512 content

theorem length_digestText : (algorithm.digestText content).length = algorithm.textSize := by
  rw [digestText, Base64.length_encode, length_digest]
  cases algorithm <;> rfl

theorem isPadded_digestText : Base64.isPadded (algorithm.digestText content) = true := by
  refine Base64.isPadded_encode _ ?_
  rw [← List.length_pos_iff, length_digest]
  cases algorithm <;> decide

end Content

end Algorithm
end Digest
end ContentSecurity
