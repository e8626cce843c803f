import ContentSecurity.Directive.Basic
import ContentSecurity.Proofs.Text.Splitting

/-!
# The written form of a directive

The written form joins the tokens of a directive by spaces, so it can be cut
back into the tokens exactly if none of them holds a space.  A character other
than the space stands in the written form exactly if it stands in a token.
-/

namespace ContentSecurity
namespace Directive

theorem build_of_isEmpty
    (d : Directive)
    (hempty : d.isEmpty = true) :
    d.build = "" := by
  rw [build, if_pos hempty]

theorem build_of_not_isEmpty
    (d : Directive)
    (hnonempty : d.isEmpty = false) :
    d.build = " ".intercalate d.tokens := by
  rw [build, if_neg (by simp [hnonempty])]

theorem isEmpty_iff
    (d : Directive) :
    d.isEmpty = true ↔ d.values = [] ∧ d.experimental = [] := by
  simp [isEmpty]

/-- A value follows the name of a written directive. -/
theorem append_ne_nil_of_not_isEmpty
    (d : Directive)
    (hnonempty : d.isEmpty = false) :
    d.values ++ d.experimental ++ d.nonces ++ d.hashes ≠ [] := by
  intro hnone
  simp only [List.append_eq_nil_iff] at hnone
  have hempty := (isEmpty_iff d).mpr hnone.1.1
  simp [hnonempty] at hempty

/-- Only a directive without values and experimental values has no written form. -/
theorem build_eq_empty_iff
    (d : Directive) :
    d.build = "" ↔ d.isEmpty = true := by
  constructor
  · intro hbuild
    cases hempty : d.isEmpty with
    | true => rfl
    | false =>
        -- Behind the name at least one space is written.
        have htokens : d.tokens = d.name :: (d.values ++ d.experimental ++ d.nonces ++ d.hashes) :=
          rfl
        rw [build_of_not_isEmpty d hempty, htokens,
          String.intercalate_cons_of_ne_nil (append_ne_nil_of_not_isEmpty d hempty)] at hbuild
        have hchars := congrArg String.toList hbuild
        simp at hchars
  · exact build_of_isEmpty d

/-- The written form reads back into the tokens exactly if no token holds a space. -/
theorem splitAt_build_iff
    (d : Directive)
    (hnonempty : d.isEmpty = false) :
    Text.splitAt " " d.build = d.tokens ↔ ∀ token ∈ d.tokens, ' ' ∉ token.toList := by
  rw [build_of_not_isEmpty d hnonempty]
  exact Text.splitAt_intercalate_iff " " ' ' d.tokens rfl (by simp [tokens])

/-- Every other character of the written form comes from a token. -/
theorem mem_build_iff
    (d : Directive)
    (hnonempty : d.isEmpty = false)
    (c : Char)
    (hc : c ≠ ' ') :
    c ∈ d.build.toList ↔ ∃ token ∈ d.tokens, c ∈ token.toList := by
  rw [build_of_not_isEmpty d hnonempty]
  exact Text.mem_intercalate " " d.tokens c (by simpa using hc)

end Directive
end ContentSecurity
