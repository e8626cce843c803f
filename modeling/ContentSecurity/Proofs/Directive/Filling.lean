import ContentSecurity.Proofs.Directive.Edits

/-!
# Filling a directive

Texts are added to a directive one after the other.  Each store then holds what
the texts leave behind, in their order: the trimmed texts that are not blank,
which as nonces are wrapped into tokens.
-/

namespace ContentSecurity
namespace Directive

/-- The values that texts leave behind: trimmed, and without the blank ones. -/
def keptValues
    (texts : List String) :
    List String :=
  (texts.map Text.trim).filter (· ≠ "")

theorem appendTrimmed_eq
    (values : List String)
    (text : String) :
    appendTrimmed values text = values ++ keptValues [text] := by
  by_cases htext : Text.trim text = "" <;> simp [appendTrimmed, keptValues, htext]

theorem keptValues_cons
    (text : String)
    (texts : List String) :
    keptValues (text :: texts) = keptValues [text] ++ keptValues texts := by
  simp only [keptValues, ← List.filter_append, ← List.map_append, List.singleton_append]

theorem isTrimmed_of_mem_keptValues
    (texts : List String)
    (value : String)
    (hvalue : value ∈ keptValues texts) :
    IsTrimmed value := by
  obtain ⟨hmem, hne⟩ := List.mem_filter.mp hvalue
  obtain ⟨text, -, rfl⟩ := List.mem_map.mp hmem
  exact isTrimmed_trim text (by simpa using hne)

/-- Texts that are appended one after the other leave their kept values. -/
theorem foldl_appendTrimmed
    (values texts : List String) :
    texts.foldl appendTrimmed values = values ++ keptValues texts := by
  induction texts generalizing values with
  | nil => simp [keptValues]
  | cons text texts ih =>
      rw [List.foldl_cons, ih, appendTrimmed_eq, keptValues_cons text texts, List.append_assoc]

theorem foldl_addValue
    (d : Directive)
    (texts : List String) :
    texts.foldl addValue d = { d with values := d.values ++ keptValues texts } := by
  have hstep :
      ∀ values text,
        addValue { d with values } text = { d with values := appendTrimmed values text } :=
    fun _ _ => rfl
  rw [← foldl_appendTrimmed]
  exact List.foldl_hom (fun values => { d with values }) hstep

theorem foldl_addExperimental
    (d : Directive)
    (texts : List String) :
    texts.foldl addExperimental d =
      { d with experimental := d.experimental ++ keptValues texts } := by
  have hstep :
      ∀ experimental text,
        addExperimental { d with experimental } text =
          { d with experimental := appendTrimmed experimental text } :=
    fun _ _ => rfl
  rw [← foldl_appendTrimmed]
  exact List.foldl_hom (fun experimental => { d with experimental }) hstep

/-- Where nonces are stored, every nonce that is not blank becomes a token. -/
theorem foldl_addNonce
    (d : Directive)
    (nonces hashes : List String)
    (hkind : d.kind = .inline nonces hashes)
    (texts : List String) :
    texts.foldl addNonce d =
      { d with kind := .inline (nonces ++ (keptValues texts).map nonceToken) hashes } := by
  induction texts generalizing d nonces with
  | nil => simp [keptValues, ← hkind]
  | cons text texts ih =>
      rw [List.foldl_cons, keptValues_cons text texts]
      by_cases htext : Text.trim text = ""
      · have hadd : d.addNonce text = d := by simp [addNonce, htext]
        rw [hadd, ih d nonces hkind]
        simp [keptValues, htext]
      · have hadd :
            d.addNonce text =
              { d with kind := .inline (nonces ++ [nonceToken (Text.trim text)]) hashes } := by
          simp [addNonce, htext, hkind]
        rw [hadd, ih _ _ rfl]
        simp [keptValues, htext]

end Directive
end ContentSecurity
