import ContentSecurity.Proofs.Directive.SourceRules
import Mathlib.Data.List.Basic

/-!
# Accounting for tokens

Validation walks through the stores of a directive in a fixed order.  This module
says what each token adds to the report on the way: the errors about a directive
that holds this token and nothing else.  No token looks at another one, and no
error of a token stands in the way of the errors of the next.

`errors_validate_eq_loneErrors` says so for any stored tokens.  The main
statement is `validation_accounts_for_every_token`, which adds how many errors a
token can have, and which error a separator in a value brings about.
-/

namespace ContentSecurity
namespace Directive

/-- The most errors that a token of a store can have; the two parts of a hash are judged apart. -/
def Store.limit : Store → Nat
  | hashes => 2
  | _ => 1

/-- A directive that holds one token and nothing else. -/
def holdingOnly
    (name : String)
    (kind : DirectiveKind) :
    Store → String → Directive
  | .values, token => { name, kind := kind.cleared, values := [token] }
  | .experimental, token => { name, kind := kind.cleared, experimental := [token] }
  | .hashes, token => { name, kind := .inline [] [token] }
  | .nonces, token => { name, kind := .inline [token] [] }

/-- The errors about a token that stands alone. -/
def loneErrors
    (name : String)
    (kind : DirectiveKind)
    (store : Store)
    (token : String) :
    List String :=
  ((holdingOnly name kind store token).validate {}).errors

/-- Faults of a token of a store. -/
def tokenFaults
    (kind : DirectiveKind) :
    Store → String → List Fault
  | .values => valueFaults kind
  | .experimental => characterFaults
  | .hashes => hashFaults
  | .nonces => nonceFaults

theorem faults_holdingOnly
    (name : String)
    (kind : DirectiveKind)
    (store : Store)
    (token : String) :
    (holdingOnly name kind store token).faults = tokenFaults kind store token := by
  cases store with
  | values =>
      have hcleared : kind.cleared.cleared = kind.cleared := by
        cases kind <;> rfl
      rw [holdingOnly, faults_of_values_singleton name _ hcleared token, tokenFaults]
      cases kind <;> rfl
  | experimental =>
      cases kind <;> simp [holdingOnly, faults, hashes, nonces, tokenFaults, DirectiveKind.cleared]
  | hashes => simp [holdingOnly, faults, hashes, nonces, tokenFaults]
  | nonces => simp [holdingOnly, faults, hashes, nonces, tokenFaults]

theorem loneErrors_eq
    (name : String)
    (kind : DirectiveKind)
    (store : Store)
    (token : String) :
    loneErrors name kind store token =
      (tokenFaults kind store token).map fun cause => Report.errorLine name cause.message := by
  rw [loneErrors, errors_validate, faults_holdingOnly, List.nil_append]
  cases store <;> rfl

/-- What is stored in a kind has no part in the errors about a token that stands alone. -/
theorem loneErrors_congr
    (name : String)
    (kind other : DirectiveKind)
    (hcleared : kind.cleared = other.cleared) :
    loneErrors name kind = loneErrors name other := by
  funext store token
  cases store <;> simp only [loneErrors, holdingOnly, hcleared]

/-- Validation appends the errors of all tokens, each as if it stood alone. -/
theorem errors_validate_eq_loneErrors
    (d : Directive)
    (report : Report) :
    (d.validate report).errors =
      report.errors ++
        (d.values.flatMap (loneErrors d.name d.kind .values) ++
          d.experimental.flatMap (loneErrors d.name d.kind .experimental) ++
          d.hashes.flatMap (loneErrors d.name d.kind .hashes) ++
          d.nonces.flatMap (loneErrors d.name d.kind .nonces)) := by
  have hstore :
      ∀ (store : Store) (tokens : List String),
        (tokens.flatMap (tokenFaults d.kind store)).map d.errorLine =
          tokens.flatMap (loneErrors d.name d.kind store) := by
    intro store tokens
    rw [List.map_flatMap]
    exact List.flatMap_congr fun token _ => (loneErrors_eq d.name d.kind store token).symm
  rw [errors_validate, faults, List.map_append, List.map_append, List.map_append]
  rw [← hstore .values, ← hstore .experimental, ← hstore .hashes, ← hstore .nonces]
  rfl

/-- Validation appends warnings that the report has no part in. -/
theorem warnings_validate_eq_append
    (d : Directive)
    (report : Report) :
    (d.validate report).warnings = report.warnings ++ (d.validate {}).warnings := by
  rw [warnings_validate, warnings_validate, List.nil_append]

theorem length_sourceFaults_le_one
    (allowUnsafe : Bool)
    (value : String) :
    (sourceFaults allowUnsafe value).length ≤ 1 := by
  simp only [sourceFaults]
  split
  · simp
  · split <;> simp

/-- Every rule stops at the first fault of a plain value. -/
theorem length_valueFaults_le_one
    (kind : DirectiveKind)
    (value : String) :
    (valueFaults kind value).length ≤ 1 := by
  cases kind with
  | sourceList => exact length_sourceFaults_le_one false value
  | inline nonces hashes => exact length_sourceFaults_le_one true value
  | keyword rule =>
      cases rule with
      | sandbox => simp [valueFaults]
      | pluginTypes =>
          simp only [valueFaults]
          split <;> simp
      | reportUri =>
          simp only [valueFaults]
          split <;> simp
      | frameAncestors =>
          simp only [valueFaults, ancestorFaults]
          split
          · simp
          · split <;> simp
      | experimental =>
          simp only [valueFaults, characterFaults]
          split <;> simp

theorem length_hashFaults_le_two
    (hash : String) :
    (hashFaults hash).length ≤ 2 := by
  rw [hashFaults, List.length_append]
  change _ ≤ 1 + 1
  refine Nat.add_le_add ?_ ?_
  · split <;> simp
  · split
    · simp
    · split <;> simp

theorem length_nonceFaults_le_one
    (nonce : String) :
    (nonceFaults nonce).length ≤ 1 := by
  simp only [nonceFaults]
  split
  · simp
  · split <;> simp

/-- A token has no more errors than its store allows. -/
theorem length_loneErrors_le_limit
    (name : String)
    (kind : DirectiveKind)
    (store : Store)
    (token : String) :
    (loneErrors name kind store token).length ≤ store.limit := by
  rw [loneErrors_eq, List.length_map]
  cases store with
  | values => exact length_valueFaults_le_one kind token
  | experimental => exact length_valueFaults_le_one (.keyword .experimental) token
  | hashes => exact length_hashFaults_le_two token
  | nonces => exact length_nonceFaults_le_one token

/-- The gate alone: an illegal character is the only fault. -/
theorem characterFaults_eq
    (value : String)
    (htrimmed : IsTrimmed value) :
    characterFaults value =
      if HoldsIllegalCharacter value then [.illegalCharacter value] else [] := by
  have hlegal := hasLegalCharacters_iff_of_ne_empty value htrimmed.1
  rw [characterFaults, htrimmed.2]
  by_cases hillegal : HoldsIllegalCharacter value
  · simp [hlegal, hillegal]
  · simp [hlegal.mpr hillegal, hillegal]

/-- Under the gate, an illegal character is the only fault of a plain value that holds one. -/
theorem valueFaults_eq_of_holdsIllegalCharacter
    (kind : DirectiveKind)
    (hgated : kind.isGated = true)
    (value : String)
    (htrimmed : IsTrimmed value)
    (hillegal : HoldsIllegalCharacter value) :
    valueFaults kind value = [.illegalCharacter value] := by
  have hsources :
      kind.readsSources = true → valueFaults kind value = [.illegalCharacter value] := by
    intro hreads
    rw [valueFaults_eq_of_readsSources kind hreads value htrimmed, if_pos hillegal]
  cases kind with
  | sourceList => exact hsources rfl
  | inline nonces hashes => exact hsources rfl
  | keyword rule =>
      cases rule with
      | frameAncestors => exact hsources rfl
      | experimental =>
          rw [valueFaults, characterFaults_eq value htrimmed, if_pos hillegal]
      | _ => simp [DirectiveKind.isGated] at hgated

/-- Only a kind that stores nonces and hashes has any. -/
theorem hashes_and_nonces_eq_nil
    (d : Directive)
    (hinline : d.isInlineCapable = false) :
    d.hashes = [] ∧ d.nonces = [] := by
  cases hkind : d.kind with
  | inline nonces hashes => simp [isInlineCapable, hkind] at hinline
  | _ => simp [hashes, nonces, hkind]

/--
Validation of a directive, whatever its name, kind and edits, appends to the
report: the warnings, which the report has no part in, and the errors of every
token in the order of the stores, each as if the token stood alone under the
name and the kind.  A token has one error at most, and a hash two.  A value with
an illegal character in it has that one error, and an experimental value has no
other in any kind.
-/
theorem validation_accounts_for_every_token
    (name : String)
    (kind : DirectiveKind)
    (edits : List Edit)
    (report : Report) :
    let d := ({ name, kind } : Directive).editAll edits
    let illegal := fun value =>
      Report.errorLine name (Fault.message (.illegalCharacter value))
    (d.validate report).errors =
      report.errors ++
        (d.values.flatMap (loneErrors name kind .values) ++
          d.experimental.flatMap (loneErrors name kind .experimental) ++
          d.hashes.flatMap (loneErrors name kind .hashes) ++
          d.nonces.flatMap (loneErrors name kind .nonces)) ∧
    (d.validate report).warnings = report.warnings ++ (d.validate {}).warnings ∧
    (d.isInlineCapable = false → d.hashes = [] ∧ d.nonces = []) ∧
    (∀ store token, (loneErrors name kind store token).length ≤ store.limit) ∧
    (kind.isGated = true →
      ∀ value ∈ d.values,
        HoldsIllegalCharacter value → loneErrors name kind .values value = [illegal value]) ∧
    ∀ value ∈ d.experimental,
      loneErrors name kind .experimental value =
        if HoldsIllegalCharacter value then [illegal value] else [] := by
  intro d illegal
  have hname : d.name = name := name_editAll _ edits
  have hlone : loneErrors d.name d.kind = loneErrors name kind := by
    rw [hname]
    exact loneErrors_congr name d.kind kind (cleared_kind_editAll _ edits)
  have hadmitted : ∀ e ∈ edits, e.Admitted fun _ => True := fun e _ => e.admitted_true
  have hvalues : ∀ value ∈ d.values, IsTrimmed value := fun value hvalue =>
    (mem_stored_editAll _ _ edits hadmitted .values value hvalue).resolve_left List.not_mem_nil
  have hexperimental : ∀ value ∈ d.experimental, IsTrimmed value := fun value hvalue =>
    (mem_stored_editAll _ _ edits hadmitted .experimental value hvalue).resolve_left
      List.not_mem_nil
  refine ⟨?_, warnings_validate_eq_append d report, hashes_and_nonces_eq_nil d,
    length_loneErrors_le_limit name kind, ?_, ?_⟩
  · rw [← hlone]
    exact errors_validate_eq_loneErrors d report
  · intro hgated value hvalue hillegal
    rw [loneErrors_eq, tokenFaults,
      valueFaults_eq_of_holdsIllegalCharacter kind hgated value (hvalues value hvalue) hillegal]
    rfl
  · intro value hvalue
    rw [loneErrors_eq, tokenFaults, characterFaults_eq value (hexperimental value hvalue)]
    by_cases hillegal : HoldsIllegalCharacter value
    · simp only [if_pos hillegal]
      rfl
    · simp only [if_neg hillegal]
      rfl

/--
A value with two separators has one error, a hash with two bad parts has two,
and the tokens behind them are judged all the same.
-/
theorem validation_accounts_for_every_token_of_script_directive :
    let edits : List Edit :=
      [.nonce "QUJD", .hash "md5" "QUJ", .experimental "x,y", .value " a b;c ",
        .value "'Unsafe-Inline'", .value "b_c"]
    let d := ({ name := "script-src", kind := .inline [] [] } : Directive).editAll edits
    (d.validate { errors := ["before"] }).errors =
      ["before",
        "script-src reports a validation error: " ++
          "Source value a b;c contains an illegal character: [' ', ';', ',']",
        "script-src reports a validation error: Source value b_c could not be validated",
        "script-src reports a validation error: " ++
          "Source value x,y contains an illegal character: [' ', ';', ',']",
        "script-src reports a validation error: Hash algorithm 'md5-QUJ' not allowed",
        "script-src reports a validation error: Hash: 'md5-QUJ' is not base-64 encoded"] := by
  intro edits d
  have haccount :=
    validation_accounts_for_every_token "script-src" (.inline [] []) edits
      { errors := ["before"] }
  exact haccount.1.trans (by decide)

end Directive
end ContentSecurity
