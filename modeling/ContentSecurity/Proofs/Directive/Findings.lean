import ContentSecurity.Directive.Validation

/-!
# Findings about a directive

Validation threads one report through all checks.  This module says what it adds
in the end: the cautions about the directive as warnings, and the faults of its
tokens as errors, store by store and token by token.

The faults of a token depend on the token and the kind of the directive alone.
The main statement is `validate_eq_append`, after which no later proof has to
look into the checks.
-/

namespace ContentSecurity
namespace Directive

/-- Faults of a value that is held to the character gate alone. -/
def characterFaults
    (value : String) :
    List Fault :=
  if Source.hasLegalCharacters (Text.trim value) then [] else [.illegalCharacter value]

/-- Faults of a value of a source list. -/
def sourceFaults
    (allowUnsafe : Bool)
    (value : String) :
    List Fault :=
  let normal := normalize value
  let isKeyword := Source.isKeyword normal || allowUnsafe && Source.isUnsafeKeyword normal
  if !Source.hasLegalCharacters normal then
    [.illegalCharacter value]
  else if isKeyword || isLocation normal then
    []
  else
    [.unrecognizedSource value]

/-- Faults of a value that names an ancestor. -/
def ancestorFaults
    (value : String) :
    List Fault :=
  let normal := normalize value
  if !Source.hasLegalCharacters normal then
    [.illegalCharacter value]
  else if Source.isKeyword normal || isLocation normal then
    []
  else
    [.unrecognizedAncestor value]

/-- Faults of a plain value under the rule of a kind. -/
def valueFaults : DirectiveKind → String → List Fault
  | .keyword .sandbox, _ => []
  | .keyword .pluginTypes, value => if isMediaType value then [] else [.notMediaType value]
  | .keyword .reportUri, value => if Url.isAbsolute (Text.trim value) then [] else [.notUrl value]
  | .keyword .frameAncestors, value => ancestorFaults value
  | .keyword .experimental, value => characterFaults value
  | .sourceList, value => sourceFaults false value
  | .inline _ _, value => sourceFaults true value

/-- Faults of a hash; the algorithm and the digest are judged apart. -/
def hashFaults
    (hash : String) :
    List Fault :=
  (if namesAlgorithm hash then [] else [.algorithmNotAllowed hash]) ++
    match tokenBody? hash with
    | none => [.hashWithoutDigest hash]
    | some body => if Base64.isPadded body then [] else [.hashNotBase64 hash]

/-- Faults of a nonce. -/
def nonceFaults
    (nonce : String) :
    List Fault :=
  match nonceBody? nonce with
  | none => [.nonceWithoutValue nonce]
  | some body => if Base64.isPadded body then [] else [.nonceNotBase64 nonce]

/-- Faults of all tokens, in the order of validation. -/
def faults
    (d : Directive) :
    List Fault :=
  d.values.flatMap (valueFaults d.kind) ++ d.experimental.flatMap characterFaults ++
    d.hashes.flatMap hashFaults ++ d.nonces.flatMap nonceFaults

/-- Cautions about values that make no sense beside others. -/
def combinationCautions
    (d : Directive) :
    List Caution :=
  if d.values.length ≤ 1 then
    []
  else
    (if d.mentions Source.noneKeyword then [.noneCombined] else []) ++
      (if d.mentions Source.wildcard then [.wildcardCombined] else [])

/-- Cautions about a directive; only source lists have any. -/
def cautions
    (d : Directive) :
    List Caution :=
  match d.kind with
  | .keyword _ => []
  | _ => d.combinationCautions

/-- The line of a fault in a report. -/
def errorLine
    (d : Directive)
    (cause : Fault) :
    String :=
  Report.errorLine d.name cause.message

/-- The line of a caution in a report. -/
def warningLine
    (d : Directive)
    (cause : Caution) :
    String :=
  Report.warningLine d.name cause.message

/-- A check of every token in turn adds the faults of all tokens in turn. -/
theorem foldl_check
    (d : Directive)
    (check : Report → String → Report)
    (faultsOf : String → List Fault)
    (hcheck : ∀ report token, check report token = (faultsOf token).foldl d.fault report)
    (tokens : List String)
    (report : Report) :
    tokens.foldl check report = (tokens.flatMap faultsOf).foldl d.fault report := by
  rw [List.foldl_flatMap]
  induction tokens generalizing report with
  | nil => rfl
  | cons token tokens ih => rw [List.foldl_cons, List.foldl_cons, hcheck, ih]

theorem checkCharacters_eq
    (d : Directive)
    (report : Report)
    (value : String) :
    d.checkCharacters report value = (characterFaults value).foldl d.fault report := by
  unfold checkCharacters characterFaults
  split <;> rfl

theorem checkSource_eq
    (d : Directive)
    (allowUnsafe : Bool)
    (report : Report)
    (value : String) :
    d.checkSource allowUnsafe report value =
      (sourceFaults allowUnsafe value).foldl d.fault report := by
  simp only [checkSource, sourceFaults]
  split
  · rfl
  · split <;> rfl

theorem checkAncestor_eq
    (d : Directive)
    (report : Report)
    (value : String) :
    d.checkAncestor report value = (ancestorFaults value).foldl d.fault report := by
  simp only [checkAncestor, ancestorFaults]
  split
  · rfl
  · split <;> rfl

theorem checkHash_eq
    (d : Directive)
    (report : Report)
    (hash : String) :
    d.checkHash report hash = (hashFaults hash).foldl d.fault report := by
  simp only [checkHash, hashFaults, List.foldl_append]
  generalize namesAlgorithm hash = named
  cases tokenBody? hash with
  | none => cases named <;> rfl
  | some body => cases named <;> cases hbody : Base64.isPadded body <;> simp [hbody]

theorem checkNonce_eq
    (d : Directive)
    (report : Report)
    (nonce : String) :
    d.checkNonce report nonce = (nonceFaults nonce).foldl d.fault report := by
  simp only [checkNonce, nonceFaults]
  cases nonceBody? nonce with
  | none => rfl
  | some body => cases hbody : Base64.isPadded body <;> simp [hbody]

theorem checkCombinations_eq
    (d : Directive)
    (report : Report) :
    d.checkCombinations report = d.combinationCautions.foldl d.caution report := by
  simp only [checkCombinations, combinationCautions]
  split
  · rfl
  · split <;> split <;> rfl

/-- The plain values contribute their faults, after the cautions. -/
theorem checkValues_eq
    (d : Directive)
    (report : Report) :
    d.checkValues report =
      (d.values.flatMap (valueFaults d.kind)).foldl d.fault
        (d.cautions.foldl d.caution report) := by
  unfold checkValues cautions
  cases d.kind with
  | sourceList =>
      rw [foldl_check d _ (sourceFaults false) (d.checkSource_eq false), checkCombinations_eq]
      rfl
  | inline nonces hashes =>
      rw [foldl_check d _ (sourceFaults true) (d.checkSource_eq true), checkCombinations_eq]
      rfl
  | keyword rule =>
      cases rule with
      | sandbox =>
          have hnone : d.values.flatMap (valueFaults (.keyword .sandbox)) = [] := by
            simp [valueFaults]
          rw [hnone]
          rfl
      | pluginTypes =>
          refine foldl_check d _ _ (fun report value => ?_) d.values report
          simp only [checkMediaType, valueFaults]
          split <;> rfl
      | reportUri =>
          refine foldl_check d _ _ (fun report value => ?_) d.values report
          simp only [checkUrl, valueFaults]
          split <;> rfl
      | frameAncestors => exact foldl_check d _ _ d.checkAncestor_eq d.values report
      | experimental => exact foldl_check d _ _ d.checkCharacters_eq d.values report

/-- Validation adds the cautions and then the faults, and nothing else. -/
theorem validate_eq
    (d : Directive)
    (report : Report) :
    d.validate report = d.faults.foldl d.fault (d.cautions.foldl d.caution report) := by
  simp only [validate, faults, List.foldl_append]
  rw [foldl_check d _ nonceFaults d.checkNonce_eq, foldl_check d _ hashFaults d.checkHash_eq,
    foldl_check d _ characterFaults d.checkCharacters_eq, checkValues_eq]

/-- Lines that are appended one after the other stand behind the old ones. -/
theorem foldl_concat_line
    {Cause : Type}
    (line : Cause → String)
    (causes : List Cause)
    (lines : List String) :
    causes.foldl (fun lines cause => lines ++ [line cause]) lines = lines ++ causes.map line := by
  rw [List.foldl_append_eq_append, ← List.flatMap_def, ← List.map_eq_flatMap]

/-- Faults become errors, and the warnings stay as they are. -/
theorem foldl_fault
    (d : Directive)
    (causes : List Fault)
    (report : Report) :
    causes.foldl d.fault report =
      { report with errors := report.errors ++ causes.map d.errorLine } := by
  have hstep :
      ∀ errors cause,
        d.fault { report with errors } cause =
          { report with errors := errors ++ [d.errorLine cause] } :=
    fun _ _ => rfl
  rw [← foldl_concat_line]
  exact List.foldl_hom (fun errors => { report with errors }) hstep

/-- Cautions become warnings, and the errors stay as they are. -/
theorem foldl_caution
    (d : Directive)
    (causes : List Caution)
    (report : Report) :
    causes.foldl d.caution report =
      { report with warnings := report.warnings ++ causes.map d.warningLine } := by
  have hstep :
      ∀ warnings cause,
        d.caution { report with warnings } cause =
          { report with warnings := warnings ++ [d.warningLine cause] } :=
    fun _ _ => rfl
  rw [← foldl_concat_line]
  exact List.foldl_hom (fun warnings => { report with warnings }) hstep

/-- The report that a validation leaves, whatever it held before. -/
theorem validate_eq_append
    (d : Directive)
    (report : Report) :
    d.validate report =
      { errors := report.errors ++ d.faults.map d.errorLine
        warnings := report.warnings ++ d.cautions.map d.warningLine } := by
  rw [validate_eq, foldl_caution, foldl_fault]

theorem errors_validate
    (d : Directive)
    (report : Report) :
    (d.validate report).errors = report.errors ++ d.faults.map d.errorLine := by
  rw [validate_eq_append]

theorem warnings_validate
    (d : Directive)
    (report : Report) :
    (d.validate report).warnings = report.warnings ++ d.cautions.map d.warningLine := by
  rw [validate_eq_append]

/-- A directive passes if it adds no error, and that depends on its faults alone. -/
theorem errors_validate_eq_self_iff
    (d : Directive)
    (report : Report) :
    (d.validate report).errors = report.errors ↔ d.faults = [] := by
  rw [errors_validate, List.append_right_eq_self, List.map_eq_nil_iff]

end Directive
end ContentSecurity
