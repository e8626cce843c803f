import ContentSecurity.Config.Basic
import ContentSecurity.Proofs.Directive.Deduplication
import ContentSecurity.Proofs.Directive.Filling
import ContentSecurity.Proofs.Policy.Edits
import Mathlib.Data.List.Induction

/-!
# Assembling a policy from its configuration

Every entry of a configuration stands for one directive, which is described here
by the fields of the entry alone, and under a key: the registered name that the
entry means, or its own name.  Entries can share a key, since blanks around a
name and the case of a registered name make no difference.

The main statement says which entry a failure is about, and that otherwise the
policy has one directive for each key, described by the last entry of the key
and standing where the first one put it.
-/

namespace ContentSecurity

namespace RegisteredDirective

theorem ofName?_eq_some_iff
    (text : String)
    (directive : RegisteredDirective) :
    ofName? text = some directive ↔ directive.name = text := by
  constructor
  · intro hfound
    have hmatch : (directive.name == text) = true :=
      List.find?_some (p := fun other : RegisteredDirective => other.name == text) hfound
    exact eq_of_beq hmatch
  · rintro rfl
    cases directive <;> decide

theorem ofName?_eq_none_iff
    (text : String) :
    ofName? text = none ↔ text ∉ all.map (·.name) := by
  rw [ofName?, List.find?_eq_none, List.mem_map]
  simp only [beq_iff_eq, not_exists, not_and]

theorem mem_all
    (directive : RegisteredDirective) :
    directive ∈ all := by
  cases directive <;> decide

theorem lowerAscii_name
    (directive : RegisteredDirective) :
    Text.lowerAscii directive.name = directive.name := by
  cases directive <;> decide

theorem isBlank_name
    (directive : RegisteredDirective) :
    Text.isBlank directive.name = false := by
  cases directive <;> decide

end RegisteredDirective

namespace Policy

/-- Adds directives, one after the other. -/
def addAll
    (policy : Policy)
    (directives : List Directive) :
    Policy :=
  directives.foldl add policy

theorem addAll_cons
    (policy : Policy)
    (d : Directive)
    (directives : List Directive) :
    policy.addAll (d :: directives) = (policy.add d).addAll directives :=
  rfl

theorem addAll_concat
    (policy : Policy)
    (directives : List Directive)
    (d : Directive) :
    policy.addAll (directives ++ [d]) = (policy.addAll directives).add d := by
  rw [addAll, List.foldl_append]
  rfl

/-- Additions change nothing but the directives. -/
theorem level_report_addAll
    (policy : Policy)
    (directives : List Directive) :
    (policy.addAll directives).level = policy.level ∧
      (policy.addAll directives).report = policy.report := by
  induction directives using List.reverseRecOn with
  | nil => exact ⟨rfl, rfl⟩
  | append_singleton directives d ih =>
      rw [addAll_concat, add]
      split
      · exact ih
      · exact ih

section Additions

variable (level : Level) (directives : List Directive)
variable (hnamed : ∀ d ∈ directives, Text.isBlank d.name = false)

include hnamed

/-- A name stands where the first directive under it was added. -/
theorem names_addAll :
    ((empty level).addAll directives).names =
      Directive.firstOccurrences (directives.map (·.name)) := by
  induction directives using List.reverseRecOn with
  | nil => rfl
  | append_singleton directives d ih =>
      have hnames := ih fun other hother => hnamed other (List.mem_append_left _ hother)
      have hmem := Directive.mem_firstOccurrences (directives.map (·.name)) d.name
      rw [addAll_concat, names_add _ d (hnamed d (by simp)), hnames, List.map_append,
        List.map_singleton, Directive.firstOccurrences_concat]
      simp only [hmem]

/-- A name has the directive that was added last under it. -/
theorem get?_addAll
    (name : String) :
    ((empty level).addAll directives).get? name =
      directives.reverse.find? (·.name == name) := by
  induction directives using List.reverseRecOn with
  | nil => rfl
  | append_singleton directives d ih =>
      have hfound := ih fun other hother => hnamed other (List.mem_append_left _ hother)
      rw [addAll_concat, get?_add _ d (hnamed d (by simp)), hfound, List.reverse_append,
        List.reverse_singleton, List.singleton_append]
      by_cases hname : d.name = name
      · rw [if_pos hname, List.find?_cons_of_pos (by simpa using hname)]
      · rw [if_neg hname, List.find?_cons_of_neg (by simpa using hname)]

end Additions

end Policy

namespace DirectiveConfig

/-- The name of the directive of an entry: only registered names disregard the case. -/
def key
    (entry : DirectiveConfig) :
    String :=
  let name := Text.trim entry.name
  let lowered := Text.lowerAscii name
  if lowered ∈ RegisteredDirective.all.map (·.name) then lowered else name

/-- The kind of the directives of a key, without nonces and hashes. -/
def kindOfKey
    (key : String) :
    DirectiveKind :=
  match RegisteredDirective.ofName? key with
  | some directive => directive.kind
  | none => .keyword .experimental

/-- The tokens of the nonces; a blank one has none. -/
def nonceTokens
    (entry : DirectiveConfig) :
    List String :=
  (Directive.keptValues entry.nonces).map fun nonce => "'nonce-" ++ nonce ++ "'"

/-- The tokens of some hashes; one with a blank part has none. -/
def tokensOfHashes
    (hashes : List HashConfig) :
    List String :=
  hashes.flatMap fun hash =>
    if Text.trim hash.algorithm = "" ∨ Text.trim hash.digest = "" then
      []
    else
      ["'" ++ Text.trim hash.algorithm ++ "-" ++ Text.trim hash.digest ++ "'"]

/-- The directive that an entry describes. -/
def described
    (entry : DirectiveConfig) :
    Directive :=
  { name := entry.key
    kind :=
      match kindOfKey entry.key with
      | .inline _ _ => .inline entry.nonceTokens (tokensOfHashes entry.hashes)
      | kind => kind
    values := Directive.keptValues entry.values
    experimental := Directive.keptValues entry.experimental }

@[simp] theorem name_described
    (entry : DirectiveConfig) :
    entry.described.name = entry.key := by
  rw [described]

/-- Nonces or hashes are given, blank ones included, under a key that stores none. -/
def MisplacesSources
    (entry : DirectiveConfig) : Prop :=
  (entry.nonces ≠ [] ∨ entry.hashes ≠ []) ∧ entry.key ≠ "script-src" ∧ entry.key ≠ "style-src"

instance
    (entry : DirectiveConfig) :
    Decidable entry.MisplacesSources :=
  inferInstanceAs (Decidable (_ ∧ _ ∧ _))

/-- The reason for which an entry describes no directive. -/
def refusal?
    (entry : DirectiveConfig) :
    Option ConfigError :=
  if Text.trim entry.name = "" then
    some .blankDirectiveName
  else if entry.MisplacesSources then
    some (.inlineSourcesUnsupported entry.key)
  else
    none

/-- The directive without values has the name and the kind that belong to the key. -/
theorem emptyDirective_eq
    (entry : DirectiveConfig) :
    entry.emptyDirective = { name := entry.key, kind := kindOfKey entry.key } := by
  cases hfound : RegisteredDirective.ofName? (Text.lowerAscii (Text.trim entry.name)) with
  | some directive =>
      have hname := (RegisteredDirective.ofName?_eq_some_iff _ directive).mp hfound
      have hmem : directive.name ∈ RegisteredDirective.all.map (·.name) :=
        List.mem_map_of_mem directive.mem_all
      have hkey : entry.key = directive.name := by rw [key, ← hname, if_pos hmem]
      have hagain := (RegisteredDirective.ofName?_eq_some_iff directive.name directive).mpr rfl
      simp [emptyDirective, Directive.ofName?, hfound, hkey, kindOfKey, hagain,
        Directive.registered]
  | none =>
      have hmem := (RegisteredDirective.ofName?_eq_none_iff _).mp hfound
      have hkey : entry.key = Text.trim entry.name := by rw [key, if_neg hmem]
      -- A name that is registered as it is would be registered in lower case too.
      have hunregistered : RegisteredDirective.ofName? (Text.trim entry.name) = none := by
        cases hown : RegisteredDirective.ofName? (Text.trim entry.name) with
        | none => rfl
        | some directive =>
            have hname := (RegisteredDirective.ofName?_eq_some_iff _ directive).mp hown
            rw [← hname, RegisteredDirective.lowerAscii_name, hname, hown] at hfound
            cases hfound
      simp [emptyDirective, Directive.ofName?, hfound, hkey, kindOfKey, hunregistered,
        Directive.unregistered]

/-- The kinds of two keys store nonces and hashes, and a directive begins with none of them. -/
theorem kindOfKey_eq_inline_iff
    (key : String)
    (nonces hashes : List String) :
    kindOfKey key = .inline nonces hashes ↔
      (key = "script-src" ∨ key = "style-src") ∧ nonces = [] ∧ hashes = [] := by
  cases hfound : RegisteredDirective.ofName? key with
  | some directive =>
      obtain rfl := (RegisteredDirective.ofName?_eq_some_iff key directive).mp hfound
      rw [kindOfKey, hfound]
      cases directive <;> simp [RegisteredDirective.kind, RegisteredDirective.name, eq_comm]
  | none =>
      have hother := (RegisteredDirective.ofName?_eq_none_iff key).mp hfound
      have hneither : ¬ (key = "script-src" ∨ key = "style-src") := by
        rintro (rfl | rfl)
        · exact hother (by decide)
        · exact hother (by decide)
      simp [kindOfKey, hfound, hneither]

theorem isInlineCapable_emptyDirective_iff
    (entry : DirectiveConfig) :
    entry.emptyDirective.isInlineCapable = true ↔
      entry.key = "script-src" ∨ entry.key = "style-src" := by
  have hinline := kindOfKey_eq_inline_iff entry.key
  rw [emptyDirective_eq, Directive.isInlineCapable]
  cases hkind : kindOfKey entry.key with
  | inline nonces hashes =>
      exact ⟨fun _ => ((hinline nonces hashes).mp hkind).1, fun _ => rfl⟩
  | _ =>
      have hneither : ¬ (entry.key = "script-src" ∨ entry.key = "style-src") := by
        intro hkey
        have hempty := (hinline [] []).mpr ⟨hkey, rfl, rfl⟩
        rw [hkind] at hempty
        cases hempty
      simp [hneither]

theorem isBlank_key
    (entry : DirectiveConfig)
    (hname : Text.trim entry.name ≠ "") :
    Text.isBlank entry.key = false := by
  rw [key]
  split
  · rename_i hmem
    obtain ⟨directive, -, hdirective⟩ := List.mem_map.mp hmem
    rw [← hdirective]
    exact directive.isBlank_name
  · rw [← Bool.not_eq_true, Text.isBlank_iff_trim_eq_empty, Text.trim_trim]
    exact hname

/-- Where hashes are stored, every hash without a blank part becomes a token. -/
theorem foldl_addHash
    (d : Directive)
    (nonces hashes : List String)
    (hkind : d.kind = .inline nonces hashes)
    (configs : List HashConfig) :
    configs.foldl (fun d hash => d.addHash hash.algorithm hash.digest) d =
      { d with kind := .inline nonces (hashes ++ tokensOfHashes configs) } := by
  induction configs generalizing d hashes with
  | nil => simp [tokensOfHashes, ← hkind]
  | cons hash configs ih =>
      by_cases hparts : Text.trim hash.algorithm = "" ∨ Text.trim hash.digest = ""
      · have hadd : d.addHash hash.algorithm hash.digest = d := by
          simp [Directive.addHash, hparts]
        rw [List.foldl_cons, hadd, ih d hashes hkind]
        simp [tokensOfHashes, hparts]
      · have hadd :
            d.addHash hash.algorithm hash.digest =
              { d with kind := .inline nonces (hashes ++ tokensOfHashes [hash]) } := by
          simp [Directive.addHash, tokensOfHashes, Directive.hashToken, hparts, hkind]
        rw [List.foldl_cons, hadd, ih _ _ rfl]
        simp [tokensOfHashes]

/-- Unless nonces or hashes are given where none are stored, filling yields what is described. -/
theorem fill_eq_described
    (entry : DirectiveConfig)
    (hplaced : ¬ entry.MisplacesSources) :
    entry.hashes.foldl (fun d hash => d.addHash hash.algorithm hash.digest)
        (entry.nonces.foldl Directive.addNonce
          (entry.experimental.foldl Directive.addExperimental
            (entry.values.foldl Directive.addValue entry.emptyDirective))) =
      entry.described := by
  have hvalues :
      entry.experimental.foldl Directive.addExperimental
          (entry.values.foldl Directive.addValue entry.emptyDirective) =
        { name := entry.key
          kind := kindOfKey entry.key
          values := Directive.keptValues entry.values
          experimental := Directive.keptValues entry.experimental } := by
    rw [emptyDirective_eq, Directive.foldl_addValue, Directive.foldl_addExperimental]
    simp only [List.nil_append]
  have hinline := kindOfKey_eq_inline_iff entry.key
  rw [hvalues, described]
  by_cases hkey : entry.key = "script-src" ∨ entry.key = "style-src"
  · rw [(hinline [] []).mpr ⟨hkey, rfl, rfl⟩, Directive.foldl_addNonce _ [] [] rfl,
      foldl_addHash _ _ [] rfl]
    simp only [List.nil_append]
    rfl
  · -- No other kind stores nonces or hashes, and here the entry gives none.
    have hnone : entry.nonces = [] ∧ entry.hashes = [] := by
      by_contra hsome
      rw [Classical.not_and_iff_not_or_not] at hsome
      exact hplaced ⟨hsome, not_or.mp hkey⟩
    rw [hnone.1, hnone.2]
    cases hkind : kindOfKey entry.key with
    | inline nonces hashes => exact absurd ((hinline nonces hashes).mp hkind).1 hkey
    | _ => rfl

/-- An entry is refused for its first reason, or it yields the directive that it describes. -/
theorem toDirective_eq
    (entry : DirectiveConfig) :
    entry.toDirective =
      match entry.refusal? with
      | some error => .error error
      | none => .ok entry.described := by
  have hblank := Text.isBlank_iff_trim_eq_empty entry.name
  have hcapable := isInlineCapable_emptyDirective_iff entry
  have hname : entry.emptyDirective.name = entry.key := by rw [emptyDirective_eq]
  by_cases htrim : Text.trim entry.name = ""
  · simp only [toDirective, refusal?, if_pos htrim, if_pos (hblank.mpr htrim)]
  · -- The guard asks for the kind of the directive, which the key decides.
    have hguard :
        (!(entry.nonces.isEmpty && entry.hashes.isEmpty) &&
            !entry.emptyDirective.isInlineCapable) = true ↔ entry.MisplacesSources := by
      rw [Bool.and_eq_true, Bool.not_eq_true', Bool.not_eq_true', ← Bool.not_eq_true,
        ← Bool.not_eq_true, hcapable, not_or, Bool.and_eq_true, List.isEmpty_iff,
        List.isEmpty_iff, Classical.not_and_iff_not_or_not]
      rfl
    simp only [toDirective, refusal?, if_neg htrim, if_neg (mt hblank.mp htrim), hguard, hname]
    by_cases hmisplaced : entry.MisplacesSources
    · rw [if_pos hmisplaced, if_pos hmisplaced]
    · rw [if_neg hmisplaced, if_neg hmisplaced, fill_eq_described entry hmisplaced]

theorem refusal?_eq_none_iff
    (entry : DirectiveConfig) :
    entry.refusal? = none ↔ ¬ (Text.trim entry.name = "" ∨ entry.MisplacesSources) := by
  by_cases htrim : Text.trim entry.name = ""
  · simp [refusal?, htrim]
  · by_cases hmisplaced : entry.MisplacesSources <;> simp [refusal?, htrim, hmisplaced]

end DirectiveConfig

namespace PolicyConfig

/-- The first refusal ends the addition of entries; without one all are added in order. -/
theorem addEntries_eq
    (policy : Policy)
    (entries : List DirectiveConfig) :
    addEntries policy entries =
      match entries.findSome? (·.refusal?) with
      | some error => .error error
      | none => .ok (policy.addAll (entries.map (·.described))) := by
  -- The policy collects the directives of the entries so far.
  induction entries generalizing policy with
  | nil => rfl
  | cons entry entries ih =>
      rw [addEntries, DirectiveConfig.toDirective_eq, List.findSome?_cons]
      cases hrefusal : entry.refusal? with
      | some error => rfl
      | none =>
          rw [List.map_cons, Policy.addAll_cons, ← ih]

/-- The policy of the described directives, before it is reduced. -/
def assembled
    (config : PolicyConfig) :
    Policy :=
  (Policy.empty config.level).addAll (config.directives.map (·.described))

theorem toPolicy_eq
    (config : PolicyConfig) :
    config.toPolicy =
      match config.directives.findSome? (·.refusal?) with
      | some error => .error error
      | none => .ok (if config.reduce then config.assembled.reduce else config.assembled) := by
  rw [toPolicy, addEntries_eq]
  cases config.directives.findSome? (·.refusal?) <;> rfl

section Accepted

variable (config : PolicyConfig)
variable (haccepted : config.directives.findSome? (·.refusal?) = none)

include haccepted

theorem isBlank_name_of_mem_described :
    ∀ d ∈ config.directives.map (·.described), Text.isBlank d.name = false := by
  rw [List.forall_mem_map]
  intro entry hentry
  have hnone := List.findSome?_eq_none_iff.mp haccepted entry hentry
  rw [DirectiveConfig.refusal?_eq_none_iff, not_or] at hnone
  rw [DirectiveConfig.name_described]
  exact entry.isBlank_key hnone.1

theorem names_assembled :
    config.assembled.names = Directive.firstOccurrences (config.directives.map (·.key)) := by
  have hnamed := isBlank_name_of_mem_described config haccepted
  rw [assembled, Policy.names_addAll config.level _ hnamed, List.map_map]
  simp only [Function.comp_def, DirectiveConfig.name_described]

theorem get?_assembled
    (key : String) :
    config.assembled.get? key =
      (config.directives.reverse.find? (·.key == key)).map (·.described) := by
  have hnamed := isBlank_name_of_mem_described config haccepted
  rw [assembled, Policy.get?_addAll config.level _ hnamed, ← List.map_reverse, List.find?_map]
  simp only [Function.comp_def, DirectiveConfig.name_described]

end Accepted

/--
A configuration fails exactly if one of its entries has a blank name, or gives
nonces or hashes under a key that stores none; the first such entry decides the
error.  Otherwise the policy, before it is reduced on demand, has the keys of the
entries as names, each where it first occurs, and under each key the directive
that the last entry of the key describes.
-/
theorem toPolicy_assembles_last_entries
    (config : PolicyConfig) :
    ((∃ error, config.toPolicy = .error error) ↔
      ∃ entry ∈ config.directives, Text.trim entry.name = "" ∨ entry.MisplacesSources) ∧
    (∀ error,
      config.toPolicy = .error error ↔
        config.directives.findSome? (·.refusal?) = some error) ∧
    (config.directives.findSome? (·.refusal?) = none →
      ∃ policy : Policy,
        config.toPolicy = .ok (if config.reduce then policy.reduce else policy) ∧
        policy.level = config.level ∧
        policy.report = {} ∧
        Directive.KeepsFirstOccurrences (config.directives.map (·.key)) policy.names ∧
        ∀ key,
          policy.get? key =
            (config.directives.reverse.find? (·.key == key)).map (·.described)) := by
  have hresult := toPolicy_eq config
  have hrefused :
      (∃ error, config.directives.findSome? (·.refusal?) = some error) ↔
        ∃ entry ∈ config.directives, Text.trim entry.name = "" ∨ entry.MisplacesSources := by
    rw [← Option.ne_none_iff_exists', ne_eq, List.findSome?_eq_none_iff]
    simp only [DirectiveConfig.refusal?_eq_none_iff, not_forall, not_not, exists_prop]
  cases hrefusal : config.directives.findSome? (·.refusal?) with
  | some error =>
      rw [hrefusal] at hresult hrefused
      refine ⟨?_, fun other => ?_, fun h => nomatch h⟩
      · rw [← hrefused, hresult]
        exact ⟨fun _ => ⟨error, rfl⟩, fun _ => ⟨error, rfl⟩⟩
      · rw [hresult, Except.error.injEq, Option.some.injEq]
  | none =>
      rw [hrefusal] at hresult hrefused
      refine ⟨?_, fun other => ?_, fun _ => ⟨config.assembled, hresult, ?_, ?_, ?_, ?_⟩⟩
      · rw [← hrefused, hresult]
        exact ⟨fun ⟨_, h⟩ => (nomatch h), fun ⟨_, h⟩ => (nomatch h)⟩
      · rw [hresult]
        exact ⟨fun h => (nomatch h), fun h => (nomatch h)⟩
      · exact (Policy.level_report_addAll _ _).1
      · exact (Policy.level_report_addAll _ _).2
      · rw [names_assembled config hrefusal]
        exact Directive.keepsFirstOccurrences_firstOccurrences _
      · exact get?_assembled config hrefusal

/--
Two entries of one key, of which only the later one counts, around an entry
under a name that keeps its case.
-/
theorem toPolicy_assembles_last_entries_of_shared_key :
    let config : PolicyConfig :=
      { level := .csp1
        directives :=
          [{ name := " Script-SRC ", values := ["'none'"] },
           { name := "X-New", experimental := [" a ", " "] },
           { name := "script-src"
             values := ["'self'"]
             nonces := ["cmFuZG9t", " "]
             hashes := [⟨"sha256", " YWJj "⟩, ⟨" ", "YWJj"⟩] }] }
    ∃ policy : Policy,
      config.toPolicy = .ok policy ∧ policy.level = .csp1 ∧ policy.names.Nodup ∧
        policy.get? "script-src" =
          some
            { name := "script-src"
              kind := .inline ["'nonce-cmFuZG9t'"] ["'sha256-YWJj'"]
              values := ["'self'"] } ∧
        policy.get? "X-New" =
          some { name := "X-New", kind := .keyword .experimental, experimental := ["a"] } ∧
        policy.get? "Script-SRC" = none := by
  intro config
  obtain ⟨policy, hresult, hlevel, -, hnames, hfound⟩ :=
    (toPolicy_assembles_last_entries config).2.2 (by decide)
  refine ⟨policy, hresult, hlevel, hnames.nodup, ?_, ?_, ?_⟩
  · rw [hfound]
    decide
  · rw [hfound]
    decide
  · rw [hfound]
    decide

end PolicyConfig
end ContentSecurity
