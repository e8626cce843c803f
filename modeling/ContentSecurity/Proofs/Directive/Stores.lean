import ContentSecurity.Proofs.Directive.Accounting

/-!
# Stores that do not depend on each other

A directive is edited and validated in any order.  Every edit works on one of
the four stores, and a validation works on none, so the calls on different
stores can be interleaved at will: what a store holds in the end is decided by
the calls on this store, in their order.

The step lemmas are `AgreeOn.edit` and `AgreeOn.edit_of_store_ne`, the lemma
about runs is `AgreeOn.callAll_filter`, and the main statement is
`stores_are_independent`.
-/

namespace ContentSecurity

/-- A text with blanks put around it. -/
def Text.Pads
    (text padded : String) : Prop :=
  ∃ before after,
    isBlank before = true ∧ isBlank after = true ∧ padded = before ++ text ++ after

theorem Text.trim_of_pads
    (text padded : String)
    (hpads : Pads text padded) :
    trim padded = trim text := by
  obtain ⟨before, after, hbefore, hafter, rfl⟩ := hpads
  exact trim_append before text after hbefore hafter

namespace Directive

namespace Edit

/-- The same edit with blanks around its texts. -/
inductive Pads : Edit → Edit → Prop where
  | value
      {text padded : String}
      (hpads : Text.Pads text padded) :
      Pads (.value text) (.value padded)
  | experimental
      {text padded : String}
      (hpads : Text.Pads text padded) :
      Pads (.experimental text) (.experimental padded)
  | nonce
      {text padded : String}
      (hpads : Text.Pads text padded) :
      Pads (.nonce text) (.nonce padded)
  | hash
      {algorithm digest paddedAlgorithm paddedDigest : String}
      (halgorithm : Text.Pads algorithm paddedAlgorithm)
      (hdigest : Text.Pads digest paddedDigest) :
      Pads (.hash algorithm digest) (.hash paddedAlgorithm paddedDigest)
  | refl
      (e : Edit) :
      Pads e e

end Edit

/-- A call of an operation of a directive. -/
inductive Call where
  | edit
      (e : Edit)
  /-- Adds the findings to the report at hand. -/
  | validate
deriving DecidableEq, Repr

namespace Call

/-- The store that a call works on; a validation works on none. -/
def store? : Call → Option Store
  | edit e => some e.store
  | validate => none

/-- The same call with blanks around its texts. -/
inductive Pads : Call → Call → Prop where
  | edit
      {e padded : Edit}
      (hpads : e.Pads padded) :
      Pads (.edit e) (.edit padded)
  | validate : Pads .validate .validate

end Call

/-- What a call makes of a directive and of the report at hand. -/
def call
    (state : Directive × Report) :
    Call → Directive × Report
  | .edit e => (state.1.edit e, state.2)
  | .validate => (state.1, state.1.validate state.2)

/-- Carries out calls, one after the other. -/
def callAll
    (state : Directive × Report)
    (calls : List Call) :
    Directive × Report :=
  calls.foldl call state

/-- A store that the kind does not have is empty. -/
theorem stored_of_not_hasStore
    (d : Directive)
    (store : Store)
    (hnone : d.hasStore store = false) :
    d.stored store = [] := by
  cases store with
  | values | experimental => cases hnone
  | hashes => exact (d.hashes_and_nonces_eq_nil hnone).1
  | nonces => exact (d.hashes_and_nonces_eq_nil hnone).2

/-- Two directives of one kind that hold the same tokens in a store. -/
structure AgreeOn
    (store : Store)
    (d other : Directive) : Prop where
  kind : d.kind.cleared = other.kind.cleared
  stored : d.stored store = other.stored store

/-- Which stores a directive has is a matter of its kind, and not of their tokens. -/
theorem isInlineCapable_of_cleared_eq
    (d other : Directive)
    (hkind : d.kind.cleared = other.kind.cleared) :
    d.isInlineCapable = other.isInlineCapable := by
  cases hd : d.kind <;> cases hother : other.kind <;>
    simp [isInlineCapable, hd, hother, DirectiveKind.cleared] at hkind ⊢

section Agreement

variable {store : Store} {d other : Directive}

theorem AgreeOn.hasStore_eq
    (hagree : AgreeOn store d other) :
    d.hasStore store = other.hasStore store := by
  cases store with
  | values | experimental => rfl
  | hashes | nonces => exact isInlineCapable_of_cleared_eq d other hagree.kind

/-- An edit of both directives keeps the agreement. -/
theorem AgreeOn.edit
    (hagree : AgreeOn store d other)
    (e : Edit) :
    AgreeOn store (d.edit e) (other.edit e) := by
  constructor
  · have hd := cleared_kind_editAll d [e]
    have hother := cleared_kind_editAll other [e]
    exact hd.trans (hagree.kind.trans hother.symm)
  · rw [stored_edit, stored_edit, hagree.hasStore_eq, hagree.stored]

/-- An edit of another store keeps the agreement, if only one directive is edited. -/
theorem AgreeOn.edit_of_store_ne
    (hagree : AgreeOn store d other)
    (e : Edit)
    (hstore : e.store ≠ store) :
    AgreeOn store (d.edit e) other := by
  constructor
  · exact (cleared_kind_editAll d [e]).trans hagree.kind
  · rw [stored_edit, e.onStore_of_store_ne store hstore, ← hagree.stored]
    split
    · rfl
    · rename_i hnone
      exact (d.stored_of_not_hasStore store (by simpa using hnone)).symm

end Agreement

/-- For one store, the calls on the other stores can be left out of a run. -/
theorem AgreeOn.callAll_filter
    {store : Store}
    (state other : Directive × Report)
    (calls : List Call)
    (hagree : AgreeOn store state.1 other.1) :
    AgreeOn store (callAll state calls).1
      (callAll other (calls.filter (·.store? = some store))).1 := by
  induction calls generalizing state other with
  | nil => exact hagree
  | cons c calls ih =>
      by_cases hc : c.store? = some store
      · rw [List.filter_cons_of_pos (by simpa using hc)]
        refine ih (call state c) (call other c) ?_
        cases c with
        | edit e => exact hagree.edit e
        | validate => exact hagree
      · rw [List.filter_cons_of_neg (by simpa using hc)]
        refine ih (call state c) other ?_
        cases c with
        | edit e => exact hagree.edit_of_store_ne e fun h => hc (congrArg some h)
        | validate => exact hagree

/-- Two runs with the same calls on a store leave the same tokens in it. -/
theorem AgreeOn.of_filter_eq
    (d : Directive)
    (store : Store)
    (calls other : List Call)
    (report otherReport : Report)
    (hsame :
      calls.filter (·.store? = some store) = other.filter (·.store? = some store)) :
    AgreeOn store (callAll (d, report) calls).1 (callAll (d, otherReport) other).1 := by
  have hself : AgreeOn store d d := ⟨rfl, rfl⟩
  have hcalls := AgreeOn.callAll_filter (d, report) (d, report) calls hself
  have hother := AgreeOn.callAll_filter (d, otherReport) (d, report) other hself
  rw [← hsame] at hother
  exact ⟨hcalls.kind.trans hother.kind.symm, hcalls.stored.trans hother.stored.symm⟩

/-- The name, the kind and what is stored make up a directive. -/
theorem eq_of_agreeOn
    (d other : Directive)
    (hname : d.name = other.name)
    (hagree : ∀ store, AgreeOn store d other) :
    d = other := by
  obtain ⟨name, kind, values, experimental⟩ := d
  obtain ⟨otherName, otherKind, otherValues, otherExperimental⟩ := other
  have hcleared := (hagree .values).kind
  have hvalues := (hagree .values).stored
  have hexperimental := (hagree .experimental).stored
  have hhashes := (hagree .hashes).stored
  have hnonces := (hagree .nonces).stored
  cases kind <;> cases otherKind <;>
    simp_all [stored, hashes, nonces, DirectiveKind.cleared]

/-- The edits of a run make the directive; the validations only read it. -/
theorem callAll_fst
    (state : Directive × Report)
    (calls : List Call) :
    ∃ edits, (callAll state calls).1 = state.1.editAll edits := by
  induction calls generalizing state with
  | nil => exact ⟨[], rfl⟩
  | cons c calls ih =>
      obtain ⟨edits, hedits⟩ := ih (call state c)
      cases c with
      | edit e => exact ⟨e :: edits, hedits⟩
      | validate => exact ⟨edits, hedits⟩

theorem edit_of_pads
    (d : Directive)
    (e padded : Edit)
    (hpads : e.Pads padded) :
    d.edit padded = d.edit e := by
  cases hpads with
  | value hpads => simp only [edit, addValue, appendTrimmed, Text.trim_of_pads _ _ hpads]
  | experimental hpads =>
      simp only [edit, addExperimental, appendTrimmed, Text.trim_of_pads _ _ hpads]
  | nonce hpads => simp only [edit, addNonce, Text.trim_of_pads _ _ hpads]
  | hash halgorithm hdigest =>
      simp only [edit, addHash, Text.trim_of_pads _ _ halgorithm, Text.trim_of_pads _ _ hdigest]
  | refl => rfl

theorem call_of_pads
    (state : Directive × Report)
    (c padded : Call)
    (hpads : c.Pads padded) :
    call state padded = call state c := by
  cases hpads with
  | edit hpads => rw [call, call, edit_of_pads state.1 _ _ hpads]
  | validate => rfl

/-- Blanks around the texts of a run change neither the directive nor the report. -/
theorem callAll_of_pads
    (state : Directive × Report)
    (calls padded : List Call)
    (hpads : List.Forall₂ Call.Pads calls padded) :
    callAll state padded = callAll state calls := by
  induction hpads generalizing state with
  | nil => rfl
  | cons hfirst _ ih =>
      rw [callAll, List.foldl_cons, call_of_pads state _ _ hfirst]
      exact ih (call state _)

/-- A kind without nonces and hashes takes none, and has none to drop. -/
theorem call_of_not_isInlineCapable
    (state : Directive × Report)
    (hinline : state.1.isInlineCapable = false)
    (c : Call)
    (hc : c.store? = some .nonces ∨ c.store? = some .hashes) :
    (call state c).1 = state.1 := by
  cases c with
  | validate => rfl
  | edit e =>
      have hstore : e.store ≠ .values ∧ e.store ≠ .experimental := by
        rcases hc with hc | hc
        · rw [Option.some.inj hc]
          decide
        · rw [Option.some.inj hc]
          decide
      have hvalues : e.onValues state.1.values = state.1.values :=
        e.onStore_of_store_ne .values hstore.1 _
      have hexperimental : e.onExperimental state.1.experimental = state.1.experimental :=
        e.onStore_of_store_ne .experimental hstore.2 _
      have hkind : e.onKind state.1.kind = state.1.kind := by
        cases hkind : state.1.kind with
        | inline nonces hashes => simp [isInlineCapable, hkind] at hinline
        | _ => rfl
      rw [call, edit_eq, hkind, hvalues, hexperimental]

/--
Calls on a directive in any order leave in each of its stores what the calls on
this store leave there by themselves; so two runs with the same calls on every
store make the same directive.  The values of a directive that can be made are
trimmed and not empty.  Blanks around the texts of a run change nothing, and a
kind without nonces and hashes is not changed by calls on them.
-/
theorem stores_are_independent
    (d : Directive)
    (report : Report)
    (calls : List Call) :
    let final := (callAll (d, report) calls).1
    (∀ store other otherReport,
      calls.filter (·.store? = some store) = other.filter (·.store? = some store) →
      final.stored store = (callAll (d, otherReport) other).1.stored store) ∧
    (∀ other otherReport,
      (∀ store,
        calls.filter (·.store? = some store) = other.filter (·.store? = some store)) →
      final = (callAll (d, otherReport) other).1 ∧
        final.build = (callAll (d, otherReport) other).1.build) ∧
    (d.IsReachable → ∀ value ∈ final.allValues, value ≠ "" ∧ Text.trim value = value) ∧
    (∀ padded, List.Forall₂ Call.Pads calls padded →
      callAll (d, report) padded = callAll (d, report) calls) ∧
    (d.isInlineCapable = false →
      ∀ c : Call, c.store? = some .nonces ∨ c.store? = some .hashes →
        (callAll (d, report) (calls ++ [c])).1 = final) := by
  intro final
  obtain ⟨edits, hedits⟩ := callAll_fst (d, report) calls
  refine ⟨fun store other otherReport hsame => ?_, fun other otherReport hsame => ?_,
    fun hreachable value hvalue => ?_, callAll_of_pads (d, report) calls,
    fun hinline c hc => ?_⟩
  · exact (AgreeOn.of_filter_eq d store calls other report otherReport hsame).stored
  · obtain ⟨otherEdits, hother⟩ := callAll_fst (d, otherReport) other
    have hname : final.name = (callAll (d, otherReport) other).1.name := by
      rw [hother, name_editAll, ← name_editAll d edits, ← hedits]
    have heq : final = (callAll (d, otherReport) other).1 :=
      eq_of_agreeOn _ _ hname fun store =>
        AgreeOn.of_filter_eq d store calls other report otherReport (hsame store)
    exact ⟨heq, congrArg build heq⟩
  · have hclean : final.HoldsCleanTokens fun _ => True := by
      rw [show final = d.editAll edits from hedits]
      exact (hreachable.editAll edits).holdsCleanTokens
    rcases List.mem_append.mp hvalue with hplain | hexperimental
    · exact hclean.values value hplain
    · exact hclean.experimental value hexperimental
  · have hfinal : final.isInlineCapable = false := by
      rw [← hinline]
      refine isInlineCapable_of_cleared_eq final d ?_
      rw [show final = d.editAll edits from hedits, cleared_kind_editAll]
    rw [callAll, List.foldl_append]
    exact call_of_not_isInlineCapable _ hfinal c hc

/-- The same calls on every store, mixed in two ways. -/
theorem stores_are_independent_of_mixed_calls :
    let d := registered .scriptSrc
    let calls : List Call :=
      [.edit (.value " a "), .edit (.nonce "n"), .validate, .edit (.value "b"),
       .edit .resetNonces, .edit (.experimental "a"), .edit (.value "a"),
       .edit .removeDuplicates, .edit (.hash "sha256" "QUJD"), .edit (.nonce "m")]
    let other : List Call :=
      [.edit (.hash "sha256" "QUJD"), .edit (.experimental "a"), .edit (.nonce "n"),
       .edit .resetNonces, .edit (.value " a "), .edit (.value "b"), .edit (.nonce "m"),
       .edit (.value "a"), .edit .removeDuplicates, .validate]
    (callAll (d, {}) calls).1 = (callAll (d, {}) other).1 ∧
      (callAll (d, {}) other).1.build = "script-src a b a 'nonce-m' 'sha256-QUJD'" := by
  intro d calls other
  obtain ⟨-, hsame, -⟩ := stores_are_independent d {} calls
  have hstores :
      ∀ store, calls.filter (·.store? = some store) = other.filter (·.store? = some store) := by
    intro store
    cases store <;> decide
  obtain ⟨heq, -⟩ := hsame other {} hstores
  exact ⟨heq, by decide⟩

end Directive
end ContentSecurity
