import ContentSecurity.Directive.Basic

/-!
# Edits of a directive

A directive is filled and changed by its own operations only.  This module lists
them, says what each one does to each store, and derives which tokens the stores
can hold after any number of edits.

The main statements are `edit_eq`, by which an edit works on every store for
itself and leaves the name and the kind alone, and `holdsCleanTokens_editAll`,
by which every stored token is made of trimmed texts.  What a single edit can put
into a store is said once for all stores, by `mem_onStore`.
-/

namespace ContentSecurity

/-- A kind without its nonces and hashes. -/
def DirectiveKind.cleared : DirectiveKind → DirectiveKind
  | .inline _ _ => .inline [] []
  | kind => kind

namespace Directive

/-- The stores of a directive, in the order of validation. -/
inductive Store where
  | values
  | experimental
  | hashes
  | nonces
deriving DecidableEq, Repr

/-- The tokens of a store. -/
def stored
    (d : Directive) :
    Store → List String
  | .values => d.values
  | .experimental => d.experimental
  | .hashes => d.hashes
  | .nonces => d.nonces

/-- Whether the kind has a store. -/
def hasStore
    (d : Directive) :
    Store → Bool
  | .values | .experimental => true
  | .hashes | .nonces => d.isInlineCapable

/-- An operation that changes a directive. -/
inductive Edit where
  | value
      (text : String)
  | experimental
      (text : String)
  | nonce
      (text : String)
  | hash
      (algorithm digest : String)
  | hashOf
      (algorithm : Digest.Algorithm)
      (content : List UInt8)
  | resetNonces
  | resetHashes
  | removeDuplicates
deriving DecidableEq, Repr

/-- Carries out an edit. -/
def edit
    (d : Directive) :
    Edit → Directive
  | .value text => d.addValue text
  | .experimental text => d.addExperimental text
  | .nonce text => d.addNonce text
  | .hash algorithm digest => d.addHash algorithm digest
  | .hashOf algorithm content => d.addHashOf algorithm content
  | .resetNonces => d.resetNonces
  | .resetHashes => d.resetHashes
  | .removeDuplicates => d.removeDuplicates

/-- Carries out edits, one after the other. -/
def editAll
    (d : Directive)
    (edits : List Edit) :
    Directive :=
  edits.foldl edit d

@[simp] theorem editAll_nil
    (d : Directive) :
    d.editAll [] = d :=
  rfl

@[simp] theorem editAll_cons
    (d : Directive)
    (e : Edit)
    (edits : List Edit) :
    d.editAll (e :: edits) = (d.edit e).editAll edits :=
  rfl

namespace Edit

/-- What an edit makes of the plain values. -/
def onValues : Edit → List String → List String
  | value text, values => appendTrimmed values text
  | removeDuplicates, values => firstOccurrences values
  | _, values => values

/-- What an edit makes of the experimental values. -/
def onExperimental : Edit → List String → List String
  | experimental text, values => appendTrimmed values text
  | _, values => values

/-- What an edit makes of the nonces. -/
def onNonces : Edit → List String → List String
  | nonce text, nonces =>
      if Text.trim text = "" then nonces else nonces ++ [nonceToken (Text.trim text)]
  | resetNonces, _ => []
  | _, nonces => nonces

/-- Appends the token of a hash unless one of its parts is blank. -/
def appendHash
    (hashes : List String)
    (algorithm digest : String) :
    List String :=
  if Text.trim algorithm = "" || Text.trim digest = "" then
    hashes
  else
    hashes ++ [hashToken (Text.trim algorithm) (Text.trim digest)]

/-- What an edit makes of the hashes. -/
def onHashes : Edit → List String → List String
  | hash algorithm digest, hashes => appendHash hashes algorithm digest
  | hashOf algorithm content, hashes =>
      appendHash hashes algorithm.name (algorithm.digestText content)
  | resetHashes, _ => []
  | _, hashes => hashes

/-- The store that an edit works on. -/
def store : Edit → Store
  | value _ | removeDuplicates => .values
  | experimental _ => .experimental
  | nonce _ | resetNonces => .nonces
  | hash _ _ | hashOf _ _ | resetHashes => .hashes

/-- What an edit makes of the tokens of a store. -/
def onStore
    (e : Edit) :
    Store → List String → List String
  | .values => e.onValues
  | .experimental => e.onExperimental
  | .hashes => e.onHashes
  | .nonces => e.onNonces

/-- An edit leaves the other stores alone. -/
theorem onStore_of_store_ne
    (e : Edit)
    (store : Store)
    (hstore : e.store ≠ store)
    (tokens : List String) :
    e.onStore store tokens = tokens := by
  cases store with
  | values =>
      cases e with
      | value | removeDuplicates => exact absurd rfl hstore
      | _ => rfl
  | experimental =>
      cases e with
      | experimental => exact absurd rfl hstore
      | _ => rfl
  | hashes =>
      cases e with
      | hash | hashOf | resetHashes => exact absurd rfl hstore
      | _ => rfl
  | nonces =>
      cases e with
      | nonce | resetNonces => exact absurd rfl hstore
      | _ => rfl

/-- What an edit makes of a kind: only a kind with nonces and hashes can change. -/
def onKind
    (e : Edit) :
    DirectiveKind → DirectiveKind
  | .inline nonces hashes => .inline (e.onNonces nonces) (e.onHashes hashes)
  | kind => kind

end Edit

/-- An edit works on every store for itself. -/
theorem edit_eq
    (d : Directive)
    (e : Edit) :
    d.edit e =
      { name := d.name
        kind := e.onKind d.kind
        values := e.onValues d.values
        experimental := e.onExperimental d.experimental } := by
  obtain ⟨name, kind, values, experimental⟩ := d
  cases e with
  | value text => cases kind <;> rfl
  | experimental text => cases kind <;> rfl
  | nonce text =>
      by_cases htext : Text.trim text = "" <;> cases kind <;>
        simp [edit, addNonce, Edit.onKind, Edit.onNonces, Edit.onHashes, Edit.onValues,
          Edit.onExperimental, htext]
  | hash algorithm digest =>
      by_cases hparts : Text.trim algorithm = "" ∨ Text.trim digest = "" <;> cases kind <;>
        simp [edit, addHash, Edit.onKind, Edit.onNonces, Edit.onHashes, Edit.appendHash,
          Edit.onValues, Edit.onExperimental, hparts]
  | hashOf algorithm content =>
      by_cases hparts :
          Text.trim algorithm.name = "" ∨ Text.trim (algorithm.digestText content) = "" <;>
        cases kind <;>
        simp [edit, addHashOf, addHash, Edit.onKind, Edit.onNonces, Edit.onHashes,
          Edit.appendHash, Edit.onValues, Edit.onExperimental, hparts]
  | resetNonces => cases kind <;> rfl
  | resetHashes => cases kind <;> rfl
  | removeDuplicates => cases kind <;> rfl

/-- An edit changes a store by itself, if the kind has the store. -/
theorem stored_edit
    (d : Directive)
    (e : Edit)
    (store : Store) :
    (d.edit e).stored store =
      if d.hasStore store then e.onStore store (d.stored store) else [] := by
  rw [edit_eq]
  cases store with
  | values | experimental => rfl
  | hashes | nonces =>
      cases hkind : d.kind <;>
        simp [stored, hasStore, isInlineCapable, hashes, nonces, hkind, Edit.onKind, Edit.onStore]

@[simp] theorem name_edit
    (d : Directive)
    (e : Edit) :
    (d.edit e).name = d.name := by
  rw [edit_eq]

@[simp] theorem name_editAll
    (d : Directive)
    (edits : List Edit) :
    (d.editAll edits).name = d.name := by
  induction edits generalizing d with
  | nil => rfl
  | cons e edits ih => rw [editAll_cons, ih, name_edit]

/-- A text that trimming keeps, and that is not empty. -/
def IsTrimmed
    (text : String) : Prop :=
  text ≠ "" ∧ Text.trim text = text

theorem isTrimmed_trim
    (text : String)
    (htext : Text.trim text ≠ "") :
    IsTrimmed (Text.trim text) :=
  ⟨htext, Text.trim_trim text⟩

/-- What is in a list to which a token was appended, unless there was a reason not to. -/
theorem mem_ite_concat
    {skip : Prop}
    [Decidable skip]
    {tokens : List String}
    {added token : String}
    (htoken : token ∈ if skip then tokens else tokens ++ [added]) :
    token ∈ tokens ∨ ¬ skip ∧ token = added := by
  split at htoken
  · exact Or.inl htoken
  · rename_i hadded
    rcases List.mem_append.mp htoken with hold | hnew
    · exact Or.inl hold
    · exact Or.inr ⟨hadded, List.mem_singleton.mp hnew⟩

/-- Every value that is appended is trimmed. -/
theorem mem_appendTrimmed
    (values : List String)
    (text value : String)
    (hvalue : value ∈ appendTrimmed values text) :
    value ∈ values ∨ IsTrimmed value := by
  rcases mem_ite_concat hvalue with hold | ⟨htext, rfl⟩
  · exact Or.inl hold
  · exact Or.inr (isTrimmed_trim text htext)

theorem mem_firstOccurrences
    (values : List String)
    (value : String) :
    value ∈ firstOccurrences values ↔ value ∈ values := by
  induction values with
  | nil => rfl
  | cons first values ih =>
      by_cases hvalue : value = first <;> simp [firstOccurrences, ih, hvalue]

/--
The shape of the stored tokens: values are trimmed, and nonces and hashes are
wrapped around trimmed texts.  The algorithm of a hash passes a test.
-/
structure HoldsCleanTokens
    (admits : String → Prop)
    (d : Directive) : Prop where
  values : ∀ value ∈ d.values, IsTrimmed value
  experimental : ∀ value ∈ d.experimental, IsTrimmed value
  nonces : ∀ token ∈ d.nonces, ∃ nonce, IsTrimmed nonce ∧ token = nonceToken nonce
  hashes :
    ∀ token ∈ d.hashes, ∃ algorithm digest,
      IsTrimmed algorithm ∧ IsTrimmed digest ∧ admits algorithm ∧
        token = hashToken algorithm digest

/-- An edit whose hash algorithm, if it has one, passes a test. -/
def Edit.Admitted
    (admits : String → Prop) :
    Edit → Prop
  | .hash algorithm _ => admits (Text.trim algorithm)
  | .hashOf algorithm _ => admits (Text.trim algorithm.name)
  | _ => True

/-- A test that every algorithm passes admits every edit. -/
theorem Edit.admitted_true
    (e : Edit) :
    e.Admitted fun _ => True := by
  cases e <;> trivial

section Shape

variable (admits : String → Prop)

/-- A token of a store that is made of trimmed texts; the algorithm of a hash passes the test. -/
def IsClean : Store → String → Prop
  | .values, token => IsTrimmed token
  | .experimental, token => IsTrimmed token
  | .hashes, token =>
      ∃ algorithm digest,
        IsTrimmed algorithm ∧ IsTrimmed digest ∧ admits algorithm ∧
          token = hashToken algorithm digest
  | .nonces, token => ∃ nonce, IsTrimmed nonce ∧ token = nonceToken nonce

/-- The shape of the stored tokens, said for all stores at once. -/
theorem holdsCleanTokens_iff
    (d : Directive) :
    d.HoldsCleanTokens admits ↔ ∀ store, ∀ token ∈ d.stored store, IsClean admits store token := by
  constructor
  · intro hclean store
    cases store with
    | values => exact hclean.values
    | experimental => exact hclean.experimental
    | hashes => exact hclean.hashes
    | nonces => exact hclean.nonces
  · intro hclean
    exact
      { values := hclean .values
        experimental := hclean .experimental
        nonces := hclean .nonces
        hashes := hclean .hashes }

/-- A hash that is appended is wrapped around trimmed texts. -/
theorem mem_appendHash
    (hashes : List String)
    (algorithm digest token : String)
    (hadmitted : admits (Text.trim algorithm))
    (htoken : token ∈ Edit.appendHash hashes algorithm digest) :
    token ∈ hashes ∨ IsClean admits .hashes token := by
  rcases mem_ite_concat htoken with hold | ⟨hparts, rfl⟩
  · exact Or.inl hold
  · simp only [Bool.or_eq_true, decide_eq_true_eq, not_or] at hparts
    exact Or.inr
      ⟨_, _, isTrimmed_trim algorithm hparts.1, isTrimmed_trim digest hparts.2, hadmitted, rfl⟩

/-- A token that an edit leaves in a store was there before, or it is clean. -/
theorem mem_onStore
    (e : Edit)
    (hadmitted : e.Admitted admits)
    (store : Store)
    (tokens : List String)
    (token : String)
    (htoken : token ∈ e.onStore store tokens) :
    token ∈ tokens ∨ IsClean admits store token := by
  by_cases hstore : e.store = store
  · -- The edit names the store, so there is one case for each edit and not for each pair.
    subst hstore
    cases e with
    | value text | experimental text => exact mem_appendTrimmed tokens text token htoken
    | nonce text =>
        rcases mem_ite_concat htoken with hold | ⟨htext, rfl⟩
        · exact Or.inl hold
        · exact Or.inr ⟨_, isTrimmed_trim text htext, rfl⟩
    | hash algorithm digest =>
        exact mem_appendHash admits tokens algorithm digest token hadmitted htoken
    | hashOf algorithm content =>
        exact mem_appendHash admits tokens algorithm.name _ token hadmitted htoken
    | resetNonces | resetHashes => exact absurd htoken List.not_mem_nil
    | removeDuplicates => exact Or.inl ((mem_firstOccurrences tokens token).mp htoken)
  · rw [e.onStore_of_store_ne store hstore] at htoken
    exact Or.inl htoken

theorem mem_stored_edit
    (d : Directive)
    (e : Edit)
    (hadmitted : e.Admitted admits)
    (store : Store)
    (token : String)
    (htoken : token ∈ (d.edit e).stored store) :
    token ∈ d.stored store ∨ IsClean admits store token := by
  rw [stored_edit] at htoken
  split at htoken
  · exact mem_onStore admits e hadmitted store _ token htoken
  · exact absurd htoken List.not_mem_nil

/-- A token that edits leave in a store was there before, or it is clean. -/
theorem mem_stored_editAll
    (d : Directive)
    (edits : List Edit)
    (hadmitted : ∀ e ∈ edits, e.Admitted admits)
    (store : Store)
    (token : String)
    (htoken : token ∈ (d.editAll edits).stored store) :
    token ∈ d.stored store ∨ IsClean admits store token := by
  induction edits generalizing d with
  | nil => exact Or.inl htoken
  | cons e edits ih =>
      have hfirst := hadmitted e List.mem_cons_self
      have hothers := fun other hother => hadmitted other (List.mem_cons_of_mem _ hother)
      rcases ih (d.edit e) hothers htoken with hedited | hclean
      · exact mem_stored_edit admits d e hfirst store token hedited
      · exact Or.inr hclean

/-- Any number of edits keep the shape of the stored tokens. -/
theorem holdsCleanTokens_editAll
    (d : Directive)
    (edits : List Edit)
    (hclean : d.HoldsCleanTokens admits)
    (hadmitted : ∀ e ∈ edits, e.Admitted admits) :
    (d.editAll edits).HoldsCleanTokens admits := by
  rw [holdsCleanTokens_iff] at hclean ⊢
  intro store token htoken
  exact (mem_stored_editAll admits d edits hadmitted store token htoken).elim
    (hclean store token) id

/-- A directive without tokens has the shape. -/
theorem holdsCleanTokens_fresh
    (name : String)
    (kind : DirectiveKind) :
    ({ name, kind := kind.cleared } : Directive).HoldsCleanTokens admits := by
  constructor <;> cases kind <;> simp [nonces, hashes, DirectiveKind.cleared]

end Shape

/-- Edits leave the kind as it is, its nonces and hashes aside. -/
theorem cleared_kind_editAll
    (d : Directive)
    (edits : List Edit) :
    (d.editAll edits).kind.cleared = d.kind.cleared := by
  induction edits generalizing d with
  | nil => rfl
  | cons e edits ih =>
      rw [editAll_cons, ih, edit_eq]
      cases d.kind <;> rfl

/--
A directive that can be made: it begins without tokens, or with the nonces and
hashes of another one that was made, and is changed by edits.
-/
inductive IsReachable : Directive → Prop where
  | fresh
      (name : String)
      (kind : DirectiveKind) :
      IsReachable { name, kind := kind.cleared }
  /-- Takes over the kind of a directive, together with what is stored in it. -/
  | ofKind
      (name : String)
      (d : Directive)
      (hd : d.IsReachable) :
      IsReachable { name, kind := d.kind }
  | edit
      (d : Directive)
      (e : Edit)
      (hd : d.IsReachable) :
      IsReachable (d.edit e)

theorem IsReachable.editAll
    {d : Directive}
    (hd : d.IsReachable)
    (edits : List Edit) :
    (d.editAll edits).IsReachable := by
  induction edits generalizing d with
  | nil => exact hd
  | cons e edits ih => exact ih (IsReachable.edit d e hd)

/-- Whatever algorithms its hashes were given, such a directive holds clean tokens only. -/
theorem IsReachable.holdsCleanTokens
    {d : Directive}
    (hd : d.IsReachable) :
    d.HoldsCleanTokens fun _ => True := by
  induction hd with
  | fresh name kind => exact holdsCleanTokens_fresh _ name kind
  | ofKind name d hd ih =>
      exact
        { values := fun _ hvalue => absurd hvalue List.not_mem_nil
          experimental := fun _ hvalue => absurd hvalue List.not_mem_nil
          nonces := ih.nonces
          hashes := ih.hashes }
  | edit d e hd ih =>
      exact holdsCleanTokens_editAll _ d [e] ih (List.forall_mem_singleton.mpr e.admitted_true)

end Directive
end ContentSecurity
