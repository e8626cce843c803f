import ContentSecurity.Proofs.Config.Assembly
import ContentSecurity.Proofs.Policy.OrderedMap
import ContentSecurity.Proofs.Policy.WrittenForm
import Mathlib.Data.List.Basic

/-!
# The ends of a written policy

A written policy begins with the name of a directive and ends with a token of
one.  The tokens are trimmed or quoted when they are stored, so the policy never
ends in a blank, let alone in a separator.  A name outside the registered ones
is stored as it is given: a policy that is composed by hand begins with a space
as soon as the first name that is written does.

The main statement is `composed_policy_begins_with_space_iff`.  By
`trim_build_of_toPolicy` a configuration, which trims its names, leaves no blank
at either end.
-/

namespace ContentSecurity
namespace Text

/-- A joined text begins as its first piece does. -/
theorem head?_intercalate
    (separator piece : String)
    (pieces : List String)
    (hpiece : piece ≠ "") :
    (separator.intercalate (piece :: pieces)).toList.head? = piece.toList.head? := by
  cases pieces with
  | nil => rw [String.intercalate_singleton]
  | cons next pieces =>
      rw [String.intercalate_cons_cons, String.append_assoc, String.toList_append,
        List.head?_append_of_ne_nil _ (by simpa using hpiece)]

/-- A joined text ends as its last piece does. -/
theorem getLast?_intercalate
    (separator piece : String)
    (pieces : List String)
    (hlast : pieces.getLast? = some piece)
    (hpiece : piece ≠ "") :
    (separator.intercalate pieces).toList.getLast? = piece.toList.getLast? := by
  obtain ⟨before, rfl⟩ := List.getLast?_eq_some_iff.mp hlast
  cases before with
  | nil => rw [List.nil_append, String.intercalate_singleton]
  | cons first before =>
      rw [String.intercalate_append_of_ne_nil (by simp) (by simp),
        String.intercalate_singleton, String.toList_append,
        List.getLast?_append_of_ne_nil _ (by simpa using hpiece)]

/-- The last character is there, and it is no blank. -/
def EndsInNoBlank
    (text : String) : Prop :=
  ∃ c, text.toList.getLast? = some c ∧ isBlankChar c = false

theorem EndsInNoBlank.ne_empty
    {text : String}
    (hends : EndsInNoBlank text) :
    text ≠ "" := by
  rintro rfl
  obtain ⟨c, hlast, -⟩ := hends
  cases hlast

theorem EndsInNoBlank.intercalate
    {piece : String}
    (hends : EndsInNoBlank piece)
    (separator : String)
    (pieces : List String)
    (hlast : pieces.getLast? = some piece) :
    EndsInNoBlank (separator.intercalate pieces) := by
  have hpiece := hends.ne_empty
  obtain ⟨c, hc, hblank⟩ := hends
  exact ⟨c, (getLast?_intercalate separator piece pieces hlast hpiece).trans hc, hblank⟩

/-- A closing quote is no blank. -/
theorem endsInNoBlank_append_quote
    (text : String) :
    EndsInNoBlank (text ++ "'") :=
  ⟨'\'', by simp, by decide⟩

end Text

theorem RegisteredDirective.trim_name
    (directive : RegisteredDirective) :
    Text.trim directive.name = directive.name := by
  cases directive <;> decide

namespace Directive

theorem IsTrimmed.endsInNoBlank
    {text : String}
    (htext : IsTrimmed text) :
    Text.EndsInNoBlank text := by
  have hchars : text.toList ≠ [] := by simpa using htext.1
  have hlast := List.getLast?_eq_some_getLast hchars
  exact ⟨_, hlast, ((Text.trim_eq_self_iff text).mp htext.2).2 _ hlast⟩

/-- Behind the name no token ends in a blank. -/
theorem HoldsCleanTokens.endsInNoBlank
    {d : Directive}
    {admits : String → Prop}
    (hclean : d.HoldsCleanTokens admits)
    (token : String)
    (htoken : token ∈ d.values ++ d.experimental ++ d.nonces ++ d.hashes) :
    Text.EndsInNoBlank token := by
  simp only [List.mem_append] at htoken
  obtain ((hvalue | hvalue) | hnonce) | hhash := htoken
  · exact (hclean.values token hvalue).endsInNoBlank
  · exact (hclean.experimental token hvalue).endsInNoBlank
  · obtain ⟨nonce, -, rfl⟩ := hclean.nonces token hnonce
    exact Text.endsInNoBlank_append_quote _
  · obtain ⟨algorithm, digest, -, -, -, rfl⟩ := hclean.hashes token hhash
    exact Text.endsInNoBlank_append_quote _

/-- A written directive ends with the last of its tokens, and never with its name. -/
theorem IsReachable.endsInNoBlank_build
    {d : Directive}
    (hd : d.IsReachable)
    (hnonempty : d.isEmpty = false) :
    Text.EndsInNoBlank d.build := by
  have hmore := append_ne_nil_of_not_isEmpty d hnonempty
  have hlast := List.getLast?_eq_some_getLast hmore
  have htokens : d.tokens = [d.name] ++ (d.values ++ d.experimental ++ d.nonces ++ d.hashes) :=
    rfl
  rw [build_of_not_isEmpty d hnonempty]
  refine (hd.holdsCleanTokens.endsInNoBlank _ (List.mem_of_getLast? hlast)).intercalate " " _ ?_
  rw [htokens, List.getLast?_append_of_ne_nil _ hmore, hlast]

/-- A directive under any name begins without tokens. -/
theorem isReachable_getD_ofName?
    (text name : String) :
    ((ofName? text).getD (unregistered name)).IsReachable := by
  rw [ofName?]
  cases RegisteredDirective.ofName? (Text.lowerAscii (Text.trim text)) with
  | none => exact IsReachable.fresh name (.keyword .experimental)
  | some directive =>
      have hcleared : directive.kind.cleared = directive.kind := by cases directive <;> rfl
      rw [Option.map_some, Option.getD_some, registered, ← hcleared]
      exact IsReachable.fresh directive.name directive.kind

/-- A written directive begins with its name. -/
theorem head?_build
    (d : Directive)
    (hnonempty : d.isEmpty = false)
    (hname : d.name ≠ "") :
    d.build.toList.head? = d.name.toList.head? := by
  rw [build_of_not_isEmpty d hnonempty]
  exact Text.head?_intercalate " " d.name _ hname

end Directive

namespace Policy

section Ends

variable (policy : Policy)

/-- A written policy begins with the name of the first directive that is written. -/
theorem head?_build
    (hkeyed : policy.IsKeyed) :
    policy.build.toList.head? = policy.emitted.head?.bind (·.name.toList.head?) := by
  rw [build_eq]
  cases hemitted : policy.emitted with
  | nil => rfl
  | cons d others =>
      have hmem : d ∈ policy.emitted := by simp [hemitted]
      obtain ⟨hd, hwritten⟩ := List.mem_filter.mp hmem
      have hnonempty : d.isEmpty = false := by simpa using hwritten
      have hname : d.name ≠ "" := by
        intro hname
        have hnonblank := hkeyed.nonblank d.name (List.mem_map_of_mem hd)
        rw [hname] at hnonblank
        cases hnonblank
      have hbuild : d.build ≠ "" := by simp [d.build_eq_empty_iff, hnonempty]
      rw [List.map_cons, Text.head?_intercalate separator d.build _ hbuild,
        d.head?_build hnonempty hname, List.head?_cons, Option.bind_some]

/-- A written policy ends with a token of the last directive that is written. -/
theorem isBlankChar_of_getLast?_build
    (hmade : ∀ d ∈ policy.directives, d.IsReachable)
    (c : Char)
    (hlast : policy.build.toList.getLast? = some c) :
    Text.isBlankChar c = false := by
  rw [build_eq] at hlast
  rcases policy.emitted.eq_nil_or_concat with hnone | ⟨before, d, hemitted⟩
  · rw [hnone] at hlast
    cases hlast
  · rw [List.concat_eq_append] at hemitted
    have hmem : d ∈ policy.emitted := by simp [hemitted]
    obtain ⟨hd, hwritten⟩ := List.mem_filter.mp hmem
    have hends := (hmade d hd).endsInNoBlank_build (by simpa using hwritten)
    obtain ⟨last, hfound, hblank⟩ :=
      hends.intercalate separator (policy.emitted.map (·.build)) (by simp [hemitted])
    rw [hlast, Option.some.injEq] at hfound
    rwa [hfound]

/-- Where all names are trimmed, so is the written policy. -/
theorem trim_build_of_trim_names
    (hkeyed : policy.IsKeyed)
    (hmade : ∀ d ∈ policy.directives, d.IsReachable)
    (hnamed : ∀ d ∈ policy.directives, Text.trim d.name = d.name) :
    Text.trim policy.build = policy.build := by
  rw [Text.trim_eq_self_iff]
  refine ⟨fun c hfirst => ?_, isBlankChar_of_getLast?_build policy hmade⟩
  rw [head?_build policy hkeyed, Option.bind_eq_some_iff] at hfirst
  obtain ⟨d, hd, hfirst⟩ := hfirst
  have hmem := List.mem_of_mem_filter (List.mem_of_head? hd)
  exact ((Text.trim_eq_self_iff d.name).mp (hnamed d hmem)).1 c hfirst

end Ends

/-- Adds directives in order, and reduces the policy on demand. -/
def compose
    (level : Level)
    (directives : List Directive)
    (reduce : Bool) :
    Policy :=
  after level (directives.map .add ++ if reduce then [.reduce] else [])

section Composed

variable (level : Level) (directives : List Directive) (reduce : Bool)

theorem compose_eq :
    compose level directives reduce =
      if reduce then
        ((empty level).addAll directives).reduce
      else
        (empty level).addAll directives := by
  have hadd : (empty level).editAll (directives.map .add) = (empty level).addAll directives := by
    rw [editAll, List.foldl_map]
    rfl
  cases reduce with
  | false => simp [compose, after, hadd]
  | true => simp [compose, after, editAll_concat, hadd, edit]

theorem isKeyed_compose :
    (compose level directives reduce).IsKeyed :=
  isKeyed_after level _

/-- What edits of a directive keep holds of a composed policy if it holds of its directives. -/
theorem forall_mem_compose
    (holds : Directive → Prop)
    (hedit : ∀ d e, holds d → holds (d.edit e))
    (hdirectives : ∀ d ∈ directives, holds d) :
    ∀ d ∈ (compose level directives reduce).directives, holds d := by
  refine forall_mem_after holds hedit level _ fun d hadd => hdirectives d ?_
  cases reduce <;> simpa using hadd

end Composed

/-- A directive that is made by hand: its name as it is given, and how it is filled. -/
structure Entry where
  name : String
  edits : List Directive.Edit
deriving DecidableEq, Repr

/-- The directive of an entry: a registered one if its name means one. -/
def Entry.directive
    (entry : Entry) :
    Directive :=
  ((Directive.ofName? entry.name).getD (Directive.unregistered entry.name)).editAll entry.edits

theorem Entry.isReachable_directive
    (entry : Entry) :
    entry.directive.IsReachable :=
  (Directive.isReachable_getD_ofName? entry.name entry.name).editAll entry.edits

/-- Only a name outside the registered ones is kept as it is given, blanks at its ends included. -/
theorem Entry.name_of_not_trimmed
    (entry : Entry)
    (hname : Text.trim entry.directive.name ≠ entry.directive.name) :
    Directive.ofName? entry.name = none ∧ entry.directive.name = entry.name := by
  rw [directive, Directive.name_editAll] at hname ⊢
  cases hfound : Directive.ofName? entry.name with
  | none => exact ⟨rfl, rfl⟩
  | some d =>
      rw [hfound, Option.getD_some] at hname
      obtain ⟨directive, -, rfl⟩ := Option.map_eq_some_iff.mp hfound
      exact absurd directive.trim_name hname

/--
A policy that is composed by hand ends in no blank, so in no separator.  It
begins with a space exactly if the first name that is written does, and such a
name is given by an entry and means no registered directive.
-/
theorem composed_policy_begins_with_space_iff
    (level : Level)
    (entries : List Entry)
    (reduce : Bool) :
    let policy := compose level (entries.map (·.directive)) reduce
    (∀ c, policy.build.toList.getLast? = some c → Text.isBlankChar c = false) ∧
    ¬ separator.toList <:+ policy.build.toList ∧
    (policy.build.toList.head? = some ' ' ↔
      ∃ d, policy.emitted.head? = some d ∧ d.name.toList.head? = some ' ') ∧
    ∀ d ∈ policy.emitted, d.name.toList.head? = some ' ' →
      ∃ entry ∈ entries, entry.name = d.name ∧ Directive.ofName? entry.name = none := by
  intro policy
  have hmade : ∀ d ∈ policy.directives, d.IsReachable := by
    refine forall_mem_compose level _ reduce _ Directive.IsReachable.edit ?_
    rw [List.forall_mem_map]
    exact fun entry _ => entry.isReachable_directive
  have hnamed :
      ∀ d ∈ policy.directives, ∃ entry ∈ entries, entry.directive.name = d.name := by
    refine forall_mem_compose level _ reduce _ (fun d e hd => ?_) ?_
    · rwa [Directive.name_edit]
    · rw [List.forall_mem_map]
      exact fun entry hentry => ⟨entry, hentry, rfl⟩
  have hlast := isBlankChar_of_getLast?_build policy hmade
  refine ⟨hlast, ?_, ?_, ?_⟩
  · rintro ⟨before, hbuild⟩
    have hspace : policy.build.toList.getLast? = some ' ' := by
      rw [← hbuild]
      simp [separator]
    exact absurd (hlast ' ' hspace) (by decide)
  · rw [head?_build policy (isKeyed_compose level _ reduce), Option.bind_eq_some_iff]
  · intro d hd hspace
    obtain ⟨entry, hentry, hname⟩ := hnamed d (List.mem_of_mem_filter hd)
    have hblank : Text.trim entry.directive.name ≠ entry.directive.name := by
      rw [hname]
      intro htrim
      exact absurd (((Text.trim_eq_self_iff d.name).mp htrim).1 ' ' hspace) (by decide)
    obtain ⟨hunregistered, hkept⟩ := entry.name_of_not_trimmed hblank
    exact ⟨entry, hentry, hkept.symm.trans hname, hunregistered⟩

/-- A name with a space in front of it that is not written, and a value that ends in a semicolon. -/
theorem composed_policy_begins_with_space_iff_of_unwritten_name :
    let entries : List Entry :=
      [{ name := " x", edits := [.nonce "n"] }, { name := "y", edits := [.value " a; "] }]
    let policy := compose .standard (entries.map (·.directive)) false
    policy.names = [" x", "y"] ∧ policy.build = "y a;" ∧
      policy.build.toList.head? ≠ some ' ' ∧ ¬ separator.toList <:+ policy.build.toList := by
  intro entries policy
  obtain ⟨-, hending, hfirst, -⟩ := composed_policy_begins_with_space_iff .standard entries false
  refine ⟨by decide, by decide, ?_, hending⟩
  rw [ne_eq, hfirst]
  rintro ⟨d, hd, hspace⟩
  have hwritten : policy.emitted.head? = some (Entry.directive ⟨"y", [.value " a; "]⟩) := by
    decide
  rw [hwritten] at hd
  cases hd
  exact absurd hspace (by decide)

/-- One name with a space in front of it is enough. -/
theorem leading_space_of_a_name_is_written :
    let policy := compose .standard [Entry.directive { name := " x", edits := [.value "a"] }] false
    policy.build = " x a" ∧ policy.build.toList.head? = some ' ' := by
  decide

end Policy

namespace DirectiveConfig

/-- Configurations fill their directives by edits. -/
theorem isReachable_described
    (entry : DirectiveConfig)
    (hplaced : ¬ entry.MisplacesSources) :
    entry.described.IsReachable := by
  have hedits :
      entry.described =
        entry.emptyDirective.editAll
          (entry.values.map .value ++ entry.experimental.map .experimental ++
            entry.nonces.map .nonce ++
              entry.hashes.map fun hash => .hash hash.algorithm hash.digest) := by
    rw [← fill_eq_described entry hplaced]
    simp only [Directive.editAll, List.foldl_append, List.foldl_map]
    rfl
  rw [hedits]
  exact (Directive.isReachable_getD_ofName? entry.name (Text.trim entry.name)).editAll _

theorem trim_key
    (entry : DirectiveConfig) :
    Text.trim entry.key = entry.key := by
  rw [key]
  split
  · rename_i hmem
    obtain ⟨directive, -, hdirective⟩ := List.mem_map.mp hmem
    rw [← hdirective]
    exact directive.trim_name
  · exact Text.trim_trim entry.name

end DirectiveConfig

namespace PolicyConfig

/-- A configuration that yields a policy composes what its entries describe. -/
theorem eq_compose_of_toPolicy
    (config : PolicyConfig)
    (policy : Policy)
    (hresult : config.toPolicy = .ok policy) :
    policy =
        Policy.compose config.level (config.directives.map (·.described)) config.reduce ∧
      ∀ entry ∈ config.directives, ¬ entry.MisplacesSources := by
  rw [toPolicy_eq] at hresult
  cases hrefusal : config.directives.findSome? (·.refusal?) with
  | some error =>
      rw [hrefusal] at hresult
      cases hresult
  | none =>
      rw [hrefusal, Except.ok.injEq, assembled, ← Policy.compose_eq] at hresult
      refine ⟨hresult.symm, fun entry hentry => ?_⟩
      have haccepted := List.findSome?_eq_none_iff.mp hrefusal entry hentry
      rw [DirectiveConfig.refusal?_eq_none_iff, not_or] at haccepted
      exact haccepted.2

/-- A configuration trims its names, so its written policy has no blank at either end. -/
theorem trim_build_of_toPolicy
    (config : PolicyConfig)
    (policy : Policy)
    (hresult : config.toPolicy = .ok policy) :
    Text.trim policy.build = policy.build := by
  obtain ⟨rfl, hplaced⟩ := eq_compose_of_toPolicy config policy hresult
  refine Policy.trim_build_of_trim_names _ (Policy.isKeyed_compose _ _ _) ?_ ?_
  · refine Policy.forall_mem_compose _ _ _ _ Directive.IsReachable.edit ?_
    rw [List.forall_mem_map]
    exact fun entry hentry => entry.isReachable_described (hplaced entry hentry)
  · refine Policy.forall_mem_compose _ _ _ _ (fun d e hd => by rwa [d.name_edit]) ?_
    rw [List.forall_mem_map]
    intro entry _
    rw [DirectiveConfig.name_described, entry.trim_key]

end PolicyConfig
end ContentSecurity
