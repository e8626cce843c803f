import ContentSecurity.Json.Decoding
import ContentSecurity.Proofs.Fields
import ContentSecurity.Proofs.Json.RoundTrip

/-!
# Records with their members in any order

A structure is written as a record with a member for every field, in a fixed
order.  The members may as well stand in any other order, and those of some
fields may be left out.  This module says which records stand for a structure in
this sense, and what taking them apart yields.

The main statement is `fields?_of_isRecordOf`: every field is met by what is
found under its key.
-/

namespace ContentSecurity
namespace Json

open ContentSecurity.Field (Form)

/-- The members of a structure in the order of its fields, some of them left out. -/
inductive Fills : List (Form Value) → List (String × Value) → Prop
  | nil :
      Fills [] []
  | given
      (form : Form Value)
      (forms : List (Form Value))
      (value : Value)
      (members : List (String × Value))
      (hvalue : form.admits value)
      (hrest : Fills forms members) :
      Fills (form :: forms) ((form.key, value) :: members)
  | leftOut
      (form : Form Value)
      (forms : List (Form Value))
      (members : List (String × Value))
      (hmiss : form.mayMiss)
      (hrest : Fills forms members) :
      Fills (form :: forms) members

/-- A record that stands for a structure: the members come in any order. -/
def IsRecordOf
    (forms : List (Form Value))
    (v : Value) : Prop :=
  ∃ members shuffled, Fills forms members ∧ shuffled.Perm members ∧ v = .object shuffled

/-- A list whose items stand for some things, one by one. -/
def IsListOf
    {α : Type}
    (standsFor : α → Value → Prop)
    (holds : List α)
    (v : Value) : Prop :=
  ∃ items, List.Forall₂ standsFor holds items ∧ v = .list items

section Records

variable {forms : List (Form Value)} {members : List (String × Value)}
variable (hfills : Fills forms members)

include hfills

/-- Every member is the one of a field. -/
theorem Fills.exists_form :
    ∀ member ∈ members, ∃ form ∈ forms, member.1 = form.key ∧ form.admits member.2 := by
  induction hfills with
  | nil => simp
  | given form forms value members hvalue hrest ih =>
      intro member hmember
      rcases List.mem_cons.mp hmember with rfl | hmember
      · exact ⟨form, List.mem_cons_self, rfl, hvalue⟩
      · obtain ⟨other, hother, hmember⟩ := ih member hmember
        exact ⟨other, List.mem_cons_of_mem _ hother, hmember⟩
  | leftOut form forms members hmiss hrest ih =>
      intro member hmember
      obtain ⟨other, hother, hmember⟩ := ih member hmember
      exact ⟨other, List.mem_cons_of_mem _ hother, hmember⟩

theorem Fills.filter_eq_nil
    (key : String)
    (hkey : key ∉ forms.map (·.key)) :
    members.filter (·.1 == key) = [] := by
  rw [List.filter_eq_nil_iff]
  intro member hmember hsame
  obtain ⟨form, hform, hmember, -⟩ := hfills.exists_form member hmember
  rw [beq_iff_eq, hmember] at hsame
  exact hkey (hsame ▸ List.mem_map_of_mem hform)

/-- The members under the key of a field: one that stands for it, or none if it may be left out. -/
theorem Fills.filter_key
    (hdistinct : (forms.map (·.key)).Nodup)
    (form : Form Value)
    (hform : form ∈ forms) :
    ∃ given, form.IsMetBy given ∧
      members.filter (·.1 == form.key) = (given.map (form.key, ·)).toList := by
  induction hfills with
  | nil => cases hform
  | given first forms value members hvalue hrest ih =>
      rw [List.map_cons, List.nodup_cons] at hdistinct
      rcases List.mem_cons.mp hform with rfl | hform
      · have hnone := hrest.filter_eq_nil form.key hdistinct.1
        exact ⟨some value, hvalue, by simp [hnone]⟩
      · have hne : first.key ≠ form.key := by
          intro hkey
          exact hdistinct.1 (hkey ▸ List.mem_map_of_mem hform)
        obtain ⟨given, hmet, hfilter⟩ := ih hdistinct.2 hform
        exact ⟨given, hmet, by simp [hne, hfilter]⟩
  | leftOut first forms members hmiss hrest ih =>
      rw [List.map_cons, List.nodup_cons] at hdistinct
      rcases List.mem_cons.mp hform with rfl | hform
      · have hnone := hrest.filter_eq_nil form.key hdistinct.1
        exact ⟨none, hmiss, by simp [hnone]⟩
      · exact ih hdistinct.2 hform

end Records

/-- A key finds the only member under it, wherever the member stands. -/
theorem member?_of_filter
    (members shuffled : List (String × Value))
    (hperm : shuffled.Perm members)
    (key : String)
    (given : Option Value)
    (hfilter : members.filter (·.1 == key) = (given.map (key, ·)).toList) :
    Value.member? (shuffled.map fun (key, value) => (some key, value)) key = some given := by
  have hshuffled : shuffled.filter (·.1 == key) = (given.map (key, ·)).toList := by
    have hsame := hperm.filter (·.1 == key)
    rw [hfilter] at hsame
    cases given with
    | none => exact List.perm_nil.mp hsame
    | some value => exact List.perm_singleton.mp hsame
  have hlifted :
      (shuffled.map fun (key, value) => (some key, value)).filter (·.1 == some key) =
        (given.map (some key, ·)).toList := by
    rw [List.filter_map]
    have hcongr :
        shuffled.filter ((·.1 == some key) ∘ fun (key, value) => (some key, value)) =
          shuffled.filter (·.1 == key) :=
      List.filter_congr fun member _ => by simp
    rw [hcongr, hshuffled]
    cases given <;> rfl
  rw [Value.member?, hlifted]
  cases given <;> rfl

/-- Taking a record apart yields something for each field that meets it. -/
theorem fields?_of_isRecordOf
    (forms : List (Form Value))
    (names : List String)
    (v : Value)
    (hnames : forms.map (·.key) = names)
    (hdistinct : names.Nodup)
    (hrecord : IsRecordOf forms v) :
    ∃ given, v.fields? names = some given ∧ List.Forall₂ Form.IsMetBy forms given := by
  subst hnames
  obtain ⟨members, shuffled, hfills, hperm, rfl⟩ := hrecord
  have hkeys :
      (shuffled.map fun (key, value) => ((some key, value) : Option String × Value)).all
        (·.1.isSome) = true := by
    simp
  obtain ⟨given, hgiven⟩ :
      ∃ given, List.Forall₂
        (fun form given => form.IsMetBy given ∧
          Value.member? (shuffled.map fun (key, value) => (some key, value)) form.key =
            some given) forms given := by
    refine Field.exists_forall₂ _ forms fun form hform => ?_
    obtain ⟨given, hmet, hfilter⟩ := hfills.filter_key hdistinct form hform
    exact ⟨given, hmet, member?_of_filter members shuffled hperm form.key given hfilter⟩
  refine ⟨given, ?_, hgiven.imp fun _ _ h => h.1⟩
  rw [Value.object, Value.fields?, if_pos hkeys]
  refine Field.mapM_eq_some_of_forall₂ _ _ _ ?_
  rw [List.forall₂_map_left_iff]
  exact hgiven.imp fun _ _ h => h.2

/-- A record holds only numbers if the members do. -/
theorem holdsNumerals_of_isRecordOf
    (forms : List (Form Value))
    (v : Value)
    (hrecord : IsRecordOf forms v)
    (hnumerals : ∀ form ∈ forms, ∀ value, form.admits value → value.HoldsNumerals) :
    v.HoldsNumerals := by
  obtain ⟨members, shuffled, hfills, hperm, rfl⟩ := hrecord
  refine .record _ fun member hmember => ?_
  obtain ⟨found, hfound, rfl⟩ := List.mem_map.mp hmember
  obtain ⟨form, hform, -, hadmits⟩ := hfills.exists_form found (hperm.mem_iff.mp hfound)
  exact hnumerals form hform found.2 hadmits

/-- A list is written item by item. -/
theorem isListOf_map
    {α : Type}
    (standsFor : α → Value → Prop)
    (toJson : α → Value)
    (holds : List α)
    (hwritten : ∀ a, standsFor a (toJson a)) :
    IsListOf standsFor holds (.list (holds.map toJson)) := by
  refine ⟨_, ?_, rfl⟩
  rw [List.forall₂_map_right_iff, List.forall₂_same]
  exact fun a _ => hwritten a

/-- A list of things that are read one by one is read as a whole. -/
theorem list?_of_isListOf
    {α : Type}
    (standsFor : α → Value → Prop)
    (item? : Value → Option α)
    (holds : List α)
    (v : Value)
    (hlist : IsListOf standsFor holds v)
    (hitem : ∀ a value, standsFor a value → item? value = some a) :
    v.list? item? = some holds := by
  obtain ⟨items, hitems, rfl⟩ := hlist
  exact Field.mapM_eq_some_of_forall₂ item? items holds
    (hitems.flip.imp fun value a h => hitem a value h)

theorem holdsNumerals_of_isListOf
    {α : Type}
    (standsFor : α → Value → Prop)
    (holds : List α)
    (v : Value)
    (hlist : IsListOf standsFor holds v)
    (hitem : ∀ a value, standsFor a value → value.HoldsNumerals) :
    v.HoldsNumerals := by
  obtain ⟨items, hitems, rfl⟩ := hlist
  refine .list _ ?_
  induction hitems with
  | nil => simp
  | cons hfirst hrest ih => exact List.forall_mem_cons.mpr ⟨hitem _ _ hfirst, ih⟩

/-- Strings are read back from a list of strings. -/
theorem strings?_strings
    (texts : List String) :
    (Value.strings texts).strings? = some texts := by
  refine Field.mapM_eq_some_of_forall₂ _ _ _ ?_
  rw [List.forall₂_map_left_iff, List.forall₂_same]
  exact fun _ _ => rfl

theorem holdsNumerals_strings
    (texts : List String) :
    (Value.strings texts).HoldsNumerals := by
  refine .list _ fun item hitem => ?_
  obtain ⟨text, -, rfl⟩ := List.mem_map.mp hitem
  exact .text _

/-- A 64-bit number is read back from its digits. -/
theorem natural64?_natural
    (n : UInt64) :
    (Value.natural n.toNat).natural64? = some n := by
  have hdigits : (Text.decimal n.toNat).all Char.isDigit = true :=
    List.all_eq_true.mpr (Text.isDigit_of_mem_decimal n.toNat)
  have hvalue := Text.decimalValue_decimal n.toNat
  have hsmall : n.toNat < Nat.pow 2 64 := n.toNat_lt
  simp only [Value.natural, Value.natural64?, hdigits, hvalue, hsmall]
  simp

theorem holdsNumerals_natural
    (n : Nat) :
    (Value.natural n).HoldsNumerals :=
  .number _ (isNumeral_decimal n)

section Fields

/-- A field that holds a string and must be given. -/
def stringField
    (key text : String) :
    Form Value :=
  .required key (· = .string text)

/-- A field that holds a truth value and must be given. -/
def booleanField
    (key : String)
    (b : Bool) :
    Form Value :=
  .required key (· = .boolean b)

/-- A field that holds a list, and may be left out if the list is empty. -/
def listField
    {α : Type}
    (key : String)
    (standsFor : α → Value → Prop)
    (holds : List α) :
    Form Value :=
  { key, admits := IsListOf standsFor holds, mayMiss := holds = [] }

/-- A field that holds strings, and may be left out if there are none. -/
def stringsField
    (key : String)
    (texts : List String) :
    Form Value :=
  { key, admits := (· = .strings texts), mayMiss := texts = [] }

variable {key : String} {given : Option Value}

theorem required?_stringField
    (text : String)
    (hmet : (stringField key text).IsMetBy given) :
    Field.required? Value.string? given = some text :=
  Form.required?_eq_some _ _ _ _ hmet (fun _ hvalue => hvalue ▸ rfl) id

theorem required?_booleanField
    (b : Bool)
    (hmet : (booleanField key b).IsMetBy given) :
    Field.required? Value.boolean? given = some b :=
  Form.required?_eq_some _ _ _ _ hmet (fun _ hvalue => hvalue ▸ rfl) id

theorem optional?_listField
    {α : Type}
    (standsFor : α → Value → Prop)
    (item? : Value → Option α)
    (holds : List α)
    (hitem : ∀ a value, standsFor a value → item? value = some a)
    (hmet : (listField key standsFor holds).IsMetBy given) :
    Field.optional? [] (Value.list? item?) given = some holds :=
  Form.optional?_eq_some _ _ _ _ _ hmet
    (fun value hvalue => list?_of_isListOf standsFor item? holds value hvalue hitem) id

theorem optional?_stringsField
    (texts : List String)
    (hmet : (stringsField key texts).IsMetBy given) :
    Field.optional? [] Value.strings? given = some texts :=
  Form.optional?_eq_some _ _ _ _ _ hmet (fun _ hvalue => hvalue ▸ strings?_strings texts) id

end Fields

/-- The written form of a thing stands for it, and whatever stands for it is read as this thing. -/
structure ReadsBack
    {α : Type}
    (toJson : α → Value)
    (standsFor : α → Value → Prop)
    (ofJson? : Value → Option α) : Prop where
  written : ∀ a, standsFor a (toJson a)
  readBack : ∀ a v, standsFor a v → (Value.read? v.write).bind ofJson? = some a

/-- Forms that hold only numbers and are understood are read back from texts. -/
theorem ReadsBack.of_ofJson?
    {α : Type}
    (toJson : α → Value)
    (standsFor : α → Value → Prop)
    (ofJson? : Value → Option α)
    (hwritten : ∀ a, standsFor a (toJson a))
    (hnumerals : ∀ a v, standsFor a v → v.HoldsNumerals)
    (hread : ∀ a v, standsFor a v → ofJson? v = some a) :
    ReadsBack toJson standsFor ofJson? where
  written := hwritten
  readBack := fun a v hv => by
    rw [read?_write v (hnumerals a v hv), Option.bind_some, hread a v hv]

end Json
end ContentSecurity
