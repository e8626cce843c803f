import ContentSecurity.Field
import Mathlib.Data.List.Forall2

/-!
# What may be given for a field

A field of a structure has a key, some values that stand for what it holds, and
perhaps a reason for which it may be left out.  This module says when such a
field is read as what it holds.
-/

namespace ContentSecurity
namespace Field

/-- Reading item by item succeeds if it does for every item. -/
theorem mapM_eq_some_of_forall₂
    {α β : Type}
    (read? : α → Option β)
    (given : List α)
    (found : List β)
    (hread : List.Forall₂ (fun a b => read? a = some b) given found) :
    given.mapM read? = some found := by
  induction hread with
  | nil => rfl
  | cons hfirst hrest ih => simp [List.mapM_cons, hfirst, ih]

/-- Partners that every item has form a list of partners. -/
theorem exists_forall₂
    {α β : Type}
    (related : α → β → Prop)
    (items : List α)
    (hitems : ∀ a ∈ items, ∃ b, related a b) :
    ∃ partners, List.Forall₂ related items partners := by
  induction items with
  | nil => exact ⟨[], .nil⟩
  | cons a items ih =>
      rw [List.forall_mem_cons] at hitems
      obtain ⟨b, hfirst⟩ := hitems.1
      obtain ⟨partners, hrest⟩ := ih hitems.2
      exact ⟨b :: partners, .cons hfirst hrest⟩

/-- A field of a structure that holds something in particular. -/
structure Form (α : Type) where
  key : String
  /-- The values that stand for what the field holds. -/
  admits : α → Prop
  /-- The condition under which the field may be left out. -/
  mayMiss : Prop

namespace Form

variable {α β : Type}

/-- A field that is always given. -/
def required
    (key : String)
    (admits : α → Prop) :
    Form α :=
  { key, admits, mayMiss := False }

/-- What is given for the field, if anything is, stands for what it holds. -/
def IsMetBy
    (form : Form α) :
    Option α → Prop
  | some value => form.admits value
  | none => form.mayMiss

theorem required?_eq_some
    (form : Form α)
    (read? : α → Option β)
    (holds : β)
    (given : Option α)
    (hmet : form.IsMetBy given)
    (hread : ∀ value, form.admits value → read? value = some holds)
    (hmiss : ¬ form.mayMiss) :
    required? read? given = some holds := by
  cases given with
  | none => exact absurd hmet hmiss
  | some value => exact hread value hmet

/-- A field may be left out if it holds its standard value. -/
theorem optional?_eq_some
    (form : Form α)
    (standard : β)
    (read? : α → Option β)
    (holds : β)
    (given : Option α)
    (hmet : form.IsMetBy given)
    (hread : ∀ value, form.admits value → read? value = some holds)
    (hmiss : form.mayMiss → holds = standard) :
    optional? standard read? given = some holds := by
  cases given with
  | none => rw [optional?, hmiss hmet]
  | some value => exact hread value hmet

end Form
end Field
end ContentSecurity
