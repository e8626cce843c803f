import ContentSecurity.Policy.Validation
import ContentSecurity.Proofs.Directive.Edits

/-!
# Edits of a policy

The directives of a policy are added, removed, changed in place and reduced.
This module lists these edits together with the validations, and says what each
of them does to the list of names, to the directive of a name, and to the
directives of all other names.

The names of a policy are distinct, and none of them is blank, as long as the
policy is changed by edits only.  Under this condition `get?_edit` describes an
edit name by name.  Properties that edits of a directive keep are kept by edits of
the policy as well, by `forall_mem_edit`.
-/

namespace ContentSecurity

/-- What a reduction leaves of a directive. -/
def Directive.reduced?
    (d : Directive) :
    Option Directive :=
  if d.removeDuplicates.isEmpty then none else some d.removeDuplicates

theorem Directive.name_of_reduced?_eq_some
    (d r : Directive)
    (hreduced : d.reduced? = some r) :
    r.name = d.name := by
  simp only [reduced?] at hreduced
  split at hreduced
  · cases hreduced
  · cases hreduced
    rfl

namespace Policy

/-- An operation on a policy. -/
inductive Edit where
  | add
      (d : Directive)
  | remove
      (name : String)
  /-- Edits of the directive of a name. -/
  | modify
      (name : String)
      (edits : List Directive.Edit)
  | reduce
  | validate
  | resetReport
deriving DecidableEq, Repr

/-- Carries out an edit. -/
def edit
    (policy : Policy) :
    Edit → Policy
  | .add d => policy.add d
  | .remove name => policy.remove name
  | .modify name edits => policy.modify name (·.editAll edits)
  | .reduce => policy.reduce
  | .validate => policy.validate
  | .resetReport => policy.resetReport

/-- Carries out edits, one after the other. -/
def editAll
    (policy : Policy)
    (edits : List Edit) :
    Policy :=
  edits.foldl edit policy

theorem editAll_concat
    (policy : Policy)
    (edits : List Edit)
    (e : Edit) :
    policy.editAll (edits ++ [e]) = (policy.editAll edits).edit e := by
  rw [editAll, List.foldl_append]
  rfl

/-- The names of the directives, in order. -/
def names
    (policy : Policy) :
    List String :=
  policy.directives.map (·.name)

/-- The directives of all names but one, in order. -/
def others
    (policy : Policy)
    (name : String) :
    List Directive :=
  policy.directives.filter (·.name ≠ name)

/-- The only name that an edit is about; none if it is about all names. -/
def Edit.target? : Edit → Option String
  | .add d => some d.name
  | .remove name => some name
  | .modify name _ => some name
  | _ => none

section Lists

variable (directives : List Directive)

theorem find?_name_eq_none_iff
    (name : String) :
    directives.find? (·.name == name) = none ↔ name ∉ directives.map (·.name) := by
  simp

theorem map_name_place
    (d : Directive) :
    (place d directives).map (·.name) =
      if d.name ∈ directives.map (·.name) then
        directives.map (·.name)
      else
        directives.map (·.name) ++ [d.name] := by
  induction directives with
  | nil => rfl
  | cons other rest ih =>
      by_cases hname : other.name = d.name
      · simp [place, hname]
      · rw [place, if_neg hname, List.map_cons, ih, List.map_cons]
        by_cases hmem : d.name ∈ rest.map (·.name)
        · rw [if_pos hmem, if_pos (List.mem_cons_of_mem _ hmem)]
        · rw [if_neg hmem, if_neg (by simpa [Ne.symm hname] using hmem), List.cons_append]

theorem find?_place
    (d : Directive) :
    (place d directives).find? (·.name == d.name) = some d := by
  induction directives with
  | nil => simp [place]
  | cons other rest ih =>
      by_cases hother : other.name = d.name
      · simp [place, hother]
      · simpa [place, hother] using ih

theorem filter_place
    (d : Directive) :
    (place d directives).filter (·.name ≠ d.name) = directives.filter (·.name ≠ d.name) := by
  induction directives with
  | nil => simp [place]
  | cons other rest ih =>
      by_cases hother : other.name = d.name
      · simp [place, hother]
      · rw [place, if_neg hother, List.filter_cons, ih, List.filter_cons]

section Change

variable (name : String) (change : Directive → Directive)
variable (hchange : ∀ d, (change d).name = d.name)

include hchange

theorem map_name_modifyFirst :
    (modifyFirst name change directives).map (·.name) = directives.map (·.name) := by
  induction directives with
  | nil => rfl
  | cons d rest ih => by_cases hd : d.name = name <;> simp [modifyFirst, hd, ih, hchange]

theorem find?_modifyFirst :
    (modifyFirst name change directives).find? (·.name == name) =
      (directives.find? (·.name == name)).map change := by
  induction directives with
  | nil => rfl
  | cons d rest ih =>
      by_cases hd : d.name = name
      · simp [modifyFirst, hd, hchange]
      · simpa [modifyFirst, hd] using ih

theorem filter_modifyFirst :
    (modifyFirst name change directives).filter (·.name ≠ name) =
      directives.filter (·.name ≠ name) := by
  induction directives with
  | nil => rfl
  | cons d rest ih =>
      by_cases hd : d.name = name
      · simp [modifyFirst, hd, hchange]
      · rw [modifyFirst, if_neg hd, List.filter_cons, ih, List.filter_cons]

end Change

theorem filter_eraseP
    (name : String) :
    (directives.eraseP (·.name == name)).filter (·.name ≠ name) =
      directives.filter (·.name ≠ name) := by
  induction directives with
  | nil => rfl
  | cons d rest ih =>
      by_cases hd : d.name = name
      · simp [hd]
      · rw [List.eraseP_cons_of_neg (by simpa using hd), List.filter_cons, ih, List.filter_cons]

/-- Only with distinct names does a removal leave no directive of the name. -/
theorem find?_eraseP
    (name : String)
    (hdistinct : (directives.map (·.name)).Nodup) :
    (directives.eraseP (·.name == name)).find? (·.name == name) = none := by
  induction directives with
  | nil => rfl
  | cons d rest ih =>
      rw [List.map_cons, List.nodup_cons] at hdistinct
      by_cases hd : d.name = name
      · subst hd
        rw [List.eraseP_cons_of_pos (by simp)]
        exact (find?_name_eq_none_iff rest d.name).mpr hdistinct.1
      · rw [List.eraseP_cons_of_neg (by simpa using hd), List.find?_cons_of_neg (by simpa using hd)]
        exact ih hdistinct.2

/-- A reduction treats every directive for itself. -/
theorem filter_map_removeDuplicates :
    (directives.map (·.removeDuplicates)).filter (fun d => !d.isEmpty) =
      directives.filterMap (·.reduced?) := by
  induction directives with
  | nil => rfl
  | cons d rest ih =>
      cases hempty : d.removeDuplicates.isEmpty <;> simp [Directive.reduced?, hempty, ih]

theorem map_name_filterMap_reduced? :
    ((directives.filterMap (·.reduced?)).map (·.name)).Sublist (directives.map (·.name)) := by
  induction directives with
  | nil => exact List.Sublist.refl _
  | cons d rest ih =>
      rw [List.map_cons]
      cases hreduced : d.reduced? with
      | none =>
          rw [List.filterMap_cons_none hreduced]
          exact ih.cons d.name
      | some r =>
          rw [List.filterMap_cons_some hreduced, List.map_cons,
            d.name_of_reduced?_eq_some r hreduced]
          exact ih.cons_cons d.name

/-- With distinct names, what is reduced under a name is what was kept under it. -/
theorem find?_filterMap_reduced?
    (name : String)
    (hdistinct : (directives.map (·.name)).Nodup) :
    (directives.filterMap (·.reduced?)).find? (·.name == name) =
      (directives.find? (·.name == name)).bind (·.reduced?) := by
  induction directives with
  | nil => rfl
  | cons d rest ih =>
      rw [List.map_cons, List.nodup_cons] at hdistinct
      have hrest := ih hdistinct.2
      by_cases hd : d.name = name
      · rw [List.find?_cons_of_pos (by simpa using hd), Option.bind_some]
        cases hreduced : d.reduced? with
        | none =>
            have hnone : rest.find? (·.name == name) = none :=
              (find?_name_eq_none_iff rest name).mpr (hd ▸ hdistinct.1)
            rw [List.filterMap_cons_none hreduced, hrest, hnone, Option.bind_none]
        | some r =>
            have hr := d.name_of_reduced?_eq_some r hreduced
            rw [List.filterMap_cons_some hreduced, List.find?_cons_of_pos (by simp [hr, hd])]
      · rw [List.find?_cons_of_neg (by simpa using hd)]
        cases hreduced : d.reduced? with
        | none => rw [List.filterMap_cons_none hreduced, hrest]
        | some r =>
            have hr := d.name_of_reduced?_eq_some r hreduced
            rw [List.filterMap_cons_some hreduced, List.find?_cons_of_neg (by simp [hr, hd]),
              hrest]

theorem mem_place
    (d other : Directive)
    (hother : other ∈ place d directives) :
    other = d ∨ other ∈ directives := by
  induction directives with
  | nil => exact Or.inl (List.mem_singleton.mp hother)
  | cons first rest ih =>
      rw [place] at hother
      split at hother
      · exact (List.mem_cons.mp hother).imp_right (List.mem_cons_of_mem _)
      · rcases List.mem_cons.mp hother with rfl | hrest
        · exact Or.inr List.mem_cons_self
        · exact (ih hrest).imp_right (List.mem_cons_of_mem _)

theorem mem_modifyFirst
    (name : String)
    (change : Directive → Directive)
    (other : Directive)
    (hother : other ∈ modifyFirst name change directives) :
    other ∈ directives ∨ ∃ d ∈ directives, other = change d := by
  induction directives with
  | nil => exact Or.inl hother
  | cons first rest ih =>
      rw [modifyFirst] at hother
      split at hother
      · rcases List.mem_cons.mp hother with rfl | hrest
        · exact Or.inr ⟨first, List.mem_cons_self, rfl⟩
        · exact Or.inl (List.mem_cons_of_mem _ hrest)
      · rcases List.mem_cons.mp hother with rfl | hrest
        · exact Or.inl List.mem_cons_self
        · rcases ih hrest with hold | ⟨d, hd, rfl⟩
          · exact Or.inl (List.mem_cons_of_mem _ hold)
          · exact Or.inr ⟨d, List.mem_cons_of_mem _ hd, rfl⟩

end Lists

/-- An edit of one name leaves the directives of all other names, and their order, alone. -/
theorem others_edit
    (policy : Policy)
    (e : Edit)
    (name : String)
    (htarget : e.target? = some name) :
    (policy.edit e).others name = policy.others name := by
  cases e with
  | add d =>
      cases htarget
      simp only [edit, add]
      split
      · rfl
      · exact filter_place policy.directives d
  | remove other =>
      cases htarget
      exact filter_eraseP policy.directives name
  | modify other edits =>
      cases htarget
      exact filter_modifyFirst policy.directives name _ fun d => d.name_editAll edits
  | _ => cases htarget

/-- The directive of a name is found among the directives of all names but another. -/
theorem get?_eq_find?_others
    (policy : Policy)
    (name other : String)
    (hne : name ≠ other) :
    policy.get? name = (policy.others other).find? (·.name == name) := by
  rw [get?, others, List.find?_filter]
  congr 1
  funext d
  by_cases hd : d.name = name <;> simp [hd, hne]

theorem get?_eq_none_iff
    (policy : Policy)
    (name : String) :
    policy.get? name = none ↔ name ∉ policy.names :=
  find?_name_eq_none_iff policy.directives name

/-- Blank names are ignored. -/
theorem edit_add_of_isBlank
    (policy : Policy)
    (d : Directive)
    (hblank : Text.isBlank d.name = true) :
    policy.edit (.add d) = policy := by
  rw [edit, add, if_pos hblank]

/-- A name that is not blank is appended unless it is there. -/
theorem names_add
    (policy : Policy)
    (d : Directive)
    (hname : Text.isBlank d.name = false) :
    (policy.add d).names =
      if d.name ∈ policy.names then policy.names else policy.names ++ [d.name] := by
  rw [add, if_neg (by simp [hname])]
  exact map_name_place policy.directives d

/-- An edit drops names, or appends the name of the directive that it adds. -/
theorem names_edit
    (policy : Policy)
    (e : Edit) :
    (policy.edit e).names.Sublist policy.names ∨
      ∃ d, e = .add d ∧ Text.isBlank d.name = false ∧ d.name ∉ policy.names ∧
        (policy.edit e).names = policy.names ++ [d.name] := by
  cases e with
  | add d =>
      cases hblank : Text.isBlank d.name with
      | true =>
          rw [edit_add_of_isBlank policy d hblank]
          exact Or.inl (List.Sublist.refl _)
      | false =>
          have hnames := names_add policy d hblank
          rw [edit]
          by_cases hmem : d.name ∈ policy.names
          · rw [hnames, if_pos hmem]
            exact Or.inl (List.Sublist.refl _)
          · rw [if_neg hmem] at hnames
            exact Or.inr ⟨d, rfl, hblank, hmem, hnames⟩
  | remove name => exact Or.inl ((List.eraseP_sublist (l := policy.directives)).map _)
  | modify name edits =>
      have hnames :=
        map_name_modifyFirst policy.directives name (·.editAll edits) fun d => d.name_editAll edits
      refine Or.inl ?_
      rw [edit, modify, names, hnames]
      exact List.Sublist.refl _
  | reduce =>
      refine Or.inl ?_
      rw [edit, reduce, names, filter_map_removeDuplicates]
      exact map_name_filterMap_reduced? policy.directives
  | validate => exact Or.inl (List.Sublist.refl _)
  | resetReport => exact Or.inl (List.Sublist.refl _)

/-- What edits of a directive keep is kept by an edit of the policy, if new directives have it. -/
theorem forall_mem_edit
    (holds : Directive → Prop)
    (hedit : ∀ d e, holds d → holds (d.edit e))
    (policy : Policy)
    (e : Edit)
    (hpolicy : ∀ d ∈ policy.directives, holds d)
    (hadded : ∀ d, e = .add d → holds d) :
    ∀ d ∈ (policy.edit e).directives, holds d := by
  intro d hd
  cases e with
  | add other =>
      rw [edit, add] at hd
      split at hd
      · exact hpolicy d hd
      · rcases mem_place policy.directives other d hd with rfl | hold
        · exact hadded d rfl
        · exact hpolicy d hold
  | remove name => exact hpolicy d (List.mem_of_mem_eraseP hd)
  | modify name edits =>
      rcases mem_modifyFirst policy.directives name _ d hd with hold | ⟨other, hother, rfl⟩
      · exact hpolicy d hold
      · exact List.foldlRecOn edits Directive.edit (hpolicy other hother)
          fun changed hchanged e _ => hedit changed e hchanged
  | reduce =>
      obtain ⟨other, hother, rfl⟩ := List.mem_map.mp (List.mem_filter.mp hd).1
      exact hedit other .removeDuplicates (hpolicy other hother)
  | validate => exact hpolicy d hd
  | resetReport => exact hpolicy d hd

/-- The names of a policy tell its directives apart, and none of them is blank. -/
structure IsKeyed
    (policy : Policy) : Prop where
  distinct : policy.names.Nodup
  nonblank : ∀ name ∈ policy.names, Text.isBlank name = false

/-- An edit keeps the names distinct and not blank. -/
theorem isKeyed_edit
    (policy : Policy)
    (e : Edit)
    (hkeyed : policy.IsKeyed) :
    (policy.edit e).IsKeyed := by
  rcases names_edit policy e with hsublist | ⟨d, -, hblank, hnew, hnames⟩
  · exact ⟨hkeyed.distinct.sublist hsublist, fun name hname =>
      hkeyed.nonblank name (hsublist.subset hname)⟩
  · constructor
    · rw [hnames, List.nodup_append]
      refine ⟨hkeyed.distinct, by simp, ?_⟩
      intro old hold new hmem heq
      rw [List.mem_singleton] at hmem
      exact hnew (hmem ▸ heq ▸ hold)
    · intro name hname
      rw [hnames, List.mem_append, List.mem_singleton] at hname
      rcases hname with hold | rfl
      · exact hkeyed.nonblank name hold
      · exact hblank

/-- The directive that an edit adds under a name. -/
def Edit.addedUnder?
    (name : String) :
    Edit → Option Directive
  | .add d => if d.name = name then some d else none
  | _ => none

theorem Edit.addedUnder?_eq_some_iff
    (e : Edit)
    (name : String)
    (d : Directive) :
    e.addedUnder? name = some d ↔ e = .add d ∧ d.name = name := by
  cases e with
  | add other =>
      simp only [Edit.addedUnder?, Option.ite_none_right_eq_some, Option.some.injEq,
        Edit.add.injEq]
      constructor
      · rintro ⟨hname, rfl⟩
        exact ⟨rfl, hname⟩
      · rintro ⟨rfl, hname⟩
        exact ⟨hname, rfl⟩
  | _ => simp [Edit.addedUnder?]

theorem Edit.addedUnder?_eq_none_iff
    (e : Edit)
    (name : String) :
    e.addedUnder? name = none ↔ ∀ d, e = .add d → d.name ≠ name := by
  cases e <;> simp [addedUnder?]

/-- What an edit that adds nothing under a name makes of the directive of the name. -/
def Edit.later
    (name : String) :
    Edit → Directive → Option Directive
  | .remove other, d => if other = name then none else some d
  | .modify other edits, d => some (if other = name then d.editAll edits else d)
  | .reduce, d => d.reduced?
  | _, d => some d

/-- An edit of one name neither adds, drops nor changes the directive of another. -/
theorem Edit.later_of_target_ne
    (e : Edit)
    (name other : String)
    (htarget : e.target? = some other)
    (hne : name ≠ other) :
    e.addedUnder? name = none ∧ ∀ d, e.later name d = some d := by
  cases e with
  | add d =>
      cases htarget
      exact ⟨if_neg (Ne.symm hne), fun _ => rfl⟩
  | remove removed =>
      cases htarget
      exact ⟨rfl, fun d => if_neg (Ne.symm hne)⟩
  | modify modified edits =>
      cases htarget
      exact ⟨rfl, fun d => by rw [later, if_neg (Ne.symm hne)]⟩
  | _ => cases htarget

theorem get?_edit_of_target_ne
    (policy : Policy)
    (e : Edit)
    (name other : String)
    (htarget : e.target? = some other)
    (hne : name ≠ other) :
    (policy.edit e).get? name =
      (e.addedUnder? name).or ((policy.get? name).bind (e.later name)) := by
  obtain ⟨hadded, hlater⟩ := e.later_of_target_ne name other htarget hne
  rw [get?_eq_find?_others _ name other hne, others_edit policy e other htarget,
    ← get?_eq_find?_others policy name other hne, hadded, Option.none_or]
  cases policy.get? name with
  | none => rfl
  | some d => exact (hlater d).symm

/-- A directive that is added is found under its name, and changes nothing under another. -/
theorem get?_add
    (policy : Policy)
    (d : Directive)
    (hname : Text.isBlank d.name = false)
    (name : String) :
    (policy.add d).get? name = if d.name = name then some d else policy.get? name := by
  by_cases hd : d.name = name
  · subst hd
    rw [if_pos rfl, add, if_neg (by simp [hname])]
    exact find?_place policy.directives d
  · have hkept := get?_edit_of_target_ne policy (.add d) name d.name rfl (Ne.symm hd)
    rw [Edit.addedUnder?, if_neg hd, Option.none_or] at hkept
    rw [if_neg hd]
    exact hkept.trans (Option.bind_fun_some _)

/-- An edit adds a directive under a name, or changes or drops the one that is there. -/
theorem get?_edit
    (policy : Policy)
    (e : Edit)
    (name : String)
    (hkeyed : policy.IsKeyed)
    (hname : Text.isBlank name = false) :
    (policy.edit e).get? name =
      (e.addedUnder? name).or ((policy.get? name).bind (e.later name)) := by
  cases e with
  | add d =>
      by_cases hd : name = d.name
      · subst hd
        rw [Edit.addedUnder?, if_pos rfl, Option.some_or, edit, get?_add policy d hname,
          if_pos rfl]
      · exact get?_edit_of_target_ne policy (.add d) name d.name rfl hd
  | remove other =>
      by_cases hother : name = other
      · subst hother
        rw [edit, remove, get?, find?_eraseP policy.directives name hkeyed.distinct]
        cases policy.get? name <;> simp [Edit.addedUnder?, Edit.later]
      · exact get?_edit_of_target_ne policy (.remove other) name other rfl hother
  | modify other edits =>
      by_cases hother : name = other
      · subst hother
        have hfound :=
          find?_modifyFirst policy.directives name (·.editAll edits) fun d => d.name_editAll edits
        rw [edit, modify, get?, hfound, get?]
        cases policy.directives.find? (·.name == name) <;> simp [Edit.addedUnder?, Edit.later]
      · exact get?_edit_of_target_ne policy (.modify other edits) name other rfl hother
  | reduce =>
      have hfound := find?_filterMap_reduced? policy.directives name hkeyed.distinct
      rw [edit, reduce, get?, filter_map_removeDuplicates, hfound]
      exact Option.none_or.symm
  | validate => cases hfound : policy.get? name <;> exact hfound
  | resetReport => cases hfound : policy.get? name <;> exact hfound

end Policy
end ContentSecurity
