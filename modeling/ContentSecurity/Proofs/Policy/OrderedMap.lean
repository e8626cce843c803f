import ContentSecurity.Proofs.Policy.Edits
import Mathlib.Data.List.Induction

/-!
# A policy as an ordered map

A policy that begins without directives and is changed by edits only behaves as
a map from names to directives that remembers the order of insertion.  Which
directive a name has, and where it stands, is read off the run of edits alone:

* the directive is the last one added under the name, with everything that later
  edits made of it;
* the names stand in the order of the additions that brought them in, where a
  replacement counts for nothing and an absence in between starts anew.

The main statement is `run_keeps_ordered_map`.
-/

namespace ContentSecurity
namespace Policy

/-- The policy after a run of edits that begins without directives. -/
def after
    (level : Level)
    (run : List Edit) :
    Policy :=
  (empty level).editAll run

theorem after_concat
    (level : Level)
    (run : List Edit)
    (e : Edit) :
    after level (run ++ [e]) = (after level run).edit e :=
  editAll_concat (empty level) run e

/-- Names stay distinct and not blank along a run. -/
theorem isKeyed_after
    (level : Level)
    (run : List Edit) :
    (after level run).IsKeyed := by
  induction run using List.reverseRecOn with
  | nil => exact ⟨List.nodup_nil, fun name hname => absurd hname List.not_mem_nil⟩
  | append_singleton run e ih =>
      rw [after_concat]
      exact isKeyed_edit _ e ih

/-- What edits of a directive keep holds along every run that adds such directives only. -/
theorem forall_mem_after
    (holds : Directive → Prop)
    (hedit : ∀ d e, holds d → holds (d.edit e))
    (level : Level)
    (run : List Edit)
    (hadded : ∀ d, .add d ∈ run → holds d) :
    ∀ d ∈ (after level run).directives, holds d := by
  induction run using List.reverseRecOn with
  | nil => exact fun d hd => absurd hd List.not_mem_nil
  | append_singleton run e ih =>
      rw [after_concat]
      refine forall_mem_edit holds hedit _ e (ih fun d hd => hadded d (by simp [hd])) ?_
      rintro d rfl
      exact hadded d (by simp)

/-- The directive last added under a name in a run, with what later edits made of it. -/
def IsLastAdded
    (run : List Edit)
    (name : String)
    (d : Directive) : Prop :=
  ∃ (before : List Edit) (added : Directive) (rest : List Edit),
    run = before ++ .add added :: rest ∧ added.name = name ∧
      (∀ other, Edit.add other ∈ rest → other.name ≠ name) ∧
        rest.foldlM (fun found e => e.later name found) added = some d

/-- One more edit adds the directive anew, or goes on with the one there was. -/
theorem isLastAdded_concat_iff
    (run : List Edit)
    (e : Edit)
    (name : String)
    (d : Directive) :
    IsLastAdded (run ++ [e]) name d ↔
      e.addedUnder? name = some d ∨
        e.addedUnder? name = none ∧ ∃ found, IsLastAdded run name found ∧
          e.later name found = some d := by
  constructor
  · rintro ⟨before, added, rest, hrun, hname, hlast, hrest⟩
    rcases rest.eq_nil_or_concat with rfl | ⟨rest, final, rfl⟩
    · obtain ⟨-, hadd⟩ := List.append_inj' hrun rfl
      cases hadd
      cases hrest
      exact Or.inl ((Edit.addedUnder?_eq_some_iff _ name d).mpr ⟨rfl, hname⟩)
    · rw [List.concat_eq_append] at hrun hlast hrest
      have hsplit : run ++ [e] = (before ++ .add added :: rest) ++ [final] := by
        simpa using hrun
      obtain ⟨hbefore, hfinal⟩ := List.append_inj' hsplit rfl
      cases hfinal
      rw [List.foldlM_append, Option.bind_eq_bind, Option.bind_eq_some_iff] at hrest
      obtain ⟨found, hfound, hlater⟩ := hrest
      refine Or.inr ⟨?_, found, ⟨before, added, rest, hbefore, hname, ?_, hfound⟩, ?_⟩
      · rw [Edit.addedUnder?_eq_none_iff]
        rintro other rfl
        exact hlast other (by simp)
      · exact fun other hother => hlast other (List.mem_append_left _ hother)
      · simpa using hlater
  · rintro (hadded | ⟨hnone, found, ⟨before, added, rest, rfl, hname, hlast, hrest⟩, hlater⟩)
    · obtain ⟨rfl, hname⟩ := (Edit.addedUnder?_eq_some_iff e name d).mp hadded
      exact ⟨run, d, [], rfl, hname, fun other hother => absurd hother List.not_mem_nil, rfl⟩
    · refine ⟨before, added, rest ++ [e], by simp, hname, ?_, ?_⟩
      · intro other hother
        rcases List.mem_append.mp hother with hold | hnew
        · exact hlast other hold
        · have hadd : e = .add other := (List.mem_singleton.mp hnew).symm
          exact (Edit.addedUnder?_eq_none_iff e name).mp hnone other hadd
      · simp [List.foldlM_append, hrest, hlater]

/-- A name that is not blank has the directive last added under it. -/
theorem get?_after_eq_some_iff
    (level : Level)
    (run : List Edit)
    (name : String)
    (hname : Text.isBlank name = false)
    (d : Directive) :
    (after level run).get? name = some d ↔ IsLastAdded run name d := by
  induction run using List.reverseRecOn generalizing d with
  | nil =>
      constructor
      · intro hfound
        cases hfound
      · rintro ⟨before, added, rest, hrun, -⟩
        simp at hrun
  | append_singleton run e ih =>
      rw [after_concat, get?_edit _ e name (isKeyed_after level run) hname,
        Option.or_eq_some_iff, Option.bind_eq_some_iff, isLastAdded_concat_iff]
      simp only [ih]

/--
The edit at an index of a run adds a directive under a name that was absent
before, and the name was never absent since.
-/
structure EntersAt
    (level : Level)
    (run : List Edit)
    (name : String)
    (index : Nat) : Prop where
  added : ∃ d, run[index]? = some (.add d) ∧ d.name = name
  absent : name ∉ (after level (run.take index)).names
  present : ∀ k, index < k → k ≤ run.length → name ∈ (after level (run.take k)).names

theorem EntersAt.lt_length
    {level : Level}
    {run : List Edit}
    {name : String}
    {index : Nat}
    (henters : EntersAt level run name index) :
    index < run.length := by
  obtain ⟨d, hadd, -⟩ := henters.added
  exact (List.getElem?_eq_some_iff.mp hadd).1

theorem EntersAt.unique
    {level : Level}
    {run : List Edit}
    {name : String}
    {index other : Nat}
    (henters : EntersAt level run name index)
    (hother : EntersAt level run name other) :
    index = other := by
  rcases Nat.lt_trichotomy index other with hlt | heq | hlt
  · exact absurd (henters.present other hlt (Nat.le_of_lt hother.lt_length)) hother.absent
  · exact heq
  · exact absurd (hother.present index hlt (Nat.le_of_lt henters.lt_length)) henters.absent

/-- A name that is still present after one more edit entered where it did before. -/
theorem EntersAt.concat
    {level : Level}
    {run : List Edit}
    {name : String}
    {index : Nat}
    (henters : EntersAt level run name index)
    (e : Edit)
    (hpresent : name ∈ (after level (run ++ [e])).names) :
    EntersAt level (run ++ [e]) name index := by
  have hlt := henters.lt_length
  constructor
  · rw [List.getElem?_append_left hlt]
    exact henters.added
  · rw [List.take_append_of_le_length (Nat.le_of_lt hlt)]
    exact henters.absent
  · intro k hk hlength
    by_cases hend : k ≤ run.length
    · rw [List.take_append_of_le_length hend]
      exact henters.present k hk hend
    · rw [List.take_of_length_le (by simp; omega)]
      exact hpresent

/-- A name that was absent enters with the last edit. -/
theorem entersAt_length
    (level : Level)
    (run : List Edit)
    (d : Directive)
    (habsent : d.name ∉ (after level run).names)
    (hpresent : d.name ∈ (after level (run ++ [.add d])).names) :
    EntersAt level (run ++ [.add d]) d.name run.length := by
  constructor
  · exact ⟨d, by simp, rfl⟩
  · rwa [List.take_left]
  · intro k hk hlength
    rw [List.take_of_length_le (by simp; omega)]
    exact hpresent

/-- The names stand in the order in which they entered. -/
theorem exists_entry
    (level : Level)
    (run : List Edit) :
    ∃ entry : String → Nat,
      (∀ name ∈ (after level run).names, EntersAt level run name (entry name)) ∧
        (after level run).names.Pairwise fun a b => entry a < entry b := by
  induction run using List.reverseRecOn with
  | nil => exact ⟨fun _ => 0, fun name hname => absurd hname List.not_mem_nil, List.Pairwise.nil⟩
  | append_singleton run e ih =>
      obtain ⟨entry, henters, horder⟩ := ih
      have hafter := after_concat level run e
      rcases names_edit (after level run) e with hsublist | ⟨d, rfl, -, habsent, hnames⟩
      · rw [← hafter] at hsublist
        refine ⟨entry, fun name hname => ?_, horder.sublist hsublist⟩
        exact (henters name (hsublist.subset hname)).concat e hname
      · rw [← hafter] at hnames
        have hold : ∀ name ∈ (after level run).names, name ≠ d.name :=
          fun name hname h => habsent (h ▸ hname)
        -- The new name is the only one whose entry is not known yet.
        obtain ⟨extended, hlast, hsame⟩ :
            ∃ extended : String → Nat,
              extended d.name = run.length ∧
                ∀ name, name ≠ d.name → extended name = entry name :=
          ⟨fun name => if name = d.name then run.length else entry name, if_pos rfl,
            fun name hname => if_neg hname⟩
        refine ⟨extended, ?_, ?_⟩
        · intro name hname
          by_cases hnew : name = d.name
          · subst hnew
            rw [hlast]
            exact entersAt_length level run d habsent hname
          · rw [hsame name hnew]
            have hmem : name ∈ (after level run).names := by
              rw [hnames, List.mem_append, List.mem_singleton] at hname
              exact hname.resolve_right hnew
            exact (henters name hmem).concat _ hname
        · rw [hnames, List.pairwise_append]
          refine ⟨?_, List.pairwise_singleton _ _, ?_⟩
          · refine horder.imp_of_mem fun {a b} ha hb hlt => ?_
            rwa [hsame a (hold a ha), hsame b (hold b hb)]
          · intro a ha b hb
            rw [List.mem_singleton] at hb
            rw [hsame a (hold a ha), hb, hlast]
            exact (henters a ha).lt_length

/--
Along every run of edits a policy is a map from names to directives in the order
of insertion: names are distinct and not blank, a name has the directive last
added under it, and the names stand in the order in which they entered.  An edit
of one name leaves all other directives alone, and an addition without a name
changes nothing.
-/
theorem run_keeps_ordered_map
    (level : Level)
    (run : List Edit) :
    (after level run).names.Nodup ∧
    (∀ name ∈ (after level run).names, Text.trim name ≠ "") ∧
    (∀ name d,
      (after level run).get? name = some d ↔ Text.trim name ≠ "" ∧ IsLastAdded run name d) ∧
    (∃ entry : String → Nat,
      (∀ name ∈ (after level run).names, ∀ index,
        EntersAt level run name index ↔ index = entry name) ∧
      (after level run).names.Pairwise fun a b => entry a < entry b) ∧
    (∀ e name, Edit.target? e = some name →
      (after level (run ++ [e])).others name = (after level run).others name) ∧
    ∀ d, Text.trim d.name = "" → after level (run ++ [.add d]) = after level run := by
  have hkeyed := isKeyed_after level run
  have hblank : ∀ name, Text.isBlank name = false ↔ Text.trim name ≠ "" := by
    intro name
    rw [← Bool.not_eq_true, Text.isBlank_iff_trim_eq_empty]
  refine ⟨hkeyed.distinct, fun name hname => (hblank name).mp (hkeyed.nonblank name hname), ?_,
    ?_, fun e name htarget => ?_, fun d hd => ?_⟩
  · intro name d
    constructor
    · intro hfound
      have hmem : name ∈ (after level run).names := by
        by_cases hmem : name ∈ (after level run).names
        · exact hmem
        · rw [← get?_eq_none_iff, hfound] at hmem
          cases hmem
      have hname := hkeyed.nonblank name hmem
      exact ⟨(hblank name).mp hname, (get?_after_eq_some_iff level run name hname d).mp hfound⟩
    · rintro ⟨hname, hlast⟩
      exact (get?_after_eq_some_iff level run name ((hblank name).mpr hname) d).mpr hlast
  · obtain ⟨entry, henters, horder⟩ := exists_entry level run
    refine ⟨entry, fun name hname index => ⟨fun h => h.unique (henters name hname), ?_⟩, horder⟩
    rintro rfl
    exact henters name hname
  · rw [after_concat]
    exact others_edit _ e name htarget
  · rw [after_concat]
    exact edit_add_of_isBlank _ d ((Text.isBlank_iff_trim_eq_empty d.name).mpr hd)

end Policy
end ContentSecurity
