import ContentSecurity.Proofs.Directive.Edits
import ContentSecurity.Proofs.Directive.Findings
import ContentSecurity.Proofs.Directive.WrittenForm
import Mathlib.Data.List.Basic
import Mathlib.Data.List.Flatten

/-!
# Dropping repeated values

Repeated plain values are dropped so that every value stays where it first
occurs.  Such a directive has the same tokens as before, as a set, and the
validation finds nothing in it that it would not have found before.

A caution can be lost, since values only combine with others if there are at
least two of them; a fault is lost only if the same value has it elsewhere.
-/

namespace ContentSecurity
namespace Directive

/-- The texts of a list, each of them once, in the order in which they first occur. -/
structure KeepsFirstOccurrences
    (all kept : List String) : Prop where
  mem_iff : ∀ value, value ∈ kept ↔ value ∈ all
  nodup : kept.Nodup
  inOrder : kept.Pairwise fun a b => all.idxOf a < all.idxOf b

theorem firstOccurrences_sublist
    (values : List String) :
    (firstOccurrences values).Sublist values := by
  induction values with
  | nil => exact List.Sublist.refl _
  | cons value values ih => exact (List.filter_sublist.trans ih).cons_cons value

theorem nodup_firstOccurrences
    (values : List String) :
    (firstOccurrences values).Nodup := by
  induction values with
  | nil => exact List.nodup_nil
  | cons value values ih =>
      have hnew : value ∉ (firstOccurrences values).filter (· != value) := by simp
      exact List.nodup_cons.mpr ⟨hnew, ih.filter _⟩

/-- A value that stays behind another also occurs behind it for the first time. -/
theorem pairwise_idxOf_firstOccurrences
    (values : List String) :
    (firstOccurrences values).Pairwise fun a b => values.idxOf a < values.idxOf b := by
  induction values with
  | nil => exact List.Pairwise.nil
  | cons value values ih =>
      -- What stays behind the head differs from it, so all its indices move up by one.
      have hne : ∀ a ∈ (firstOccurrences values).filter (· != value), value ≠ a := by
        intro a ha
        have hkept := (List.mem_filter.mp ha).2
        exact fun h => by simp [h] at hkept
      refine List.Pairwise.cons ?_ ((ih.filter _).imp_of_mem fun {a b} ha hb hlt => ?_)
      · intro a ha
        rw [List.idxOf_cons_self, List.idxOf_cons_ne values (hne a ha)]
        exact Nat.succ_pos _
      · rw [List.idxOf_cons_ne values (hne a ha), List.idxOf_cons_ne values (hne b hb)]
        exact Nat.succ_lt_succ hlt

theorem keepsFirstOccurrences_firstOccurrences
    (values : List String) :
    KeepsFirstOccurrences values (firstOccurrences values) where
  mem_iff := mem_firstOccurrences values
  nodup := nodup_firstOccurrences values
  inOrder := pairwise_idxOf_firstOccurrences values

theorem firstOccurrences_of_nodup
    (values : List String)
    (hnodup : values.Nodup) :
    firstOccurrences values = values := by
  induction values with
  | nil => rfl
  | cons value values ih =>
      obtain ⟨hnew, hrest⟩ := List.nodup_cons.mp hnodup
      have hall : values.filter (· != value) = values := by
        refine List.filter_eq_self.mpr fun other hother => ?_
        have hne : other ≠ value := fun h => hnew (h ▸ hother)
        simpa using hne
      rw [firstOccurrences, ih hrest, hall]

/-- A text at the end is dropped exactly if it occurs before. -/
theorem firstOccurrences_concat
    (values : List String)
    (last : String) :
    firstOccurrences (values ++ [last]) =
      if last ∈ values then firstOccurrences values else firstOccurrences values ++ [last] := by
  induction values with
  | nil => rfl
  | cons value values ih =>
      rw [List.cons_append, firstOccurrences, ih, firstOccurrences]
      by_cases hlast : last ∈ values
      · rw [if_pos hlast, if_pos (List.mem_cons_of_mem _ hlast)]
      · rw [if_neg hlast, List.filter_append]
        by_cases hvalue : last = value
        · simp [hvalue]
        · simp [hlast, hvalue]

theorem firstOccurrences_eq_nil_iff
    (values : List String) :
    firstOccurrences values = [] ↔ values = [] := by
  cases values <;> simp [firstOccurrences]

section Directive

variable (d : Directive)

theorem isEmpty_removeDuplicates : d.removeDuplicates.isEmpty = d.isEmpty := by
  have hvalues := firstOccurrences_eq_nil_iff d.values
  rw [Bool.eq_iff_iff, isEmpty_iff, isEmpty_iff, ← hvalues]
  rfl

theorem removeDuplicates_removeDuplicates :
    d.removeDuplicates.removeDuplicates = d.removeDuplicates := by
  have hvalues := firstOccurrences_of_nodup _ (nodup_firstOccurrences d.values)
  simp only [removeDuplicates, hvalues]

theorem removeDuplicates_of_nodup
    (hnodup : d.values.Nodup) :
    d.removeDuplicates = d := by
  rw [removeDuplicates, firstOccurrences_of_nodup d.values hnodup]

theorem mem_tokens_removeDuplicates
    (token : String) :
    token ∈ d.removeDuplicates.tokens ↔ token ∈ d.tokens := by
  have hvalues := mem_firstOccurrences d.values token
  simp only [tokens, removeDuplicates, List.mem_append, List.mem_cons, hvalues]
  rfl

/-- The faults that are left stood in the same order before. -/
theorem faults_removeDuplicates_sublist :
    d.removeDuplicates.faults.Sublist d.faults := by
  have hvalues := (firstOccurrences_sublist d.values).flatMap (valueFaults d.kind)
  exact ((hvalues.append_right _).append_right _).append_right _

/-- No value is lost, so no reason for a fault is lost. -/
theorem faults_removeDuplicates_eq_nil_iff :
    d.removeDuplicates.faults = [] ↔ d.faults = [] := by
  have hvalues :
      (firstOccurrences d.values).flatMap (valueFaults d.kind) = [] ↔
        d.values.flatMap (valueFaults d.kind) = [] := by
    simp only [List.flatMap_eq_nil_iff, mem_firstOccurrences]
  simp only [faults, List.append_eq_nil_iff]
  exact and_congr_left fun _ => and_congr_left fun _ => and_congr_left fun _ => hvalues

theorem mentions_removeDuplicates
    (keyword : String) :
    d.removeDuplicates.mentions keyword = d.mentions keyword := by
  rw [Bool.eq_iff_iff, mentions, mentions, List.any_eq_true, List.any_eq_true]
  simp only [removeDuplicates, mem_firstOccurrences]

/-- With fewer values there are fewer combinations to warn of. -/
theorem cautions_removeDuplicates_sublist :
    d.removeDuplicates.cautions.Sublist d.cautions := by
  have hlength : d.removeDuplicates.values.length ≤ d.values.length :=
    (firstOccurrences_sublist d.values).length_le
  have hcombinations : d.removeDuplicates.combinationCautions.Sublist d.combinationCautions := by
    simp only [combinationCautions, mentions_removeDuplicates]
    by_cases hone : d.removeDuplicates.values.length ≤ 1
    · rw [if_pos hone]
      exact List.nil_sublist _
    · have hmore : ¬ d.values.length ≤ 1 := by omega
      rw [if_neg hone, if_neg hmore]
  unfold cautions
  cases hkind : d.kind with
  | keyword rule => simp [removeDuplicates, hkind]
  | sourceList => simpa [removeDuplicates, hkind] using hcombinations
  | inline nonces hashes => simpa [removeDuplicates, hkind] using hcombinations

end Directive

end Directive
end ContentSecurity
