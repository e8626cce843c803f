import ContentSecurity.Toml.Table

/-!
# Arrays of tables

Every header of an array of tables adds an empty table at the end of the array,
and the entries below the header fill this table.  As long as no key repeats
within a table, the array becomes the list of the tables as they are written.

The step lemmas are `step?_element` and `step?_entry`, the lemma about one table
is `foldlM_entries`, and the main statement is `foldlM_elements`.
-/

namespace ContentSecurity
namespace Toml

section Lookup

variable {key : String} {entries : Entries}

theorem lookup?_eq_none_iff :
    lookup? key entries = none ↔ key ∉ entries.map (·.1) := by
  rw [lookup?, Option.map_eq_none_iff, List.find?_eq_none, List.mem_map]
  constructor
  · rintro habsent ⟨entry, hmem, rfl⟩
    exact habsent entry hmem (by simp)
  · intro habsent entry hmem hkey
    exact habsent ⟨entry, hmem, beq_iff_eq.mp hkey⟩

theorem lookup?_append_singleton
    (value : Value)
    (hfresh : lookup? key entries = none) :
    lookup? key (entries ++ [(key, value)]) = some value := by
  rw [lookup?, Option.map_eq_none_iff] at hfresh
  simp [lookup?, hfresh]

theorem assign_append_singleton
    (old value : Value)
    (hfresh : lookup? key entries = none) :
    assign key value (entries ++ [(key, old)]) = entries ++ [(key, value)] := by
  rw [lookup?_eq_none_iff] at hfresh
  induction entries with
  | nil => simp [assign]
  | cons entry entries ih =>
      rw [List.map_cons, List.mem_cons, not_or] at hfresh
      simp [assign, Ne.symm hfresh.1, ih hfresh.2]

theorem insert?_singleton
    (value : Value)
    (hfresh : lookup? key entries = none) :
    insert? value [key] entries = some (entries ++ [(key, value)]) := by
  rw [insert?, hfresh]

end Lookup

/-- The line of an entry with an undotted key. -/
def Statement.ofEntry
    (entry : String × Value) :
    Statement :=
  .entry [entry.1] entry.2

/-- The lines of one table of an array. -/
def elementStatements
    (key : String)
    (entries : Entries) :
    List Statement :=
  .element [] key :: entries.map .ofEntry

namespace Document

/-- A document that ends in an array of tables, unless there are none yet. -/
def withTables
    (base : Entries)
    (key : String) :
    List Entries → Document
  | [] => { entries := base }
  | elements => { entries := base ++ [(key, .tables elements)], current := [key] }

theorem withTables_concat
    (base : Entries)
    (key : String)
    (elements : List Entries)
    (element : Entries) :
    withTables base key (elements ++ [element]) =
      { entries := base ++ [(key, .tables (elements ++ [element]))], current := [key] } := by
  cases elements <;> rfl

section Steps

variable (base : Entries) (key : String) (hbase : lookup? key base = none)
variable (elements : List Entries)

include hbase

/-- A header adds an empty table, whether it is the first one or not. -/
theorem step?_element :
    (withTables base key elements).step? (.element [] key) =
      some (withTables base key (elements ++ [[]])) := by
  rw [withTables_concat]
  cases elements with
  | nil => simp [withTables, step?, within?, openElement?, hbase]
  | cons element elements =>
      simp [withTables, step?, within?, openElement?, lookup?_append_singleton _ hbase,
        assign_append_singleton _ _ hbase]

/-- An entry goes to the last table. -/
theorem step?_entry
    (element : Entries)
    (entry : String × Value)
    (hfresh : lookup? entry.1 element = none) :
    (withTables base key (elements ++ [element])).step? (.ofEntry entry) =
      some (withTables base key (elements ++ [element ++ [entry]])) := by
  rw [withTables_concat, withTables_concat]
  simp [step?, Statement.ofEntry, within?, lookup?_append_singleton _ hbase,
    insert?_singleton _ hfresh, assign_append_singleton _ _ hbase]

/-- Entries with different keys fill the last table in their order. -/
theorem foldlM_entries
    (element added : Entries)
    (hdistinct : ((element ++ added).map (·.1)).Nodup) :
    (added.map Statement.ofEntry).foldlM step? (withTables base key (elements ++ [element])) =
      some (withTables base key (elements ++ [element ++ added])) := by
  induction added generalizing element with
  | nil => simp
  | cons entry added ih =>
      have hfresh : lookup? entry.1 element = none := by
        rw [lookup?_eq_none_iff]
        rw [List.map_append, List.nodup_append] at hdistinct
        exact fun hmem => hdistinct.2.2 _ hmem _ List.mem_cons_self rfl
      rw [← List.singleton_append, ← List.append_assoc] at hdistinct
      rw [List.map_cons, List.foldlM_cons, step?_entry base key hbase elements element entry hfresh]
      have hrest := ih (element ++ [entry]) hdistinct
      rw [List.append_assoc] at hrest
      exact hrest

/-- Tables without repeated keys become the elements of the array. -/
theorem foldlM_elements
    (added : List Entries)
    (hdistinct : ∀ element ∈ added, (element.map (·.1)).Nodup) :
    (added.flatMap (elementStatements key)).foldlM step? (withTables base key elements) =
      some (withTables base key (elements ++ added)) := by
  induction added generalizing elements with
  | nil => simp
  | cons element added ih =>
      have hfilled :=
        foldlM_entries base key hbase elements [] element (hdistinct element List.mem_cons_self)
      have hrest := ih (elements ++ [element]) fun other hother =>
        hdistinct other (List.mem_cons_of_mem _ hother)
      rw [List.append_assoc] at hrest
      rw [List.flatMap_cons, List.foldlM_append, elementStatements, List.foldlM_cons,
        step?_element base key hbase, Option.bind_eq_bind, Option.bind_some, hfilled]
      exact hrest

end Steps

end Document
end Toml
end ContentSecurity
