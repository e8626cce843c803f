import ContentSecurity.Header.Collection

/-!
# Applying a collection of headers

A collection is sent in three stages: its headers are validated, their names and
values are read, and only then are fields set.  This module shows that a reason
against sending, at whichever stage it is found, leaves every field as it was,
and says which values the fields have after all stages were passed.

The names of fields are compared without regard to ASCII case, so a collection
can send several values under one name.  The last of them replaces all others.
-/

namespace ContentSecurity
namespace Fields

/-- The value of an entry if its name is the given one, ASCII case aside. -/
def valueUnder?
    (name : String)
    (entry : String × String) :
    Option String :=
  if Text.equalIgnoringAsciiCase entry.1 name then some entry.2 else none

/-- After entries were set, a name has the value of the last entry under it. -/
theorem valuesOf_setAll
    (fields : Fields)
    (entries : List (String × String))
    (name : String) :
    (fields.setAll entries).valuesOf name =
      match (entries.filterMap (valueUnder? name)).getLast? with
      | some value => [value]
      | none => fields.valuesOf name := by
  induction entries generalizing fields with
  | nil => rfl
  | cons entry entries ih =>
      have hset := valuesOf_set fields entry.1 entry.2 name
      have hfirst :
          fields.setAll (entry :: entries) = (fields.set entry.1 entry.2).setAll entries := rfl
      rw [hfirst, ih, hset]
      by_cases hname : canonicalName entry.1 = canonicalName name
      · have hvalue : valueUnder? name entry = some entry.2 := by
          simpa [valueUnder?, Text.equalIgnoringAsciiCase, canonicalName] using hname
        rw [List.filterMap_cons_some hvalue, List.getLast?_cons]
        cases (entries.filterMap (valueUnder? name)).getLast? <;> simp [hname]
      · have hvalue : valueUnder? name entry = none := by
          simpa [valueUnder?, Text.equalIgnoringAsciiCase, canonicalName] using hname
        rw [List.filterMap_cons_none hvalue, if_neg hname]

end Fields

namespace Header

/-- A validated header keeps its field name. -/
@[simp] theorem fieldName_check
    (header : Header) :
    header.check.2.fieldName = header.fieldName := by
  cases header with
  | policy config =>
      simp only [check, fieldName, PolicyHeader.check, PolicyHeader.fieldName]
      split <;> rfl
  | _ => rfl

/-- A validated header keeps its field value: the findings are no part of it. -/
@[simp] theorem value?_check
    (header : Header) :
    header.check.2.value? = header.value? := by
  cases header with
  | policy config =>
      simp only [check, value?, PolicyHeader.check, PolicyHeader.value?]
      split
      · rfl
      · rename_i hpolicy
        rw [hpolicy]
        rfl
  | _ => rfl

/-- The value that a header sends under a name, ASCII case aside. -/
def sentUnder?
    (name : String)
    (header : Header) :
    Option String :=
  header.value?.bind fun value =>
    Fields.valueUnder? name
      (HeaderCollection.dropLineBreaks header.fieldName, HeaderCollection.dropLineBreaks value)

end Header

namespace HeaderCollection

@[simp] theorem build_check
    (collection : HeaderCollection) :
    collection.check.2.build = collection.build := by
  simp [check, build, List.filterMap_map, Function.comp_def]

/-- The first reason against sending is the one of the first header that has one. -/
theorem head?_check
    (collection : HeaderCollection) :
    collection.check.1.head? = collection.headers.findSome? (·.check.1) := by
  simp [check, List.filterMap_map, Function.comp_def, List.head?_filterMap]

theorem fieldError?_eq_findSome?
    (entries : List (String × String)) :
    fieldError? entries = entries.findSome? entryError? := by
  induction entries with
  | nil => rfl
  | cons entry entries ih =>
      cases hentry : entryError? entry with
      | none => simp [fieldError?, hentry, ih]
      | some error => simp [fieldError?, hentry]

/-- The values that are sent under a name come from the headers with that name. -/
theorem filterMap_valueUnder?_build
    (collection : HeaderCollection)
    (name : String) :
    collection.build.filterMap (Fields.valueUnder? name) =
      collection.headers.filterMap (Header.sentUnder? name) := by
  rw [build, List.filterMap_filterMap]
  congr 1
  funext header
  cases hvalue : header.value? <;> simp [Header.sentUnder?, hvalue]

/-- The first reason against sending a collection: validation comes before reading. -/
def firstError?
    (collection : HeaderCollection) :
    Option HeaderError :=
  (collection.headers.findSome? (·.check.1)).or (collection.build.findSome? entryError?)

/-- Sending is decided by the first reason against it. -/
theorem send_eq
    (collection : HeaderCollection)
    (fields : Fields) :
    collection.send fields =
      match collection.firstError? with
      | some error => (.error error, collection.check.2, fields)
      | none => (.ok (), collection.check.2, fields.setAll collection.build) := by
  have hfirst := head?_check collection
  have hbuild := build_check collection
  cases hcheck : collection.check with
  | mk errors checked =>
      rw [hcheck] at hfirst hbuild
      cases errors with
      | cons error errors =>
          have herror : collection.firstError? = some error := by
            rw [firstError?, ← hfirst, List.head?_cons, Option.some_or]
          simp only [send, hcheck, herror]
      | nil =>
          have hread : collection.firstError? = fieldError? collection.build := by
            rw [firstError?, ← hfirst, List.head?_nil, Option.none_or, fieldError?_eq_findSome?]
          cases herror : fieldError? collection.build with
          | some error => simp [send, hcheck, hbuild, hread, herror]
          | none => simp [send, hcheck, hbuild, hread, herror]

/--
A collection is sent as a whole or not at all.  If there is a reason against
sending, the first one is the outcome and the fields are left alone; if there is
none, a name has the one value that was sent last under it, or its former values.
-/
theorem send_sets_all_or_nothing
    (collection : HeaderCollection)
    (fields : Fields) :
    match collection.send fields with
    | (.error error, _, left) => left = fields ∧ collection.firstError? = some error
    | (.ok (), _, left) =>
        collection.firstError? = none ∧
          ∀ name : String,
            left.valuesOf name =
              match (collection.headers.filterMap (Header.sentUnder? name)).getLast? with
              | some value => [value]
              | none => fields.valuesOf name := by
  rw [send_eq]
  cases herror : collection.firstError? with
  | some error => exact ⟨rfl, rfl⟩
  | none =>
      refine ⟨rfl, fun name => ?_⟩
      rw [Fields.valuesOf_setAll, filterMap_valueUnder?_build]

end HeaderCollection
end ContentSecurity
