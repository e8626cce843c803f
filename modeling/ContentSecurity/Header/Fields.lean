import ContentSecurity.Text.Lowercase

/-!
# Header fields

The fields of a response, as a list of names and values.  Names are kept in
lower case and may occur more than once; setting a field replaces all of its
values.

The main statements say what adding and setting do to the values of a name.
-/

namespace ContentSecurity

/-- Names in lower case with their values. -/
structure Fields where
  entries : List (String × String) := []
deriving DecidableEq, Repr

namespace Fields

/-- Characters of a field name. -/
def isNameChar
    (c : Char) :
    Bool :=
  c.isAlphanum || "!#$%&'*+-.^_`|~".toList.contains c

/-- The longest field name. -/
def maxNameLength : Nat := 65535

/-- A field name is not empty, not too long, and made of name characters. -/
def isName
    (text : String) :
    Bool :=
  text != "" && text.length ≤ maxNameLength && text.toList.all isNameChar

/-- A field value holds no control character of ASCII but the tab. -/
def isValue
    (text : String) :
    Bool :=
  text.toList.all fun c => c == '\t' || 0x20 ≤ c.toNat && c != '\x7f'

/-- The name under which a field is kept. -/
def canonicalName
    (name : String) :
    String :=
  Text.lowerAscii name

/-- The values of a name, in order. -/
def valuesOf
    (fields : Fields)
    (name : String) :
    List String :=
  (fields.entries.filter (·.1 == canonicalName name)).map (·.2)

/-- Adds one more value to a name. -/
def append
    (fields : Fields)
    (name value : String) :
    Fields :=
  { entries := fields.entries ++ [(canonicalName name, value)] }

/-- Makes a value the only one of its name. -/
def set
    (fields : Fields)
    (name value : String) :
    Fields :=
  { entries :=
      fields.entries.filter (·.1 != canonicalName name) ++ [(canonicalName name, value)] }

/-- Sets names and values in their order. -/
def setAll
    (fields : Fields)
    (entries : List (String × String)) :
    Fields :=
  entries.foldl (fun fields entry => fields.set entry.1 entry.2) fields

theorem valuesOf_append
    (fields : Fields)
    (name value other : String) :
    (fields.append name value).valuesOf other =
      fields.valuesOf other ++
        (if canonicalName name = canonicalName other then [value] else []) := by
  by_cases hname : canonicalName name = canonicalName other <;>
    simp [valuesOf, append, List.filter_append, hname]

theorem valuesOf_set
    (fields : Fields)
    (name value other : String) :
    (fields.set name value).valuesOf other =
      if canonicalName name = canonicalName other then [value] else fields.valuesOf other := by
  by_cases hname : canonicalName name = canonicalName other
  · simp [valuesOf, set, List.filter_append, List.filter_filter, hname]
  · have hkept :
        (fields.entries.filter (·.1 != canonicalName name)).filter
            (·.1 == canonicalName other) =
          fields.entries.filter (·.1 == canonicalName other) := by
      rw [List.filter_filter]
      apply List.filter_congr
      intro entry _
      by_cases hentry : entry.1 = canonicalName other
      · simp [hentry, Ne.symm hname]
      · simp [hentry]
    simp [valuesOf, set, List.filter_append, hkept, hname]

end Fields
end ContentSecurity
