import ContentSecurity.Toml.Number

/-!
# Reading typed data out of TOML values

A structure is written as a table, or as an array of its fields in order.  A
table may hold keys that the structure does not have, as long as their numbers
are within range; of an array only as many items count as there are fields.

One of several alternatives is written as its name, or as a table with the name
as its only key and nothing under it.
-/

namespace ContentSecurity
namespace Toml
namespace Value

mutual

/-- Whether every number in a value is within range. -/
def isInRange : Value → Bool
  | integer base digits => (integerValue? base digits).any isWideInteger
  | float digits => isFiniteFloat digits
  | list items => areItemsInRange items
  | table _ entries => areEntriesInRange entries
  | tables elements => areElementsInRange elements
  | _ => true

/-- Whether every number in some items is within range. -/
def areItemsInRange : List Value → Bool
  | [] => true
  | item :: items => isInRange item && areItemsInRange items

/-- Whether every number in some entries is within range. -/
def areEntriesInRange : List (String × Value) → Bool
  | [] => true
  | (_, value) :: entries => isInRange value && areEntriesInRange entries

/-- Whether every number in some tables is within range. -/
def areElementsInRange : List (List (String × Value)) → Bool
  | [] => true
  | entries :: elements => areEntriesInRange entries && areElementsInRange elements

end

/-- A truth value. -/
def boolean? : Value → Option Bool
  | boolean value => some value
  | _ => none

/-- The text of a string. -/
def string? : Value → Option String
  | text value => some value
  | _ => none

/-- The items of an array, or the tables under a common header. -/
def items? : Value → Option (List Value)
  | list items => some items
  | tables elements => some (elements.map (table .header))
  | _ => none

/-- The items of an array, each read in the same way. -/
def list?
    {α : Type}
    (item? : Value → Option α)
    (value : Value) :
    Option (List α) :=
  value.items?.bind (·.mapM item?)

/-- The texts of an array of strings. -/
def strings? : Value → Option (List String) :=
  list? string?

/-- The fields of a structure in a table; what the structure does not have must be in range. -/
def fieldsOfEntries?
    (names : List String)
    (entries : List (String × Value)) :
    Option (List (Option Value)) :=
  if entries.all fun entry => names.contains entry.1 || entry.2.isInRange then
    some (names.map fun name => (entries.find? (·.1 == name)).map (·.2))
  else
    none

/-- The fields of a structure, each with its value if it is given. -/
def fields?
    (names : List String)
    (value : Value) :
    Option (List (Option Value)) :=
  match value with
  | table _ entries => fieldsOfEntries? names entries
  | _ =>
      value.items?.map fun items =>
        (items.take names.length).map some ++ List.replicate (names.length - items.length) none

/-- Whether a table or an array holds nothing. -/
def isVoid : Value → Bool
  | list items => items.isEmpty
  | table _ entries => entries.isEmpty
  | _ => false

/-- The name of an alternative that takes nothing. -/
def plainAlternative? : Value → Option String
  | text name => some name
  | table _ [(name, given)] => if given.isVoid then some name else none
  | _ => none

end Value
end Toml
end ContentSecurity
