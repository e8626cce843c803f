/-!
# TOML values

A table remembers how it came about, because that decides which later lines may
still add to it.
-/

namespace ContentSecurity
namespace Toml

/-- How a table came about. -/
inductive Origin where
  /-- By a header of its own. -/
  | header
  /-- By the header of a table inside it. -/
  | implied
  /-- By a dotted key. -/
  | dotted
  /-- By braces. -/
  | inline
deriving DecidableEq, Repr

/-- A value of a TOML text. -/
inductive Value where
  | text
      (value : String)
  | boolean
      (value : Bool)
  /-- A whole number in its base, as it is written without the mark of the base and underscores. -/
  | integer
      (base : Nat)
      (digits : List Char)
  /-- A number with a fraction or an exponent, as it is written without underscores. -/
  | float
      (digits : List Char)
  | dateTime
      (digits : List Char)
  | list
      (items : List Value)
  | table
      (origin : Origin)
      (entries : List (String × Value))
  /-- Tables that were added one by one under a common header. -/
  | tables
      (elements : List (List (String × Value)))
deriving Repr

/-- The keys of a table with their values. -/
abbrev Entries : Type :=
  List (String × Value)

end Toml
end ContentSecurity
