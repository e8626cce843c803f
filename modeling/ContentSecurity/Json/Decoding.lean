import ContentSecurity.Json.Value
import ContentSecurity.Text.Decimal

/-!
# Reading typed data out of JSON values

A structure is written as a record, or as a list of its fields in order.  A
record may hold members that the structure does not have, but none of its fields
twice; a list may break off, but may not be longer than the structure.

One of several alternatives is written as its name, or as a record with the name
as its only key.
-/

namespace ContentSecurity
namespace Json
namespace Value

/-- Whether a value stands for nothing. -/
def isNull : Value → Bool
  | null => true
  | _ => false

/-- A truth value. -/
def boolean? : Value → Option Bool
  | boolean value => some value
  | _ => none

/-- The text of a string. -/
def string? : Value → Option String
  | text value => value
  | _ => none

/-- The items of a list, each read in the same way. -/
def list?
    {α : Type}
    (item? : Value → Option α) :
    Value → Option (List α)
  | list items => items.mapM item?
  | _ => none

/-- The texts of a list of strings. -/
def strings? : Value → Option (List String) :=
  list? string?

/-- A number without sign, fraction and exponent that fits into 64 bits. -/
def natural64? : Value → Option UInt64
  | number digits =>
      if digits.all Char.isDigit && Text.decimalValue digits < Nat.pow 2 64 then
        some (UInt64.ofNat (Text.decimalValue digits))
      else
        none
  | _ => none

/-- The one value of a key; a key may be missing but may not repeat. -/
def member?
    (members : List (Option String × Value))
    (key : String) :
    Option (Option Value) :=
  match members.filter (·.1 == some key) with
  | [] => some none
  | [(_, value)] => some (some value)
  | _ => none

/-- The fields of a structure, each with its value if it is given. -/
def fields?
    (names : List String) :
    Value → Option (List (Option Value))
  | record members =>
      if members.all (·.1.isSome) then names.mapM (member? members) else none
  | list items =>
      if items.length ≤ names.length then
        some (items.map some ++ List.replicate (names.length - items.length) none)
      else
        none
  | _ => none

/-- Whether a value is a record. -/
def isRecord : Value → Bool
  | record _ => true
  | _ => false

/-- An alternative by its name, with what is given for it. -/
def alternative? : Value → Option (String × Option Value)
  | text (some name) => some (name, none)
  | record [(some name, value)] => some (name, some value)
  | _ => none

/-- The name of an alternative that takes nothing; a null may stand for the nothing. -/
def plainAlternative?
    (value : Value) :
    Option String :=
  match value.alternative? with
  | some (name, none) => some name
  | some (name, some given) => if given.isNull then some name else none
  | none => none

end Value

end Json
end ContentSecurity
