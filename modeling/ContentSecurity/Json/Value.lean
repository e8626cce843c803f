/-!
# JSON values

A value is what a JSON text says.  Numbers are kept as they are written, and a
string whose escapes do not pair up to characters is kept as a string without a
text, since only a reader who wants the text minds.
-/

namespace ContentSecurity
namespace Json

/-- A JSON value; the members of a record keep their order and may repeat a key. -/
inductive Value where
  | null
  | boolean
      (value : Bool)
  | number
      (digits : List Char)
  | text
      (value : Option String)
  | list
      (items : List Value)
  | record
      (members : List (Option String × Value))
deriving Repr

end Json
end ContentSecurity
