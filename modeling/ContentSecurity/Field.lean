/-!
# Fields of structures

Taking a structure apart yields for each of its fields the value that is given
for it, or nothing.  A field must then be given, or it has a standard value.
-/

namespace ContentSecurity
namespace Field

/-- A field that must be given. -/
def required?
    {α β : Type}
    (read? : α → Option β) :
    Option α → Option β
  | some given => read? given
  | none => none

/-- A field with a standard value; a value that is given must still be readable. -/
def optional?
    {α β : Type}
    (standard : β)
    (read? : α → Option β) :
    Option α → Option β
  | some given => read? given
  | none => some standard

end Field
end ContentSecurity
