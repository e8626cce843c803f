import ContentSecurity.Text.Hex

/-!
# Writing TOML texts

Strings are written as basic strings, arrays on one line, and keys bare.  The
callers choose keys that need no quotes.
-/

namespace ContentSecurity
namespace Toml

/-- A character inside a basic string. -/
def writeChar
    (c : Char) :
    List Char :=
  if c = '"' || c = '\\' || c = '\x7f' || c.toNat < 0x20 then
    ['\\', 'u', '0', '0', Text.hexDigit (c.toNat / 16), Text.hexDigit (c.toNat % 16)]
  else
    [c]

/-- A basic string. -/
def writeText
    (s : String) :
    List Char :=
  '"' :: s.toList.flatMap writeChar ++ ['"']

/-- An array on one line. -/
def writeList
    {α : Type}
    (writeItem : α → List Char)
    (items : List α) :
    List Char :=
  '[' :: (", ".toList.intercalate (items.map writeItem)) ++ [']']

/-- A line with a key and its value. -/
def writeEntry
    (key : String)
    (value : List Char) :
    List Char :=
  key.toList ++ " = ".toList ++ value ++ ['\n']

end Toml
end ContentSecurity
