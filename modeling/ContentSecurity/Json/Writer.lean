import ContentSecurity.Json.Value
import ContentSecurity.Text.Decimal
import ContentSecurity.Text.Hex

/-!
# Writing JSON texts

The written form has no blanks.  Strings escape quotes, backslashes and control
characters and nothing else.
-/

namespace ContentSecurity
namespace Json

/-- A character inside a string. -/
def writeChar
    (c : Char) :
    List Char :=
  if c = '"' then ['\\', '"']
  else if c = '\\' then ['\\', '\\']
  else if c = '\x08' then ['\\', 'b']
  else if c = '\x0c' then ['\\', 'f']
  else if c = '\n' then ['\\', 'n']
  else if c = '\r' then ['\\', 'r']
  else if c = '\t' then ['\\', 't']
  else if c.toNat < 0x20 then
    ['\\', 'u', '0', '0', Text.hexDigit (c.toNat / 16), Text.hexDigit (c.toNat % 16)]
  else [c]

/-- A string; one without a text is written as the half of a character that stands alone. -/
def writeText : Option String → List Char
  | some s => '"' :: s.toList.flatMap writeChar ++ ['"']
  | none => "\"\\ud800\"".toList

mutual

/-- The characters of a value. -/
def writeValue : Value → List Char
  | .null => "null".toList
  | .boolean true => "true".toList
  | .boolean false => "false".toList
  | .number digits => digits
  | .text value => writeText value
  | .list items => '[' :: writeItems items ++ [']']
  | .record members => '{' :: writeMembers members ++ ['}']

/-- The items of a list with commas between them. -/
def writeItems : List Value → List Char
  | [] => []
  | [item] => writeValue item
  | item :: items => writeValue item ++ ',' :: writeItems items

/-- The members of a record with commas between them. -/
def writeMembers : List (Option String × Value) → List Char
  | [] => []
  | [(key, value)] => writeText key ++ ':' :: writeValue value
  | (key, value) :: members =>
      writeText key ++ ':' :: writeValue value ++ ',' :: writeMembers members

end

/-- The written form of a value. -/
def Value.write
    (value : Value) :
    String :=
  String.ofList (writeValue value)

/-- A natural number. -/
def Value.natural
    (n : Nat) :
    Value :=
  .number (Text.decimal n)

/-- A string with a text. -/
def Value.string
    (s : String) :
    Value :=
  .text (some s)

/-- A list of strings. -/
def Value.strings
    (texts : List String) :
    Value :=
  .list (texts.map Value.string)

/-- A record whose keys have texts. -/
def Value.object
    (members : List (String × Value)) :
    Value :=
  .record (members.map fun (key, value) => (some key, value))

end Json
end ContentSecurity
