import ContentSecurity.Toml.DateTime
import ContentSecurity.Toml.Number
import ContentSecurity.Toml.Text

/-!
# Unquoted scalars

Truth values, numbers and points in time are written without quotes.  Such a
scalar reaches up to the next character with a meaning of its own; blanks belong
to it where it goes on behind them, as between a date and a time.
-/

namespace ContentSecurity
namespace Toml

/-- Characters at which an unquoted scalar ends. -/
def endsScalar
    (c : Char) :
    Bool :=
  ['=', ',', '[', ']', '\x7b', '\x7d', '#', '\r', '\n'].contains c

/-- Characters that open a string. -/
def isQuote
    (c : Char) :
    Bool :=
  c == '"' || c == '\''

/--
The characters of an unquoted scalar, and what follows it.  The blanks before the
text are given in reverse; behind them no string may continue the scalar.
-/
def splitScalar
    (blanks : List Char) :
    List Char → List Char × List Char
  | [] => ([], blanks.reverse)
  | c :: rest =>
      if isBlank c then
        splitScalar (c :: blanks) rest
      else if endsScalar c || !blanks.isEmpty && isQuote c then
        ([], blanks.reverse ++ c :: rest)
      else
        let (scalar, rest) := splitScalar [] rest
        (blanks.reverse ++ c :: scalar, rest)

/-- Reads an unquoted scalar. -/
def scalar?
    (text : List Char) :
    Option Value :=
  match text with
  | 't' :: _ => if text = "true".toList then some (.boolean true) else none
  | 'f' :: _ => if text = "false".toList then some (.boolean false) else none
  | '0' :: 'x' :: digits => basedInteger? 16 digits
  | '0' :: 'o' :: digits => basedInteger? 8 digits
  | '0' :: 'b' :: digits => basedInteger? 2 digits
  | _ =>
      if isDateTime text then
        some (.dateTime text)
      else
        (decimalInteger? text).or ((decimalFloat? text).or (namedFloat? text))

end Toml
end ContentSecurity
