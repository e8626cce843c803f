/-!
# Scheme sources

A scheme is an ASCII letter followed by letters, digits, plus signs, hyphens
and dots.  A scheme source is a scheme and one colon.
-/

namespace ContentSecurity
namespace Source

/-- Characters that may follow the first letter of a scheme. -/
def isSchemeChar
    (c : Char) :
    Bool :=
  c.isAlphanum || c == '+' || c == '-' || c == '.'

/-- A letter, then any number of scheme characters. -/
def isScheme : List Char → Bool
  | [] => false
  | c :: rest => c.isAlpha && rest.all isSchemeChar

/-- A scheme and a colon, with nothing after it. -/
def isSchemeSource
    (value : String) :
    Bool :=
  let (scheme, rest) := value.toList.span isSchemeChar
  isScheme scheme && rest == [':']

end Source
end ContentSecurity
