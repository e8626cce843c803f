/-!
# Source keywords and the character gate

A source value is one token of a source list.  Whatever its form, it holds none
of the separators that end a value or a directive; this module holds that gate
and the values that are recognised as whole words.
-/

namespace ContentSecurity
namespace Source

/-- Stands for every source. -/
def wildcard : String := "*"

/-- Stands for no source. -/
def noneKeyword : String := "'none'"

/-- Stands for the origin of the protected page. -/
def selfKeyword : String := "'self'"

/-- Admits inline scripts or styles. -/
def unsafeInlineKeyword : String := "'unsafe-inline'"

/-- Admits code that is made from text at run time. -/
def unsafeEvalKeyword : String := "'unsafe-eval'"

/-- Characters that separate values or directives. -/
def illegalCharacters : List Char :=
  [' ', ';', ',']

/-- The character gate: a value is not empty and holds no separator. -/
def hasLegalCharacters
    (value : String) :
    Bool :=
  value != "" && value.toList.all fun c => !illegalCharacters.contains c

/-- The keywords of every source list. -/
def isKeyword
    (value : String) :
    Bool :=
  value == selfKeyword || value == noneKeyword

/-- The keywords that only script and style directives know. -/
def isUnsafeKeyword
    (value : String) :
    Bool :=
  value == unsafeInlineKeyword || value == unsafeEvalKeyword

end Source
end ContentSecurity
