import ContentSecurity.Text.Hex

/-!
# TOML strings

A string is basic, with escapes, or literal, without; either kind may span
several lines.  The scanners start behind the opening quotes, keep the
characters so far in reverse, and stop behind the closing quotes.
-/

namespace ContentSecurity
namespace Toml

/-- Spaces and tabs. -/
def isBlank
    (c : Char) :
    Bool :=
  c == ' ' || c == '\t'

/-- Characters of strings and comments: the tab, and all that are no control characters. -/
def isTextChar
    (c : Char) :
    Bool :=
  c == '\t' || 0x20 ≤ c.toNat && c != '\x7f'

/-- The character of an escape with one letter. -/
def escape?
    (letter : Char) :
    Option Char :=
  match letter with
  | '"' => some '"'
  | '\\' => some '\\'
  | 'b' => some '\x08'
  | 'e' => some '\x1b'
  | 'f' => some '\x0c'
  | 'n' => some '\n'
  | 'r' => some '\r'
  | 't' => some '\t'
  | _ => none

/-- The character of an escape with hexadecimal digits; halves of characters are refused. -/
def codeEscape?
    (digits : List Char) :
    Option Char :=
  match Text.hexNumber? digits with
  | some code =>
      if code < 0xD800 || 0xE000 ≤ code && code ≤ 0x10FFFF then some (Char.ofNat code) else none
  | none => none

/-- A basic string on one line. -/
def scanBasic?
    (reversed : List Char) :
    List Char → Option (String × List Char)
  | [] => none
  | '"' :: rest => some (String.ofList reversed.reverse, rest)
  | '\\' :: 'x' :: a :: b :: rest =>
      match codeEscape? [a, b] with
      | some c => scanBasic? (c :: reversed) rest
      | none => none
  | '\\' :: 'u' :: a :: b :: c :: d :: rest =>
      match codeEscape? [a, b, c, d] with
      | some c => scanBasic? (c :: reversed) rest
      | none => none
  | '\\' :: 'U' :: a :: b :: c :: d :: e :: f :: g :: h :: rest =>
      match codeEscape? [a, b, c, d, e, f, g, h] with
      | some c => scanBasic? (c :: reversed) rest
      | none => none
  | '\\' :: letter :: rest =>
      match escape? letter with
      | some c => scanBasic? (c :: reversed) rest
      | none => none
  | c :: rest =>
      if isTextChar c && c != '\\' then
        scanBasic? (c :: reversed) rest
      else
        none

/-- Where a scanner of several lines stands after a backslash at a line's end. -/
inductive Continuation where
  /-- Not after one. -/
  | none
  /-- Between the backslash and the line break. -/
  | beforeBreak
  /-- Behind the line break, where all blanks are dropped. -/
  | afterBreak

/-- A basic string that may span lines; up to two quotes may stand before the closing ones. -/
def scanBasicLines?
    (reversed : List Char) :
    Continuation → List Char → Option (String × List Char)
  | _, [] => none
  | .beforeBreak, '\n' :: rest => scanBasicLines? reversed .afterBreak rest
  | .beforeBreak, '\r' :: '\n' :: rest => scanBasicLines? reversed .afterBreak rest
  | .beforeBreak, c :: rest =>
      if isBlank c then scanBasicLines? reversed .beforeBreak rest else none
  | .afterBreak, '\n' :: rest => scanBasicLines? reversed .afterBreak rest
  | .afterBreak, '\r' :: '\n' :: rest => scanBasicLines? reversed .afterBreak rest
  | .afterBreak, ' ' :: rest => scanBasicLines? reversed .afterBreak rest
  | .afterBreak, '\t' :: rest => scanBasicLines? reversed .afterBreak rest
  | _, '"' :: '"' :: '"' :: '"' :: '"' :: rest =>
      some (String.ofList ('"' :: '"' :: reversed).reverse, rest)
  | _, '"' :: '"' :: '"' :: '"' :: rest => some (String.ofList ('"' :: reversed).reverse, rest)
  | _, '"' :: '"' :: '"' :: rest => some (String.ofList reversed.reverse, rest)
  | _, '\n' :: rest => scanBasicLines? ('\n' :: reversed) .none rest
  | _, '\r' :: '\n' :: rest => scanBasicLines? ('\n' :: '\r' :: reversed) .none rest
  | _, '\\' :: 'x' :: a :: b :: rest =>
      match codeEscape? [a, b] with
      | some c => scanBasicLines? (c :: reversed) .none rest
      | none => none
  | _, '\\' :: 'u' :: a :: b :: c :: d :: rest =>
      match codeEscape? [a, b, c, d] with
      | some c => scanBasicLines? (c :: reversed) .none rest
      | none => none
  | _, '\\' :: 'U' :: a :: b :: c :: d :: e :: f :: g :: h :: rest =>
      match codeEscape? [a, b, c, d, e, f, g, h] with
      | some c => scanBasicLines? (c :: reversed) .none rest
      | none => none
  | _, '\\' :: '\n' :: rest => scanBasicLines? reversed .afterBreak rest
  | _, '\\' :: '\r' :: '\n' :: rest => scanBasicLines? reversed .afterBreak rest
  | _, '\\' :: letter :: rest =>
      match escape? letter with
      | some c => scanBasicLines? (c :: reversed) .none rest
      | none => if isBlank letter then scanBasicLines? reversed .beforeBreak rest else none
  | _, c :: rest =>
      if isTextChar c && c != '\\' then
        scanBasicLines? (c :: reversed) .none rest
      else
        none

/-- A literal string on one line. -/
def scanLiteral?
    (reversed : List Char) :
    List Char → Option (String × List Char)
  | [] => none
  | '\'' :: rest => some (String.ofList reversed.reverse, rest)
  | c :: rest => if isTextChar c then scanLiteral? (c :: reversed) rest else none

/-- A literal string that may span lines; up to two quotes may stand before the closing ones. -/
def scanLiteralLines?
    (reversed : List Char) :
    List Char → Option (String × List Char)
  | [] => none
  | '\'' :: '\'' :: '\'' :: '\'' :: '\'' :: rest =>
      some (String.ofList ('\'' :: '\'' :: reversed).reverse, rest)
  | '\'' :: '\'' :: '\'' :: '\'' :: rest => some (String.ofList ('\'' :: reversed).reverse, rest)
  | '\'' :: '\'' :: '\'' :: rest => some (String.ofList reversed.reverse, rest)
  | '\n' :: rest => scanLiteralLines? ('\n' :: reversed) rest
  | '\r' :: '\n' :: rest => scanLiteralLines? ('\n' :: '\r' :: reversed) rest
  | c :: rest => if isTextChar c then scanLiteralLines? (c :: reversed) rest else none

/-- A line break right behind the opening quotes does not belong to the string. -/
def dropFirstBreak : List Char → List Char
  | '\n' :: rest => rest
  | '\r' :: '\n' :: rest => rest
  | text => text

/-- Reads a string of any kind, its opening quotes included. -/
def text? : List Char → Option (String × List Char)
  | '"' :: '"' :: '"' :: rest => scanBasicLines? [] .none (dropFirstBreak rest)
  | '"' :: rest => scanBasic? [] rest
  | '\'' :: '\'' :: '\'' :: rest => scanLiteralLines? [] (dropFirstBreak rest)
  | '\'' :: rest => scanLiteral? [] rest
  | _ => none

/-- Skips blanks, line breaks and comments; a comment may not hold control characters. -/
def skipFiller? : Bool → List Char → Option (List Char)
  | _, [] => some []
  | _, '\n' :: rest => skipFiller? false rest
  | _, '\r' :: '\n' :: rest => skipFiller? false rest
  | true, c :: rest => if isTextChar c then skipFiller? true rest else none
  | false, c :: rest =>
      if c = '#' then
        skipFiller? true rest
      else if isBlank c then
        skipFiller? false rest
      else
        some (c :: rest)

/-- Skips blanks and a comment up to the end of the line, and the line break. -/
def endLine? : Bool → List Char → Option (List Char)
  | _, [] => some []
  | _, '\n' :: rest => some rest
  | _, '\r' :: '\n' :: rest => some rest
  | true, c :: rest => if isTextChar c then endLine? true rest else none
  | false, c :: rest =>
      if c = '#' then
        endLine? true rest
      else if isBlank c then
        endLine? false rest
      else
        none

end Toml
end ContentSecurity
