import ContentSecurity.Toml.Scalar
import ContentSecurity.Toml.Table
import ContentSecurity.Toml.Text

/-!
# Reading TOML texts

A text is a sequence of lines, each a header or a key with its value.  Arrays
and inline tables may span lines and may nest, but not beyond a fixed depth.
Between a key and its value a line of its own allows only blanks, an inline
table also line breaks and comments.
-/

namespace ContentSecurity
namespace Toml

/-- How deeply arrays and inline tables may nest, and how many parts a key may have. -/
def maxDepth : Nat := 80

/-- Characters of a key without quotes. -/
def isBareChar
    (c : Char) :
    Bool :=
  c.isAlphanum || c == '_' || c == '-'

/-- Reads one part of a key. -/
def keyPart?
    (text : List Char) :
    Option (String × List Char) :=
  match text with
  | '"' :: rest => scanBasic? [] rest
  | '\'' :: rest => scanLiteral? [] rest
  | _ =>
      let part := text.takeWhile isBareChar
      if part.isEmpty then none else some (String.ofList part, text.dropWhile isBareChar)

/-- Reads a key of at most so many parts with dots between them, and the blanks behind it. -/
def keyParts? : Nat → List Char → Option (List String × List Char)
  | 0, _ => none
  | count + 1, text =>
      match keyPart? (text.dropWhile isBlank) with
      | none => none
      | some (part, rest) =>
          match rest.dropWhile isBlank with
          | '.' :: rest => (keyParts? count rest).map fun (parts, rest) => (part :: parts, rest)
          | rest => some ([part], rest)

/-- Reads a key; it may lead as deep as values may nest. -/
def key? : List Char → Option (List String × List Char) :=
  keyParts? maxDepth

/-- Reads a key and its value; the gaps on both sides of the equals sign are skipped as given. -/
def assignment?
    (skipGap? : List Char → Option (List Char))
    (value? : List Char → Option (Value × List Char))
    (text : List Char) :
    Option ((List String × Value) × List Char) := do
  let (key, rest) ← key? text
  match ← skipGap? rest with
  | '=' :: rest =>
      let (value, rest) ← value? (← skipGap? rest)
      some ((key, value), rest)
  | _ => none

/-- Reads the items of an array after its bracket. -/
def items?
    (value? : List Char → Option (Value × List Char)) :
    Nat → List Char → Option (List Value × List Char)
  | 0, _ => none
  | fuel + 1, text =>
      match skipFiller? false text with
      | some (']' :: rest) => some ([], rest)
      | some text =>
          match value? text with
          | none => none
          | some (item, rest) =>
              match skipFiller? false rest with
              | some (',' :: rest) =>
                  (items? value? fuel rest).map fun (items, rest) => (item :: items, rest)
              | some (']' :: rest) => some ([item], rest)
              | _ => none
      | none => none

/-- Reads the entries of an inline table after its brace. -/
def inlineEntries?
    (value? : List Char → Option (Value × List Char))
    (entries : Entries) :
    Nat → List Char → Option (Entries × List Char)
  | 0, _ => none
  | fuel + 1, text =>
      match skipFiller? false text with
      | some ('}' :: rest) => some (entries, rest)
      | some text =>
          match assignment? (skipFiller? false) value? text with
          | none => none
          | some ((key, value), rest) =>
              match insert? value key entries, skipFiller? false rest with
              | some entries, some (',' :: rest) => inlineEntries? value? entries fuel rest
              | some entries, some ('}' :: rest) => some (entries, rest)
              | _, _ => none
      | none => none

/-- Reads a value inside which arrays and inline tables may nest to a depth. -/
def value? : Nat → List Char → Option (Value × List Char)
  | depth, text =>
      match text with
      | '[' :: rest =>
          match depth with
          | 0 => none
          | depth + 1 =>
              (items? (value? depth) (rest.length + 1) rest).map fun (items, rest) =>
                (.list items, rest)
      | '{' :: rest =>
          match depth with
          | 0 => none
          | depth + 1 =>
              (inlineEntries? (value? depth) [] (rest.length + 1) rest).map
                fun (entries, rest) => (.table .inline entries, rest)
      | '"' :: _ | '\'' :: _ => (text? text).map fun (value, rest) => (.text value, rest)
      | _ =>
          let (scalar, rest) := splitScalar [] text
          (scalar? scalar).map fun value => (value, rest)

/-- The way to the last part of a key, and that part. -/
def splitLast? : List String → Option (List String × String)
  | [] => none
  | [key] => some ([], key)
  | part :: parts => (splitLast? parts).map fun (path, key) => (part :: path, key)

/-- Reads a header after its opening brackets. -/
def header?
    (closing : List Char)
    (text : List Char) :
    Option ((List String × String) × List Char) := do
  let (parts, rest) ← key? text
  let path ← splitLast? parts
  if closing.isPrefixOf rest then some (path, rest.drop closing.length) else none

/-- Reads a line without its end. -/
def statement?
    (text : List Char) :
    Option (Statement × List Char) :=
  match text with
  | '[' :: '[' :: rest =>
      (header? [']', ']'] rest).map fun ((path, key), rest) => (.element path key, rest)
  | '[' :: rest =>
      (header? [']'] rest).map fun ((path, key), rest) => (.header path key, rest)
  | _ =>
      (assignment? (some ∘ List.dropWhile isBlank) (value? maxDepth) text).map
        fun ((key, value), rest) => (.entry key value, rest)

/-- Carries out the lines of a text. -/
def Document.run? : Nat → Document → List Char → Option Document
  | 0, _, _ => none
  | fuel + 1, document, text =>
      match skipFiller? false text with
      | none => none
      | some [] => some document
      | some text =>
          match statement? text with
          | none => none
          | some (statement, rest) =>
              match document.step? statement, endLine? false rest with
              | some document, some rest => document.run? fuel rest
              | _, _ => none

/-- A byte order mark, which may stand in front of a text. -/
def byteOrderMark : Char := '\ufeff'

/-- Reads a TOML text; every line uses up a character, so the length of the text bounds them. -/
def read?
    (text : String) :
    Option Entries :=
  let text :=
    match text.toList with
    | c :: rest => if c = byteOrderMark then rest else c :: rest
    | [] => []
  (Document.run? (text.length + 1) {} text).map (·.entries)

end Toml
end ContentSecurity
