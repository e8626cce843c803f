import ContentSecurity.Text.Hex

/-!
# Packed property tables

A character property is written as rows separated by spaces.  A row gives a code
point or a range of code points in hexadecimal, a step after a slash if not
every code point of the range is meant, and the property's values after an
equals sign, joined by plus signs.
-/

namespace ContentSecurity
namespace Url
namespace Domain

/-- One row of a property table. -/
structure Row where
  first : Nat
  last : Nat
  step : Nat
  values : List String
  /-- The values as code points, where they are code points. -/
  codes : List Nat

namespace Row

/-- Membership of a code point. -/
def covers
    (row : Row)
    (code : Nat) :
    Bool :=
  row.first ≤ code && code ≤ row.last &&
    (row.step ≤ 1 || (code - row.first) % row.step == 0)

/-- Reads a number; a text that is none counts as zero. -/
def number
    (digits : String) :
    Nat :=
  (Text.hexNumber? digits.toList).getD 0

/-- Reads one row. -/
def ofText
    (text : String) :
    Row :=
  let (range, values) :=
    match text.splitOn "=" with
    | [range, values] => (range, values.splitOn "+")
    | _ => (text, [])
  let (range, step) :=
    match range.splitOn "/" with
    | [range, step] => (range, number step)
    | _ => (range, 1)
  let (first, last) :=
    match range.splitOn "-" with
    | [first, last] => (number first, number last)
    | _ => (number range, number range)
  { first, last, step, values, codes := values.map number }

/-- The row that covers a code point. -/
def find?
    (rows : List Row)
    (code : Nat) :
    Option Row :=
  List.find? (·.covers code) rows

/-- Whether a row covers a code point. -/
def anyCovers
    (rows : List Row)
    (code : Nat) :
    Bool :=
  rows.any (·.covers code)

end Row

/-- Reads packed lines. -/
def unpack
    (lines : List String) :
    List Row :=
  lines.flatMap fun line => (line.splitOn " ").map Row.ofText

end Domain
end Url
end ContentSecurity
