import ContentSecurity.Text.Decimal

/-!
# Points in time

A date is written with hyphens, a time of day with colons.  The date must exist
in the calendar.
-/

namespace ContentSecurity
namespace Toml

/-- A fixed count of digits and the number they denote. -/
def fixedDigits?
    (count : Nat)
    (text : List Char) :
    Option (Nat × List Char) :=
  let digits := text.take count
  if digits.length = count && digits.all Char.isDigit then
    some (Text.decimalValue digits, text.drop count)
  else
    none

/-- The number of days of a month. -/
def daysInMonth
    (year month : Nat) :
    Nat :=
  if month = 2 then
    if year % 4 = 0 && (year % 100 != 0 || year % 400 = 0) then 29 else 28
  else if [4, 6, 9, 11].contains month then
    30
  else
    31

/-- Reads a date that exists. -/
def date?
    (text : List Char) :
    Option (List Char) := do
  let (year, text) ← fixedDigits? 4 text
  let (month, text) ←
    match text with
    | '-' :: text => fixedDigits? 2 text
    | _ => none
  let (day, text) ←
    match text with
    | '-' :: text => fixedDigits? 2 text
    | _ => none
  if 1 ≤ month && month ≤ 12 && 1 ≤ day && day ≤ daysInMonth year month then
    some text
  else
    none

/-- Reads hours and minutes. -/
def hourAndMinute?
    (text : List Char) :
    Option (List Char) := do
  let (hour, text) ← fixedDigits? 2 text
  let (minute, text) ←
    match text with
    | ':' :: text => fixedDigits? 2 text
    | _ => none
  if hour ≤ 23 && minute ≤ 59 then some text else none

/-- Reads a fraction of a second, if there is one. -/
def fraction?
    (text : List Char) :
    Option (List Char) :=
  match text with
  | '.' :: c :: rest =>
      if c.isDigit then some (rest.dropWhile Char.isDigit) else none
  | '.' :: _ => none
  | _ => some text

/-- Reads a time of day; the seconds may be missing, and sixty of them are a leap second. -/
def time?
    (text : List Char) :
    Option (List Char) := do
  let text ← hourAndMinute? text
  match text with
  | ':' :: text =>
      let (second, text) ← fixedDigits? 2 text
      if second ≤ 60 then fraction? text else none
  | _ => some text

/-- Reads the distance from universal time, if there is one. -/
def offset?
    (text : List Char) :
    Option (List Char) :=
  match text with
  | 'Z' :: rest | 'z' :: rest => some rest
  | '+' :: rest | '-' :: rest => hourAndMinute? rest
  | _ => some text

/-- A date, a time, or both with an optional distance from universal time. -/
def isDateTime
    (text : List Char) :
    Bool :=
  match date? text with
  | some [] => true
  | some (mark :: rest) =>
      [' ', 'T', 't'].contains mark && ((time? rest).bind offset?).any List.isEmpty
  | none => (time? text).any List.isEmpty

end Toml
end ContentSecurity
