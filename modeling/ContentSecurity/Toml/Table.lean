import ContentSecurity.Toml.Value

/-!
# Building tables

Lines add to tables under rules on what may still be added to.  A dotted key may
enter tables that dotted keys or the headers of inner tables brought about, but
not one with a header of its own, and it may put its last part only into a table
of dotted keys.  A header may enter everything but values and inline tables, and
may claim a table only once.
-/

namespace ContentSecurity
namespace Toml

/-- The value of a key. -/
def lookup?
    (key : String)
    (entries : Entries) :
    Option Value :=
  (entries.find? (·.1 == key)).map (·.2)

/-- Changes the value of a key in its place, or adds the key at the end. -/
def assign
    (key : String)
    (value : Value) :
    Entries → Entries
  | [] => [(key, value)]
  | (other, old) :: entries =>
      if other = key then (key, value) :: entries else (other, old) :: assign key value entries

/-- Whether a dotted key may enter a table, in which it leaves its last part or not. -/
def Origin.admitsDottedKey
    (isLast : Bool) :
    Origin → Bool
  | .dotted => true
  | .implied => !isLast
  | .header | .inline => false

/-- Adds a value under a dotted key; none if the key is taken or a table may not be entered. -/
def insert?
    (value : Value) :
    List String → Entries → Option Entries
  | [], _ => none
  | [key], entries =>
      match lookup? key entries with
      | none => some (entries ++ [(key, value)])
      | some _ => none
  | key :: path, entries =>
      match lookup? key entries with
      | none =>
          match insert? value path [] with
          | some inner => some (entries ++ [(key, .table .dotted inner)])
          | none => none
      | some (.table origin inner) =>
          if origin.admitsDottedKey (path.length == 1) then
            match insert? value path inner with
            | some inner => some (assign key (.table origin inner) entries)
            | none => none
          else
            none
      | some (.tables elements) =>
          match path, elements.getLast? with
          | _ :: _ :: _, some inner =>
              match insert? value path inner with
              | some inner => some (assign key (.tables (elements.dropLast ++ [inner])) entries)
              | none => none
          | _, _ => none
      | some _ => none

/-- Changes the table that the headers before it lead to. -/
def within?
    (change : Entries → Option Entries) :
    List String → Entries → Option Entries
  | [], entries => change entries
  | key :: path, entries =>
      match lookup? key entries with
      | none =>
          match within? change path [] with
          | some inner => some (entries ++ [(key, .table .implied inner)])
          | none => none
      | some (.table origin inner) =>
          if origin = .inline then
            none
          else
            match within? change path inner with
            | some inner => some (assign key (.table origin inner) entries)
            | none => none
      | some (.tables elements) =>
          match elements.getLast? with
          | some inner =>
              match within? change path inner with
              | some inner => some (assign key (.tables (elements.dropLast ++ [inner])) entries)
              | none => none
          | none => none
      | some _ => none

/-- Claims a table for a header. -/
def openTable?
    (key : String)
    (entries : Entries) :
    Option Entries :=
  match lookup? key entries with
  | none => some (entries ++ [(key, .table .header [])])
  | some (.table .implied inner) => some (assign key (.table .header inner) entries)
  | some _ => none

/-- Adds one more table under the header of an array of tables. -/
def openElement?
    (key : String)
    (entries : Entries) :
    Option Entries :=
  match lookup? key entries with
  | none => some (entries ++ [(key, .tables [[]])])
  | some (.tables elements) => some (assign key (.tables (elements ++ [[]])) entries)
  | some _ => none

/-- A line of a TOML text. -/
inductive Statement where
  /-- The header of a table. -/
  | header
      (path : List String)
      (key : String)
  /-- The header of one more table of an array. -/
  | element
      (path : List String)
      (key : String)
  /-- A key and its value. -/
  | entry
      (path : List String)
      (value : Value)
deriving Repr

/-- All tables so far, and the way to the one that entries go to. -/
structure Document where
  entries : Entries := []
  current : List String := []

/-- Carries out one line. -/
def Document.step?
    (document : Document) :
    Statement → Option Document
  | .header path key =>
      (within? (openTable? key) path document.entries).map fun entries =>
        { entries, current := path ++ [key] }
  | .element path key =>
      (within? (openElement? key) path document.entries).map fun entries =>
        { entries, current := path ++ [key] }
  | .entry path value =>
      (within? (insert? value path) document.current document.entries).map fun entries =>
        { document with entries }

end Toml
end ContentSecurity
