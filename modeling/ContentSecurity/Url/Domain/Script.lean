import ContentSecurity.Url.Domain.Normalization
import ContentSecurity.Url.Domain.ScriptTable

/-!
# Rules on the writing of labels

A label may not begin with a combining mark, may hold the two invisible joiners
only where they change how letters join, and in a name with right-to-left
letters may not mix directions.
-/

namespace ContentSecurity
namespace Url
namespace Domain

/-- Directional classes other than left-to-right. -/
def directionTable : List Row := unpack directionRows

/-- Joining types of the characters that have one. -/
def joiningTable : List Row := unpack joiningRows

/-- Combining marks. -/
def markTable : List Row := unpack markRows

/-- A character that combines with the one before it. -/
def isMark
    (code : Nat) :
    Bool :=
  firstCombining ≤ code && Row.anyCovers markTable code

/-- The directional class, by its short name. -/
def direction
    (code : Nat) :
    String :=
  match Row.find? directionTable code with
  | some row => row.values.headD "L"
  | none => "L"

/-- The joining type, by its short name; most characters have none. -/
def joiningType
    (code : Nat) :
    String :=
  match Row.find? joiningTable code with
  | some row => row.values.headD "U"
  | none => "U"

/-- The class of signs that kill a vowel. -/
def viramaClass : Nat := 9

/-- The zero-width non-joiner. -/
def nonJoiner : Nat := 0x200C

/-- The zero-width joiner. -/
def joiner : Nat := 0x200D

/-- The joining type of the nearest character that is not transparent to joining. -/
def nearestJoiningType
    (codes : List Nat) :
    String :=
  match codes.find? (joiningType · != "T") with
  | some code => joiningType code
  | none => "U"

/-- Whether a character stands behind a sign that kills a vowel; characters come latest first. -/
def isAfterVirama
    (before : List Nat) :
    Bool :=
  before.head?.any (combiningClass · == viramaClass)

/-- Whether the letters on both sides of a place would join; those before come latest first. -/
def isBetweenJoining
    (before after : List Nat) :
    Bool :=
  ["L", "D"].contains (nearestJoiningType before) &&
    ["R", "D"].contains (nearestJoiningType after)

/-- Joiners stand only where they matter; the characters before come latest first. -/
def joinersAllowed : List Nat → List Nat → Bool
  | _, [] => true
  | before, code :: after =>
      if code = nonJoiner then
        (isAfterVirama before || isBetweenJoining before after) &&
          joinersAllowed (code :: before) after
      else if code = joiner then
        isAfterVirama before && joinersAllowed (code :: before) after
      else
        joinersAllowed (code :: before) after

/-- A character that makes its name a right-to-left name. -/
def isRightToLeft
    (code : Nat) :
    Bool :=
  ["R", "AL", "AN"].contains (direction code)

/-- The rule for one label of a right-to-left name. -/
def directionsAgree
    (label : List Nat) :
    Bool :=
  let directions := label.map direction
  let last := (directions.reverse.dropWhile (· == "NSM")).headD ""
  match directions with
  | [] => true
  | "L" :: _ =>
      directions.all ["L", "EN", "ES", "CS", "ET", "ON", "BN", "NSM"].contains &&
        ["L", "EN"].contains last
  | "R" :: _ | "AL" :: _ =>
      directions.all ["R", "AL", "AN", "EN", "ES", "CS", "ET", "ON", "BN", "NSM"].contains &&
        ["R", "AL", "AN", "EN"].contains last &&
        !(directions.contains "EN" && directions.contains "AN")
  | _ => false

end Domain
end Url
end ContentSecurity
