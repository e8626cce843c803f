/-!
# Punycode

Labels beyond ASCII travel as ASCII: the plain characters first, and then a list
of insertions, each written as a number with digits of changing weight.  Reading
keeps every number below a bound and fails beyond it.
-/

namespace ContentSecurity
namespace Url
namespace Domain
namespace Punycode

/-- Numbers above this bound are refused. -/
def maxNumber : Nat := 0xFFFFFFFF

/-- The longest text that is read. -/
def maxLength : Nat := 2000

/-- The value of a digit. -/
def digit?
    (c : Char) :
    Option Nat :=
  if c.isLower then
    some (c.toNat - 'a'.toNat)
  else if c.isUpper then
    some (c.toNat - 'A'.toNat)
  else if c.isDigit then
    some (c.toNat - '0'.toNat + 26)
  else
    none

/-- The digit value from which on a digit is not the last of its number. -/
def threshold
    (place bias : Nat) :
    Nat :=
  min 26 (max 1 (place - bias))

/-- Reads one number; the place counts up by the base with every digit. -/
def number?
    (bias : Nat) :
    Nat → Nat → Nat → List Char → Option (Nat × List Char)
  | _, _, _, [] => none
  | place, weight, total, c :: rest => do
      let digit ← digit? c
      let total := total + digit * weight
      if maxNumber < total then
        none
      let limit := threshold place bias
      if digit < limit then
        some (total, rest)
      else
        let weight := weight * (36 - limit)
        if maxNumber < weight then
          none
        number? bias (place + 36) weight total rest

theorem number?_shorter
    (bias place weight total : Nat)
    (text : List Char)
    (value : Nat)
    (rest : List Char)
    (h : number? bias place weight total text = some (value, rest)) :
    rest.length < text.length := by
  induction text generalizing place weight total with
  | nil => simp [number?] at h
  | cons c tail ih =>
      simp only [number?, bind, Option.bind] at h
      split at h
      · simp at h
      · rename_i digit _
        by_cases hbig : maxNumber < total + digit * weight
        · simp [hbig] at h
        · simp only [hbig, if_false] at h
          by_cases hdigit : digit < threshold place bias
          · simp [hdigit] at h
            simp [h.2]
          · simp only [hdigit, if_false] at h
            by_cases hweight : maxNumber < weight * (36 - threshold place bias)
            · simp [hweight] at h
            · simp only [hweight, if_false] at h
              have hrest := ih _ _ _ h
              simp only [List.length_cons]
              omega

/-- Divides a difference down to a range that one digit covers. -/
def reduce
    (delta place : Nat) :
    Nat × Nat :=
  if 455 < delta then reduce (delta / 35) (place + 36) else (delta, place)
termination_by delta
decreasing_by omega

/-- The bias after an insertion. -/
def adapt
    (delta count : Nat)
    (isFirst : Bool) :
    Nat :=
  let delta := if isFirst then delta / 700 else delta / 2
  let (delta, place) := reduce (delta + delta / count) 0
  place + 36 * delta / (delta + 38)

/-- Carries out the insertions; code points start at the first one beyond ASCII. -/
def insertions?
    (output : List Nat)
    (code position bias : Nat)
    (isFirst : Bool)
    (text : List Char) :
    Option (List Nat) :=
  match text with
  | [] => some output
  | c :: rest =>
      match _hnumber : number? bias 36 1 position (c :: rest) with
      | none => none
      | some (next, rest') =>
          let count := output.length + 1
          let code := code + next / count
          let place := next % count
          if code < 0xD800 || 0xE000 ≤ code && code ≤ 0x10FFFF then
            insertions? (output.take place ++ code :: output.drop place) code (place + 1)
              (adapt (next - position) count isFirst) false rest'
          else
            none
termination_by text.length
decreasing_by exact number?_shorter _ _ _ _ _ _ _ _hnumber

/-- The plain characters before the last hyphen, and the insertions after it. -/
def splitPlain
    (text : List Char) :
    List Char × List Char :=
  let tail := text.reverse.takeWhile (· != '-')
  let plain := text.take (text.length - tail.length - 1)
  if plain.isEmpty then ([], text) else (plain, tail.reverse)

/-- Reads a label without its marker. -/
def decode?
    (text : List Char) :
    Option (List Nat) :=
  if maxLength < text.length then
    none
  else
    let (plain, rest) := splitPlain text
    insertions? (plain.map Char.toNat) 0x80 0 72 true rest

end Punycode
end Domain
end Url
end ContentSecurity
