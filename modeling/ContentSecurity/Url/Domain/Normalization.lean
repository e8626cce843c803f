import ContentSecurity.Url.Domain.NormalizationTable
import ContentSecurity.Url.Domain.Packed

/-!
# Canonical composition

A text with combining marks may be written in several ways.  The composed form
takes every character apart, sorts the marks behind each base by their class and
puts pairs together again where one character stands for both.

Hangul syllables follow from arithmetic on their code points, all other pairs
from a table.
-/

namespace ContentSecurity
namespace Url
namespace Domain

/-- Characters that two others make up. -/
def pairTable : List Row := unpack pairRows

/-- Combining classes other than zero. -/
def classTable : List Row := unpack classRows

/-- Below this code point nothing combines. -/
def firstCombining : Nat := 0x300

/-- The combining class; zero for a character that starts a new cluster. -/
def combiningClass
    (code : Nat) :
    Nat :=
  if code < firstCombining then
    0
  else
    match Row.find? classTable code with
    | some row => row.codes.headD 0
    | none => 0

namespace Hangul

/-- The first leading consonant. -/
def leadBase : Nat := 0x1100

/-- The first vowel. -/
def vowelBase : Nat := 0x1161

/-- The code point before the first trailing consonant; at this place a syllable is open. -/
def tailBase : Nat := 0x11A7

/-- The first syllable. -/
def syllableBase : Nat := 0xAC00

/-- The number of leading consonants. -/
def leadCount : Nat := 19

/-- The number of vowels. -/
def vowelCount : Nat := 21

/-- The number of trailing consonants, the missing one included. -/
def tailCount : Nat := 28

/-- The letters of a syllable. -/
def parts?
    (code : Nat) :
    Option (List Nat) :=
  let index := code - syllableBase
  if code < syllableBase || leadCount * vowelCount * tailCount ≤ index then
    none
  else
    let lead := leadBase + index / (vowelCount * tailCount)
    let vowel := vowelBase + index / tailCount % vowelCount
    if index % tailCount = 0 then
      some [lead, vowel]
    else
      some [lead, vowel, tailBase + index % tailCount]

/-- The syllable of a consonant and a vowel, or of an open syllable and a trailing consonant. -/
def compose?
    (first second : Nat) :
    Option Nat :=
  if leadBase ≤ first && first < leadBase + leadCount &&
      vowelBase ≤ second && second < vowelBase + vowelCount then
    some (syllableBase + ((first - leadBase) * vowelCount + (second - vowelBase)) * tailCount)
  else if syllableBase ≤ first && first < syllableBase + leadCount * vowelCount * tailCount &&
      (first - syllableBase) % tailCount = 0 &&
      tailBase < second && second < tailBase + tailCount then
    some (first + (second - tailBase))
  else
    none

end Hangul

/-- Takes a character apart, a bounded number of times; four steps reach every base. -/
def decompose : Nat → Nat → List Nat
  | 0, code => [code]
  | depth + 1, code =>
      match Hangul.parts? code with
      | some parts => parts
      | none =>
          match Row.find? pairTable code with
          | some row => row.codes.flatMap (decompose depth)
          | none => [code]

/-- Puts a mark before the first mark of a higher class. -/
def insertMark
    (mark : Nat) :
    List Nat → List Nat
  | [] => [mark]
  | other :: marks =>
      if combiningClass mark < combiningClass other then
        mark :: other :: marks
      else
        other :: insertMark mark marks

/-- Sorts each run of marks by class, keeping the order within a class; one run is open. -/
def sortMarks : List Nat → List Nat → List Nat
  | run, [] => run
  | run, code :: codes =>
      if combiningClass code = 0 then
        run ++ code :: sortMarks [] codes
      else
        sortMarks (insertMark code run) codes

/-- The one character for two neighbours. -/
def composePair?
    (first second : Nat) :
    Option Nat :=
  match Hangul.compose? first second with
  | some code => some code
  | none => (pairTable.find? (·.codes == [first, second])).map (·.first)

/-- Whether the last mark behind a base keeps a character from joining the base. -/
def isBlocked
    (marks : List Nat)
    (code : Nat) :
    Bool :=
  marks.getLast?.any fun mark => combiningClass code ≤ combiningClass mark

/-- Joins characters to the open base, behind which stand the marks that did not join it. -/
def joinMarks
    (base : Option Nat)
    (marks : List Nat) :
    List Nat → List Nat
  | [] => base.toList ++ marks
  | code :: codes =>
      match if isBlocked marks code then none else base.bind (composePair? · code) with
      | some composed => joinMarks (some composed) marks codes
      | none =>
          if combiningClass code = 0 then
            base.toList ++ marks ++ joinMarks (some code) [] codes
          else
            joinMarks base (marks ++ [code]) codes

/-- The composed form. -/
def compose
    (codes : List Nat) :
    List Nat :=
  if codes.all (· < firstCombining) then
    codes
  else
    joinMarks none [] (sortMarks [] (codes.flatMap (decompose 4)))

end Domain
end Url
end ContentSecurity
