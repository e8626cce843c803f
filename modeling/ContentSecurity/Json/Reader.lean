import ContentSecurity.Json.Token

/-!
# Reading JSON texts

Tokens are taken one after another into a state: the containers that are still
open, innermost first, and what may come next.  No container is read by
recursion, so a text may nest as deeply as it likes.
-/

namespace ContentSecurity
namespace Json

/-- A container that is still open, with what it holds so far, latest first. -/
inductive Frame where
  | list
      (items : List Value)
  /-- A record that waits for the value of a key. -/
  | record
      (members : List (Option String × Value))
      (key : Option String)

/-- What may come next. -/
inductive Expectation where
  /-- A value. -/
  | value
  /-- A value of a list that has just been opened, or its end. -/
  | firstItem
  /-- A key of a record that has just been opened, or its end. -/
  | firstKey
  /-- A key after a comma. -/
  | key
      (members : List (Option String × Value))
  /-- The colon after a key. -/
  | colon
      (members : List (Option String × Value))
      (key : Option String)
  /-- A separator or an end, after a complete value. -/
  | after
      (value : Value)

/-- The state of a reading. -/
structure Reading where
  frames : List Frame
  expectation : Expectation

namespace Reading

/-- Nothing has been read, and a value must come. -/
def start : Reading :=
  { frames := [], expectation := .value }

/-- Takes a token where a value must come. -/
def takeValue
    (frames : List Frame) :
    Token → Option Reading
  | .openList => some { frames := .list [] :: frames, expectation := .firstItem }
  | .openRecord => some { frames, expectation := .firstKey }
  | .null => some { frames, expectation := .after .null }
  | .boolean b => some { frames, expectation := .after (.boolean b) }
  | .number digits => some { frames, expectation := .after (.number digits) }
  | .text value => some { frames, expectation := .after (.text value) }
  | _ => none

/-- Takes a token after a complete value. -/
def takeAfter
    (value : Value) :
    List Frame → Token → Option Reading
  | .list items :: frames, .comma =>
      some { frames := .list (value :: items) :: frames, expectation := .value }
  | .list items :: frames, .closeList =>
      some { frames, expectation := .after (.list (value :: items).reverse) }
  | .record members key :: frames, .comma =>
      some { frames, expectation := .key ((key, value) :: members) }
  | .record members key :: frames, .closeRecord =>
      some { frames, expectation := .after (.record ((key, value) :: members).reverse) }
  | _, _ => none

/-- Takes one token. -/
def take
    (reading : Reading)
    (token : Token) :
    Option Reading :=
  match reading.expectation, token with
  | .value, token => takeValue reading.frames token
  | .firstItem, .closeList =>
      some { frames := reading.frames.drop 1, expectation := .after (.list []) }
  | .firstItem, token => takeValue reading.frames token
  | .firstKey, .closeRecord => some { reading with expectation := .after (.record []) }
  | .firstKey, .text key => some { reading with expectation := .colon [] key }
  | .key members, .text key => some { reading with expectation := .colon members key }
  | .colon members key, .colon =>
      some { frames := .record members key :: reading.frames, expectation := .value }
  | .after value, token => takeAfter value reading.frames token
  | _, _ => none

/-- The value of a finished reading. -/
def value?
    (reading : Reading) :
    Option Value :=
  match reading.frames, reading.expectation with
  | [], .after value => some value
  | _, _ => none

end Reading

theorem scanString?_shorter
    (pieces found : List Piece)
    (text rest : List Char)
    (h : scanString? pieces text = some (found, rest)) :
    rest.length < text.length := by
  fun_induction scanString? pieces text <;> simp_all <;> omega

theorem isNumber_nil :
    isNumber [] = false := by
  decide

theorem dropWhile_isNumberChar_shorter
    (c : Char)
    (text : List Char)
    (h : isNumber ((c :: text).takeWhile isNumberChar) = true) :
    ((c :: text).dropWhile isNumberChar).length < (c :: text).length := by
  by_cases hc : isNumberChar c = true
  · have hlength := (List.dropWhile_sublist (l := text) isNumberChar).length_le
    simp only [List.dropWhile_cons, hc, if_true, List.length_cons]
    omega
  · rw [List.takeWhile_cons_of_neg hc, isNumber_nil] at h
    exact absurd h (by decide)

theorem token?_shorter
    (text rest : List Char)
    (token : Token)
    (h : token? text = some (token, rest)) :
    rest.length < text.length := by
  unfold token? at h
  split at h
  case h_8 =>
    split at h
    · rename_i hscan
      have hlength := scanString?_shorter _ _ _ _ hscan
      simp only [Option.some.injEq, Prod.mk.injEq] at h
      simp only [← h.2, List.length_cons]
      omega
    · simp at h
  case h_12 =>
    dsimp only at h
    split at h
    · rename_i hnumber
      simp only [Option.some.injEq, Prod.mk.injEq] at h
      rw [← h.2]
      exact dropWhile_isNumberChar_shorter _ _ hnumber
    · simp at h
  all_goals
    simp only [Option.some.injEq, Prod.mk.injEq, reduceCtorEq] at h
  all_goals
    simp only [← h.2, List.length_cons]
    omega

/-- Takes the rest of a text into a reading. -/
def Reading.run
    (reading : Reading)
    (text : List Char) :
    Option Reading :=
  let unread := text.dropWhile isBlank
  if unread.isEmpty then
    some reading
  else
    match _htoken : token? unread with
    | none => none
    | some (token, rest) =>
        match reading.take token with
        | none => none
        | some next => next.run rest
termination_by text.length
decreasing_by
  have hrest := token?_shorter _ _ _ _htoken
  have hunread : unread.length ≤ text.length :=
    (List.dropWhile_sublist isBlank).length_le
  omega

/-- Reads a JSON text. -/
def Value.read?
    (text : String) :
    Option Value :=
  (Reading.start.run text.toList).bind (·.value?)

end Json
end ContentSecurity
