import ContentSecurity.Proofs.Json.Tokens

/-!
# Reading JSON texts as they are written

A reading takes the tokens of a written value one after another.  In any state
that waits for a value it ends in the state after that value, with the same
containers open as before; so a written value can stand anywhere inside of
another one.

The step lemma is `run_of_token?`, the lemma about whole values is
`readsBack_of_holdsNumerals`, and the main statement is `read?_write`.
-/

namespace ContentSecurity
namespace Json

/-- Every number of a value is made of the characters of a number. -/
inductive Value.HoldsNumerals : Value → Prop
  | null :
      HoldsNumerals .null
  | boolean
      (b : Bool) :
      HoldsNumerals (.boolean b)
  | number
      (digits : List Char)
      (hdigits : IsNumeral digits) :
      HoldsNumerals (.number digits)
  | text
      (value : Option String) :
      HoldsNumerals (.text value)
  | list
      (items : List Value)
      (hitems : ∀ item ∈ items, HoldsNumerals item) :
      HoldsNumerals (.list items)
  | record
      (members : List (Option String × Value))
      (hmembers : ∀ member ∈ members, HoldsNumerals member.2) :
      HoldsNumerals (.record members)

/-- Whether a value may come next. -/
def Expectation.admitsValue : Expectation → Bool
  | .value => true
  | .firstItem => true
  | _ => false

/-- The members that are read already, where a key may come next. -/
def Expectation.membersBeforeKey? : Expectation → Option (List (Option String × Value))
  | .firstKey => some []
  | .key members => some members
  | _ => none

namespace Reading

theorem run_nil
    (reading : Reading) :
    reading.run [] = some reading := by
  rw [run]
  simp

/-- One token is read from the front of a text. -/
theorem run_of_token?
    (reading next : Reading)
    (text rest : List Char)
    (token : Token)
    (hstart : ∃ first, text.head? = some first ∧ isBlank first = false)
    (htoken : token? text = some (token, rest))
    (htake : reading.take token = some next) :
    reading.run text = next.run rest := by
  obtain ⟨first, hfirst, hblank⟩ := hstart
  obtain ⟨written, rfl⟩ := List.head?_eq_some_iff.mp hfirst
  have hunread : (first :: written).dropWhile isBlank = first :: written := by
    simp [hblank]
  rw [run]
  simp only [hunread, List.isEmpty_cons, Bool.false_eq_true, if_false]
  split
  · rename_i hnone
    rw [hunread, htoken] at hnone
    cases hnone
  · rename_i found unread hfound
    rw [hunread, htoken] at hfound
    cases hfound
    simp [htake]

theorem take_of_admitsValue
    (frames : List Frame)
    (e : Expectation)
    (token : Token)
    (he : e.admitsValue = true)
    (htoken : token ≠ .closeList) :
    take { frames, expectation := e } token = takeValue frames token := by
  cases e with
  | value => rfl
  | firstItem => cases token <;> first | rfl | exact absurd rfl htoken
  | _ => simp [Expectation.admitsValue] at he

theorem take_key
    (frames : List Frame)
    (e : Expectation)
    (members : List (Option String × Value))
    (key : Option String)
    (he : e.membersBeforeKey? = some members) :
    take { frames, expectation := e } (.text key) =
      some { frames, expectation := .colon members key } := by
  cases e with
  | firstKey => cases he; rfl
  | key found => cases he; rfl
  | _ => simp [Expectation.membersBeforeKey?] at he

/-- A written value takes a reading from before the value to behind it. -/
def ReadsBack
    (v : Value) : Prop :=
  ∀ (frames : List Frame) (e : Expectation) (rest : List Char),
    e.admitsValue = true → EndsNumber rest →
      run { frames, expectation := e } (writeValue v ++ rest) =
        run { frames, expectation := .after v } rest

/-- The written items of a list and its end close the list. -/
theorem run_writeItems
    (first : Value)
    (items : List Value)
    (hitems : ∀ item ∈ first :: items, ReadsBack item)
    (done : List Value)
    (frames : List Frame)
    (e : Expectation)
    (he : e.admitsValue = true)
    (rest : List Char) :
    run { frames := .list done :: frames, expectation := e }
        (writeItems (first :: items) ++ ']' :: rest) =
      run { frames, expectation := .after (.list (done.reverse ++ first :: items)) } rest := by
  induction items generalizing first done e with
  | nil =>
      have hfirst := hitems first List.mem_cons_self
      have hwritten : writeItems [first] = writeValue first := rfl
      rw [hwritten, hfirst _ e _ he (by simp [EndsNumber]; decide),
        run_of_token? _ _ _ rest .closeList ⟨']', rfl, by decide⟩ rfl rfl]
      simp
  | cons next items ih =>
      have hfirst := hitems first List.mem_cons_self
      have hwritten :
          writeItems (first :: next :: items) =
            writeValue first ++ ',' :: writeItems (next :: items) :=
        rfl
      rw [hwritten, List.append_assoc, List.cons_append,
        hfirst _ e _ he (by simp [EndsNumber]; decide),
        run_of_token? _ { frames := .list (first :: done) :: frames, expectation := .value }
          _ _ .comma ⟨',', rfl, by decide⟩ rfl rfl,
        ih next (fun item hitem => hitems item (List.mem_cons_of_mem _ hitem)) _ _ rfl]
      simp

/-- A written key and the colon behind it lead to the value of the key. -/
theorem run_key
    (key : Option String)
    (done : List (Option String × Value))
    (frames : List Frame)
    (e : Expectation)
    (he : e.membersBeforeKey? = some done)
    (rest : List Char) :
    run { frames, expectation := e } (writeText key ++ ':' :: rest) =
      run { frames := .record done key :: frames, expectation := .value } rest := by
  rw [run_of_token? _ { frames, expectation := .colon done key } _ (':' :: rest) (.text key)
      ⟨'"', head?_writeText key _, by decide⟩ (token?_writeText key _)
      (take_key frames e done key he),
    run_of_token? _ { frames := .record done key :: frames, expectation := .value }
      _ rest .colon ⟨':', rfl, by decide⟩ rfl rfl]

/-- The written members of a record and its end close the record. -/
theorem run_writeMembers
    (first : Option String × Value)
    (members : List (Option String × Value))
    (hmembers : ∀ member ∈ first :: members, ReadsBack member.2)
    (done : List (Option String × Value))
    (frames : List Frame)
    (e : Expectation)
    (he : e.membersBeforeKey? = some done)
    (rest : List Char) :
    run { frames, expectation := e } (writeMembers (first :: members) ++ '}' :: rest) =
      run { frames, expectation := .after (.record (done.reverse ++ first :: members)) } rest := by
  induction members generalizing first done e with
  | nil =>
      have hfirst := hmembers first List.mem_cons_self
      have hwritten : writeMembers [first] = writeText first.1 ++ ':' :: writeValue first.2 := rfl
      rw [hwritten, List.append_assoc, List.cons_append, run_key first.1 done frames e he,
        hfirst _ .value _ rfl (by simp [EndsNumber]; decide),
        run_of_token? _ _ _ rest .closeRecord ⟨'}', rfl, by decide⟩ rfl rfl]
      simp
  | cons next members ih =>
      have hfirst := hmembers first List.mem_cons_self
      have hwritten :
          writeMembers (first :: next :: members) =
            writeText first.1 ++
              ':' :: (writeValue first.2 ++ ',' :: writeMembers (next :: members)) := by
        show writeText first.1 ++ ':' :: writeValue first.2 ++
          ',' :: writeMembers (next :: members) = _
        simp
      rw [hwritten, List.append_assoc, List.cons_append, List.append_assoc, List.cons_append,
        run_key first.1 done frames e he, hfirst _ .value _ rfl (by simp [EndsNumber]; decide),
        run_of_token? _ { frames, expectation := .key (first :: done) } _ _ .comma
          ⟨',', rfl, by decide⟩ rfl rfl,
        ih next (fun member hmember => hmembers member (List.mem_cons_of_mem _ hmember)) _ _ rfl]
      simp

/-- A value that is one token is read in one step. -/
theorem readsBack_of_token?
    (v : Value)
    (token : Token)
    (hopen : token ≠ .closeList)
    (htake : ∀ frames, takeValue frames token = some { frames, expectation := .after v })
    (hstart : ∀ rest, ∃ first, (writeValue v ++ rest).head? = some first ∧ isBlank first = false)
    (htoken : ∀ rest, EndsNumber rest → token? (writeValue v ++ rest) = some (token, rest)) :
    ReadsBack v := by
  intro frames e rest he hrest
  refine run_of_token? _ _ _ rest token (hstart rest) (htoken rest hrest) ?_
  rw [take_of_admitsValue frames e token he hopen, htake]

/-- Every value whose numbers are numbers is read back, wherever it stands. -/
theorem readsBack_of_holdsNumerals
    (v : Value)
    (hv : v.HoldsNumerals) :
    ReadsBack v := by
  induction hv with
  | null =>
      exact readsBack_of_token? _ .null (by decide) (fun _ => rfl)
        (fun _ => ⟨'n', rfl, by decide⟩) fun _ _ => rfl
  | boolean b =>
      cases b with
      | false =>
          exact readsBack_of_token? _ (.boolean false) (by decide) (fun _ => rfl)
            (fun _ => ⟨'f', rfl, by decide⟩) fun _ _ => rfl
      | true =>
          exact readsBack_of_token? _ (.boolean true) (by decide) (fun _ => rfl)
            (fun _ => ⟨'t', rfl, by decide⟩) fun _ _ => rfl
  | number digits hdigits =>
      obtain ⟨first, digits, rfl, hblank⟩ := hdigits.exists_eq_cons
      exact readsBack_of_token? _ (.number (first :: digits)) (by simp) (fun _ => rfl)
        (fun _ => ⟨first, rfl, hblank⟩) fun rest hrest => token?_numeral _ rest hdigits hrest
  | text value =>
      exact readsBack_of_token? _ (.text value) (by simp) (fun _ => rfl)
        (fun rest => ⟨'"', head?_writeText value rest, by decide⟩)
        fun rest _ => token?_writeText value rest
  | list items hitems ih =>
      intro frames e rest he hrest
      have hopen := take_of_admitsValue frames e .openList he (by simp)
      have hwritten : writeValue (.list items) = '[' :: (writeItems items ++ [']']) := rfl
      rw [hwritten, List.cons_append, List.append_assoc, List.singleton_append,
        run_of_token? _ _ _ _ .openList ⟨'[', rfl, by decide⟩ rfl hopen]
      cases items with
      | nil => exact run_of_token? _ _ _ rest .closeList ⟨']', rfl, by decide⟩ rfl rfl
      | cons first items => exact run_writeItems first items ih [] frames .firstItem rfl rest
  | record members hmembers ih =>
      intro frames e rest he hrest
      have hopen := take_of_admitsValue frames e .openRecord he (by simp)
      have hwritten : writeValue (.record members) = '{' :: (writeMembers members ++ ['}']) :=
        rfl
      rw [hwritten, List.cons_append, List.append_assoc, List.singleton_append,
        run_of_token? _ _ _ _ .openRecord ⟨'{', rfl, by decide⟩ rfl hopen]
      cases members with
      | nil => exact run_of_token? _ _ _ rest .closeRecord ⟨'}', rfl, by decide⟩ rfl rfl
      | cons first members => exact run_writeMembers first members ih [] frames .firstKey rfl rest

end Reading

/-- A written value is read back. -/
theorem read?_write
    (v : Value)
    (hv : v.HoldsNumerals) :
    Value.read? v.write = some v := by
  have hread :=
    Reading.readsBack_of_holdsNumerals v hv [] .value [] rfl (by simp [EndsNumber])
  rw [List.append_nil] at hread
  rw [Value.read?, Value.write, String.toList_ofList, Reading.start, hread, Reading.run_nil]
  rfl

end Json
end ContentSecurity
