import ContentSecurity.Nonce
import ContentSecurity.Proofs.Directive.NonceSources

/-!
# Nonces on schedule

A generator counts its draws, whatever they hand out and however much of it, and
tries for a new seed whenever an interval is complete.  The count is kept as a
countdown that is looked at before it is lowered, so the draw that completes an
interval is the first one from the new seed.

The invariant is `IsOnSchedule`; a draw carries it on by one
(`IsOnSchedule.countDraw`) and a run by its length (`isOnSchedule_after`).  The
main statement is `nonces_are_usable_and_seeds_on_schedule`, which adds that every
nonce passes validation where it is put to use, or is too short to be put anywhere.
-/

namespace ContentSecurity
namespace NonceGenerator

/-- A call that draws from a generator. -/
inductive Draw where
  | bytes
      (size : Nat)
  | symbols
      (length : Nat)
  | nonce
      (size : Nat)
deriving DecidableEq, Repr

/-- What a call hands out. -/
inductive Drawn where
  | bytes
      (content : List UInt8)
  | text
      (content : String)
deriving DecidableEq, Repr

/-- The number of symbols or bytes that a call takes. -/
def Draw.size : Draw → Nat
  | bytes size => size
  | symbols length => length
  | nonce size => nonceLength size

/-- What a call hands out from a position in the stream of a seed. -/
def Draw.handOut
    (entropy : Entropy)
    (seed position : Nat) :
    Draw → Drawn
  | bytes size => .bytes (takeBytes entropy seed position size)
  | symbols length => .text (String.ofList (take entropy seed position length))
  | nonce size => .text (String.ofList (take entropy seed position (nonceLength size)))

/-- Serves a call. -/
def serve
    (entropy : Entropy)
    (generator : NonceGenerator) :
    Draw → Drawn × NonceGenerator
  | .bytes size => (generator.fill entropy size).map .bytes id
  | .symbols length => (generator.draw entropy length).map .text id
  | .nonce size => (generator.nonce entropy size).map .text id

/-- The generator that is left after calls. -/
def after
    (entropy : Entropy)
    (generator : NonceGenerator)
    (draws : List Draw) :
    NonceGenerator :=
  draws.foldl (fun generator draw => (generator.serve entropy draw).2) generator

section Serving

variable (entropy : Entropy) (generator : NonceGenerator)

/-- A call is counted first, and served from the seed that is then in use. -/
theorem serve_eq
    (draw : Draw) :
    generator.serve entropy draw =
      let counted := generator.countDraw entropy
      (draw.handOut entropy counted.seed counted.position,
        { counted with position := counted.position + draw.size }) := by
  cases draw <;> rfl

/-- Draws that are thrown away are calls for no bytes. -/
theorem skip_eq_after
    (count : Nat) :
    generator.skip entropy count = generator.after entropy (List.replicate count (.bytes 0)) := by
  induction count generalizing generator with
  | zero => rfl
  | succ count ih =>
      rw [skip, ih, List.replicate_succ, after, after, List.foldl_cons]
      rfl

theorem length_take
    (seed position length : Nat) :
    (take entropy seed position length).length = length := by
  induction length generalizing position with
  | zero => rfl
  | succ length ih => rw [take, List.length_cons, ih]

/-- Every symbol is a letter or a digit of ASCII. -/
theorem isAlphanum_of_mem_take
    (seed position length : Nat) :
    ∀ c ∈ take entropy seed position length, c.isAlphanum = true := by
  have hsymbols : ∀ c ∈ symbols, c.isAlphanum = true := List.all_iff_forall_prop.mp (by decide)
  induction length generalizing position with
  | zero => simp [take]
  | succ length ih =>
      have hindex : (entropy.symbol seed position : Nat) < symbols.length :=
        (entropy.symbol seed position).isLt
      rw [take, List.forall_mem_cons]
      refine ⟨hsymbols _ ?_, ih (position + 1)⟩
      rw [List.getD_eq_getElem?_getD, List.getElem?_eq_getElem hindex, Option.getD_some]
      exact List.getElem_mem hindex

theorem length_nonce
    (size : Nat) :
    (generator.nonce entropy size).1.length = nonceLength size := by
  simp [nonce, draw, length_take]

theorem isAlphanum_of_mem_nonce
    (size : Nat) :
    ∀ c ∈ (generator.nonce entropy size).1.toList, c.isAlphanum = true := by
  simpa [nonce, draw] using isAlphanum_of_mem_take entropy _ _ (nonceLength size)

end Serving

/-- A generator from which a number of draws was taken. -/
structure IsOnSchedule
    (generator : NonceGenerator)
    (count : Nat) : Prop where
  countdown : generator.countdown = reseedInterval - count % reseedInterval
  attempts : generator.attempts = count / reseedInterval

theorem isOnSchedule_fresh : fresh.IsOnSchedule 0 :=
  ⟨rfl, rfl⟩

/-- The countdown stays between one and the interval. -/
theorem IsOnSchedule.countdown_bounds
    {generator : NonceGenerator}
    {count : Nat}
    (hschedule : generator.IsOnSchedule count) :
    1 ≤ generator.countdown ∧ generator.countdown ≤ reseedInterval := by
  have hcountdown := hschedule.countdown
  simp only [reseedInterval] at hcountdown ⊢
  omega

/-- The interval is over for the draw whose number is a multiple of it, and for no other. -/
theorem IsOnSchedule.one_lt_countdown_iff
    {generator : NonceGenerator}
    {count : Nat}
    (hschedule : generator.IsOnSchedule count) :
    1 < generator.countdown ↔ ¬ reseedInterval ∣ count + 1 := by
  have hcountdown := hschedule.countdown
  simp only [reseedInterval] at hcountdown ⊢
  omega

/-- What counting a draw does to the seed, by the number of the draw. -/
theorem IsOnSchedule.countDraw_eq
    {generator : NonceGenerator}
    {count : Nat}
    (hschedule : generator.IsOnSchedule count)
    (entropy : Entropy) :
    generator.countDraw entropy =
      if reseedInterval ∣ count + 1 then
        if entropy.answers ((count + 1) / reseedInterval) then
          { countdown := reseedInterval, seed := (count + 1) / reseedInterval, position := 0,
            attempts := (count + 1) / reseedInterval }
        else
          { generator with
            countdown := reseedInterval
            attempts := (count + 1) / reseedInterval }
      else
        { generator with countdown := generator.countdown - 1 } := by
  have hcountdown := hschedule.one_lt_countdown_iff
  by_cases hover : reseedInterval ∣ count + 1
  · have hattempt : generator.attempts + 1 = (count + 1) / reseedInterval := by
      rw [hschedule.attempts, Nat.succ_div_of_dvd hover]
    rw [NonceGenerator.countDraw, if_neg (by simpa [hcountdown] using hover), if_pos hover,
      hattempt]
  · rw [NonceGenerator.countDraw, if_pos (hcountdown.mpr hover), if_neg hover]

/-- Counting a draw carries the schedule on by one. -/
theorem IsOnSchedule.countDraw
    {generator : NonceGenerator}
    {count : Nat}
    (hschedule : generator.IsOnSchedule count)
    (entropy : Entropy) :
    (generator.countDraw entropy).IsOnSchedule (count + 1) := by
  have hbounds := hschedule.countdown
  by_cases hover : reseedInterval ∣ count + 1
  · have hrest : (count + 1) % reseedInterval = 0 := Nat.mod_eq_zero_of_dvd hover
    rw [hschedule.countDraw_eq entropy, if_pos hover]
    split
    · exact ⟨by rw [hrest, Nat.sub_zero], rfl⟩
    · exact ⟨by rw [hrest, Nat.sub_zero], rfl⟩
  · rw [hschedule.countDraw_eq entropy, if_neg hover]
    refine ⟨?_, ?_⟩
    · simp only [reseedInterval] at hbounds hover ⊢
      omega
    · simp only [hschedule.attempts, Nat.succ_div_of_not_dvd hover]

/-- Whatever is drawn, the schedule depends on the number of draws alone. -/
theorem isOnSchedule_after
    (entropy : Entropy)
    (draws : List Draw) :
    (fresh.after entropy draws).IsOnSchedule draws.length := by
  induction draws using List.reverseRecOn with
  | nil => exact isOnSchedule_fresh
  | append_singleton draws draw ih =>
      have hserved :
          fresh.after entropy (draws ++ [draw]) =
            ((fresh.after entropy draws).serve entropy draw).2 := by
        rw [after, after, List.foldl_concat]
      obtain ⟨hcountdown, hattempts⟩ := ih.countDraw entropy
      rw [hserved, serve_eq, List.length_append, List.length_singleton]
      exact ⟨hcountdown, hattempts⟩

end NonceGenerator

namespace Base64

/-- Letters and digits that fill whole groups of four are in padded form. -/
theorem isPadded_of_isAlphanum
    (text : String)
    (hchars : ∀ c ∈ text.toList, c.isAlphanum = true)
    (hpos : 0 < text.length)
    (hdvd : 4 ∣ text.length) :
    isPadded text = true := by
  rw [isPadded, isPaddedChars_iff]
  rw [← String.length_toList] at hpos hdvd
  refine ⟨text.toList, 0, ⟨fun c hc => ?_, Nat.zero_le 2, hpos, hdvd⟩, by simp⟩
  simp [isDigit, hchars c hc]

end Base64

namespace Directive

/-- A nonce in padded form is stored and adds no error. -/
theorem addNonce_of_isPadded
    (d : Directive)
    (text : String)
    (hinline : d.isInlineCapable = true)
    (hpadded : Base64.isPadded text = true) :
    d.addNonce text = { d with kind := .inline (d.nonces ++ [nonceToken text]) d.hashes } ∧
      loneErrors d.name d.kind .nonces (nonceToken text) = [] ∧
      ∀ report : Report,
        ((d.addNonce text).validate report).errors = (d.validate report).errors := by
  have htrim : Text.trim text = text := Base64.trim_of_isPadded text hpadded
  have hne : Text.trim text ≠ "" := by
    rw [htrim]
    rintro rfl
    exact absurd hpadded (by decide)
  have hadd := addNonce_of_inline d text _ _ (kind_of_isInlineCapable d hinline) hne
  have hline : (d.addNonce text).errorLine = d.errorLine := by
    rw [hadd]
    rfl
  have hfaults : (d.addNonce text).faults = d.faults := by
    rw [faults_addNonce d text hinline hne, htrim, nonceFaults_nonceToken, if_pos hpadded,
      List.append_nil]
  refine ⟨by rw [hadd, htrim], ?_, fun report => ?_⟩
  · rw [loneErrors_nonceToken, if_pos hpadded]
  · rw [errors_validate, errors_validate, hfaults, hline]

end Directive

namespace NonceGenerator

/--
However many calls a fresh generator has served, and whatever they were, its
countdown is what is left of the interval.  The next call tries for a new seed
first if its number is a multiple of the interval, and not otherwise, and is
served from the new seed if there is one.

If that call asks for a nonce, letters and digits come out, as many as were asked
for up to a multiple of four.  A directive with nonces stores them as one more
token that validation has nothing against; a size below four gives the empty
text, which is not stored.
-/
theorem nonces_are_usable_and_seeds_on_schedule
    (entropy : Entropy)
    (draws : List Draw) :
    let generator := fresh.after entropy draws
    let number := draws.length + 1
    (generator.countdown = reseedInterval - draws.length % reseedInterval ∧
      1 ≤ generator.countdown ∧ generator.countdown ≤ reseedInterval) ∧
    (∀ draw : Draw,
      let attempted := reseedInterval ∣ number
      let attempt := number / reseedInterval
      (generator.serve entropy draw).2.attempts =
        generator.attempts + (if attempted then 1 else 0) ∧
      (generator.serve entropy draw).1 =
        if attempted ∧ entropy.answers attempt = true then
          draw.handOut entropy attempt 0
        else
          draw.handOut entropy generator.seed generator.position) ∧
    ∀ size : Nat,
      let nonce := (generator.nonce entropy size).1
      let token := "'nonce-" ++ nonce ++ "'"
      nonce.length = 4 * (size / 4) ∧
      (∀ c ∈ nonce.toList, c.isAlphanum = true) ∧
      ∀ d : Directive, d.isInlineCapable = true →
        (4 ≤ size →
          d.addNonce nonce = { d with kind := .inline (d.nonces ++ [token]) d.hashes } ∧
          Directive.loneErrors d.name d.kind .nonces token = [] ∧
          ∀ report : Report,
            ((d.addNonce nonce).validate report).errors = (d.validate report).errors) ∧
        (size < 4 → d.addNonce nonce = d) := by
  intro generator number
  have hschedule : generator.IsOnSchedule draws.length := isOnSchedule_after entropy draws
  refine ⟨⟨hschedule.countdown, hschedule.countdown_bounds⟩, fun draw => ?_, fun size => ?_⟩
  · intro attempted attempt
    rw [serve_eq, hschedule.countDraw_eq entropy]
    by_cases hattempted : attempted
    · have hattempts : attempt = generator.attempts + 1 := by
        rw [hschedule.attempts]
        exact Nat.succ_div_of_dvd hattempted
      by_cases hanswers : entropy.answers attempt = true
      · rw [if_pos hattempted, if_pos hanswers, if_pos hattempted, if_pos ⟨hattempted, hanswers⟩]
        exact ⟨hattempts, rfl⟩
      · rw [if_pos hattempted, if_neg hanswers, if_pos hattempted, if_neg fun h => hanswers h.2]
        exact ⟨hattempts, rfl⟩
    · rw [if_neg hattempted, if_neg hattempted, if_neg fun h => hattempted h.1]
      exact ⟨rfl, rfl⟩
  · intro nonce token
    have hlength : nonce.length = 4 * (size / 4) := by
      rw [length_nonce, nonceLength, Nat.mul_comm]
    have hchars := isAlphanum_of_mem_nonce entropy generator size
    refine ⟨hlength, hchars, fun d hinline => ⟨fun hsize => ?_, fun hsize => ?_⟩⟩
    · have hpos : 0 < nonce.length := by omega
      have hdvd : 4 ∣ nonce.length := by omega
      exact d.addNonce_of_isPadded nonce hinline
        (Base64.isPadded_of_isAlphanum nonce hchars hpos hdvd)
    · have hempty : nonce = "" := by
        rw [← String.length_eq_zero_iff]
        omega
      rw [hempty]
      rfl

/--
One draw before the interval is over: the nonce that is asked for next comes from
the second seed.
-/
theorem nonces_are_usable_and_seeds_on_schedule_of_full_interval :
    let entropy : Entropy :=
      { symbol := fun seed position => Fin.ofNat 62 (26 * seed + position)
        answers := fun _ => true }
    let generator := fresh.skip entropy 999999
    let d := Directive.registered .styleSrc
    generator.countdown = 1 ∧
      generator.attempts = 0 ∧
      (generator.serve entropy (.nonce 9)).2.attempts = 1 ∧
      (generator.nonce entropy 9).1 = "abcdefgh" ∧
      (d.addNonce "abcdefgh").nonces = ["'nonce-abcdefgh'"] ∧
      ((d.addNonce "abcdefgh").validate {}).errors = (d.validate {}).errors ∧
      d.addNonce (generator.nonce entropy 3).1 = d := by
  intro entropy generator d
  obtain ⟨draws, hgenerator, hlength⟩ :
      ∃ draws, generator = fresh.after entropy draws ∧ draws.length = 999999 :=
    ⟨_, skip_eq_after entropy fresh 999999, List.length_replicate⟩
  have hattempts : generator.attempts = 0 := by
    rw [hgenerator, (isOnSchedule_after entropy draws).attempts, hlength]
    rfl
  obtain ⟨⟨hcountdown, -⟩, hserved, hnonces⟩ :=
    nonces_are_usable_and_seeds_on_schedule entropy draws
  rw [← hgenerator, hlength] at hcountdown hserved
  rw [← hgenerator] at hnonces
  have hnonce : (generator.nonce entropy 9).1 = "abcdefgh" := by
    have hdrawn := (hserved (.nonce 9)).2
    rw [if_pos ⟨by decide, rfl⟩] at hdrawn
    exact Drawn.text.inj (hdrawn.trans (by decide))
  obtain ⟨-, -, hstored⟩ := hnonces 9
  obtain ⟨-, -, hdropped⟩ := hnonces 3
  obtain ⟨hadd, -, herrors⟩ := (hstored d (by decide)).1 (by decide)
  rw [hnonce] at hadd herrors
  refine ⟨hcountdown, hattempts, ?_, hnonce, ?_, herrors {}, ?_⟩
  · rw [(hserved (.nonce 9)).1, hattempts]
    rfl
  · rw [hadd]
    decide
  · exact (hdropped d (by decide)).2 (by decide)

end NonceGenerator
end ContentSecurity
