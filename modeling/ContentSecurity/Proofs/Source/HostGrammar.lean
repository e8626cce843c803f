import ContentSecurity.Proofs.Source.HostForm
import Mathlib.Computability.Language

/-!
# The grammar of host sources

Beside its form by parts, a host source has a pattern: character classes under
alternatives, sequences and repetitions.  In the pattern the dots between labels
are optional single characters, a part may be missing, and nothing says where
one part ends and the next one begins.

The pattern and the form admit the same texts (`mem_hostSourcePattern_iff`), and
since the form of a text is unique there is only one way to cut it.  The main
statement is `host_source_iff_unique_form`: what is judged after the cutting
comes down to the number of the only possible port.
-/

namespace ContentSecurity
namespace Source

open scoped Computability

/-- The texts of one character of a class. -/
def oneOf
    (admits : Char → Bool) :
    Language Char :=
  {text | ∃ c, admits c = true ∧ text = [c]}

/-- A letter, then any number of scheme characters. -/
def schemePart : Language Char :=
  oneOf Char.isAlpha * (oneOf isSchemeChar)∗

/-- Label characters, with a dot before each of them at will. -/
def moreLabels : Language Char :=
  ((1 + {['.']}) * oneOf isLabelChar)∗

/-- A label character, and more of them. -/
def labelsPart : Language Char :=
  oneOf isLabelChar * moreLabels

/-- A star, or labels that may follow a star and a dot. -/
def hostPart : Language Char :=
  {['*']} + (1 + {['*', '.']}) * labelsPart

/-- Digits, or a star. -/
def portPart : Language Char :=
  oneOf Char.isDigit * (oneOf Char.isDigit)∗ + {['*']}

/-- A slash, then any number of path characters. -/
def pathPart : Language Char :=
  {['/']} * (oneOf isPathChar)∗

/-- The whole pattern, from the first character of a text to the last. -/
def hostSourcePattern : Language Char :=
  (1 + schemePart * {[':', '/', '/']}) * hostPart * (1 + {[':']} * portPart) * (1 + pathPart)

theorem mem_exactly_iff
    (word text : List Char) :
    text ∈ ({word} : Language Char) ↔ text = word :=
  Iff.rfl

theorem flatten_map_singleton
    (text : List Char) :
    (text.map ([·])).flatten = text := by
  rw [← List.flatMap_def, List.flatMap_singleton']

/-- A repeated class admits the texts of its characters. -/
theorem mem_kstar_oneOf_iff
    (admits : Char → Bool)
    (text : List Char) :
    text ∈ (oneOf admits)∗ ↔ ∀ c ∈ text, admits c = true := by
  rw [Language.mem_kstar]
  constructor
  · rintro ⟨pieces, rfl, hpieces⟩ c hc
    obtain ⟨piece, hpiece, hmem⟩ := List.mem_flatten.mp hc
    obtain ⟨only, honly, rfl⟩ := hpieces piece hpiece
    rw [List.mem_singleton.mp hmem]
    exact honly
  · intro hchars
    refine ⟨text.map ([·]), (flatten_map_singleton text).symm, fun piece hpiece => ?_⟩
    obtain ⟨c, hc, rfl⟩ := List.mem_map.mp hpiece
    exact ⟨c, hchars c hc, rfl⟩

/-- A class followed by a repeated class. -/
theorem mem_oneOf_mul_kstar_iff
    (first others : Char → Bool)
    (text : List Char) :
    text ∈ oneOf first * (oneOf others)∗ ↔
      ∃ c rest, text = c :: rest ∧ first c = true ∧ ∀ d ∈ rest, others d = true := by
  rw [Language.mem_mul]
  constructor
  · rintro ⟨_, ⟨c, hc, rfl⟩, rest, hrest, rfl⟩
    exact ⟨c, rest, rfl, hc, (mem_kstar_oneOf_iff others rest).mp hrest⟩
  · rintro ⟨c, rest, rfl, hc, hrest⟩
    exact ⟨[c], ⟨c, hc, rfl⟩, rest, (mem_kstar_oneOf_iff others rest).mpr hrest, rfl⟩

/-- A part that may be missing is written for each of its forms, or not at all. -/
theorem mem_one_add_iff
    {Form : Type}
    (part : Language Char)
    (isFormed : Form → Prop)
    (write : Form → List Char)
    (hpart : ∀ text, text ∈ part ↔ ∃ form, isFormed form ∧ write form = text)
    (text : List Char) :
    text ∈ 1 + part ↔
      ∃ form : Option Form, (∀ f ∈ form, isFormed f) ∧ (form.map write).getD [] = text := by
  rw [Language.mem_add, Language.mem_one, hpart]
  constructor
  · rintro (rfl | ⟨form, hform, rfl⟩)
    · exact ⟨none, by simp, rfl⟩
    · exact ⟨some form, by simpa using hform, rfl⟩
  · rintro ⟨form, hform, rfl⟩
    cases form with
    | none => exact Or.inl rfl
    | some form => exact Or.inr ⟨form, hform form rfl, rfl⟩

theorem mem_schemePart_iff
    (text : List Char) :
    text ∈ schemePart ↔ isScheme text = true := by
  rw [schemePart, mem_oneOf_mul_kstar_iff]
  cases text with
  | nil => simp [isScheme]
  | cons c rest => simp [isScheme]

/-- More label characters go on with a label. -/
theorem append_mem_moreLabels
    (label rest : List Char)
    (hlabel : ∀ c ∈ label, isLabelChar c = true)
    (hrest : rest ∈ moreLabels) :
    label ++ rest ∈ moreLabels := by
  obtain ⟨pieces, rfl, hpieces⟩ := Language.mem_kstar.mp hrest
  refine Language.mem_kstar.mpr ⟨label.map ([·]) ++ pieces, ?_, fun piece hpiece => ?_⟩
  · rw [List.flatten_append, flatten_map_singleton]
  · rcases List.mem_append.mp hpiece with hpiece | hpiece
    · obtain ⟨c, hc, rfl⟩ := List.mem_map.mp hpiece
      exact Language.mem_mul.mpr ⟨[], Or.inl rfl, [c], ⟨c, hlabel c hc, rfl⟩, rfl⟩
    · exact hpieces piece hpiece

/-- A dot and a label character begin the next label. -/
theorem dot_cons_mem_moreLabels
    (c : Char)
    (rest : List Char)
    (hc : isLabelChar c = true)
    (hrest : rest ∈ moreLabels) :
    '.' :: c :: rest ∈ moreLabels := by
  obtain ⟨pieces, rfl, hpieces⟩ := Language.mem_kstar.mp hrest
  refine Language.mem_kstar.mpr ⟨['.', c] :: pieces, rfl, fun piece hpiece => ?_⟩
  rcases List.mem_cons.mp hpiece with rfl | hpiece
  · exact Language.mem_mul.mpr ⟨['.'], Or.inr rfl, [c], ⟨c, hc, rfl⟩, rfl⟩
  · exact hpieces piece hpiece

/-- Written labels are admitted. -/
theorem exists_mem_moreLabels_of_labels
    (labels : List (List Char))
    (hlabels : AreLabels labels) :
    ∃ c rest, ['.'].intercalate labels = c :: rest ∧ isLabelChar c = true ∧
      rest ∈ moreLabels := by
  induction labels with
  | nil => exact absurd rfl hlabels.1
  | cons label labels ih =>
      obtain ⟨hsome, hchars⟩ := hlabels.2 label List.mem_cons_self
      obtain ⟨c, others, rfl⟩ := List.exists_cons_of_ne_nil hsome
      have hc : isLabelChar c = true := hchars c List.mem_cons_self
      have hothers : ∀ d ∈ others, isLabelChar d = true :=
        fun d hd => hchars d (List.mem_cons_of_mem c hd)
      cases labels with
      | nil =>
          have hrest := append_mem_moreLabels others [] hothers (Language.nil_mem_kstar _)
          exact ⟨c, others, by simp, hc, by simpa using hrest⟩
      | cons next labels =>
          obtain ⟨d, rest, htext, hd, hrest⟩ :=
            ih ⟨by simp, fun l hl => hlabels.2 l (List.mem_cons_of_mem _ hl)⟩
          have hdot := dot_cons_mem_moreLabels d rest hd hrest
          have hmore := append_mem_moreLabels others _ hothers hdot
          refine ⟨c, others ++ '.' :: d :: rest, ?_, hc, hmore⟩
          rw [List.intercalate_cons_cons, htext]
          simp

theorem intercalate_cons_head
    (c : Char)
    (label : List Char)
    (labels : List (List Char)) :
    ['.'].intercalate ((c :: label) :: labels) = c :: ['.'].intercalate (label :: labels) := by
  cases labels with
  | nil => simp
  | cons next labels => simp [List.intercalate_cons_cons]

/-- What is admitted falls into labels, whose dots are the ones that were used. -/
theorem exists_labels_of_pieces
    (pieces : List (List Char))
    (hpieces : ∀ piece ∈ pieces, piece ∈ (1 + {['.']} : Language Char) * oneOf isLabelChar)
    (c : Char)
    (hc : isLabelChar c = true) :
    ∃ labels, AreLabels labels ∧ ['.'].intercalate labels = c :: pieces.flatten := by
  induction pieces generalizing c with
  | nil =>
      refine ⟨[[c]], ⟨by simp, fun label hlabel => ?_⟩, by simp⟩
      obtain rfl := List.mem_singleton.mp hlabel
      exact ⟨by simp, by simpa using hc⟩
  | cons piece pieces ih =>
      obtain ⟨dots, hdots, _, ⟨d, hd, rfl⟩, rfl⟩ :=
        Language.mem_mul.mp (hpieces piece List.mem_cons_self)
      obtain ⟨labels, ⟨hne, hlabels⟩, htext⟩ :=
        ih (fun p hp => hpieces p (List.mem_cons_of_mem _ hp)) d hd
      obtain ⟨first, others, rfl⟩ := List.exists_cons_of_ne_nil hne
      rcases hdots with rfl | rfl
      · -- Without a dot the character belongs to the first label.
        refine ⟨(c :: first) :: others, ⟨by simp, fun label hlabel => ?_⟩, ?_⟩
        · rcases List.mem_cons.mp hlabel with rfl | hlabel
          · obtain ⟨-, hfirst⟩ := hlabels first List.mem_cons_self
            exact ⟨by simp, by simpa [hc] using hfirst⟩
          · exact hlabels label (List.mem_cons_of_mem _ hlabel)
        · rw [intercalate_cons_head, htext]
          simp
      · refine ⟨[c] :: first :: others, ⟨by simp, fun label hlabel => ?_⟩, ?_⟩
        · rcases List.mem_cons.mp hlabel with rfl | hlabel
          · exact ⟨by simp, by simpa using hc⟩
          · exact hlabels label hlabel
        · rw [List.intercalate_cons_cons, htext]
          simp

theorem mem_labelsPart_iff
    (text : List Char) :
    text ∈ labelsPart ↔ ∃ labels, AreLabels labels ∧ ['.'].intercalate labels = text := by
  rw [labelsPart, Language.mem_mul]
  constructor
  · rintro ⟨_, ⟨c, hc, rfl⟩, rest, hrest, rfl⟩
    obtain ⟨pieces, rfl, hpieces⟩ := Language.mem_kstar.mp hrest
    exact exists_labels_of_pieces pieces hpieces c hc
  · rintro ⟨labels, hlabels, rfl⟩
    obtain ⟨c, rest, htext, hc, hrest⟩ := exists_mem_moreLabels_of_labels labels hlabels
    exact ⟨[c], ⟨c, hc, rfl⟩, rest, hrest, htext.symm⟩

theorem mem_hostPart_iff
    (text : List Char) :
    text ∈ hostPart ↔ ∃ host : HostPattern, host.IsFormed ∧ host.text = text := by
  rw [hostPart, Language.mem_add, Language.mem_mul]
  constructor
  · rintro (rfl | ⟨star, hstar, rest, hrest, rfl⟩)
    · exact ⟨.any, trivial, rfl⟩
    · obtain ⟨labels, hlabels, rfl⟩ := (mem_labelsPart_iff rest).mp hrest
      rcases hstar with rfl | rfl
      · exact ⟨.named false labels, hlabels, rfl⟩
      · exact ⟨.named true labels, hlabels, rfl⟩
  · rintro ⟨host, hformed, rfl⟩
    cases host with
    | any => exact Or.inl rfl
    | named wildcard labels =>
        have hlabels := (mem_labelsPart_iff _).mpr ⟨labels, hformed, rfl⟩
        cases wildcard with
        | true => exact Or.inr ⟨['*', '.'], Or.inr rfl, _, hlabels, rfl⟩
        | false => exact Or.inr ⟨[], Or.inl rfl, _, hlabels, rfl⟩

theorem mem_portPart_iff
    (text : List Char) :
    text ∈ portPart ↔ ∃ port : PortPattern, port.IsFormed ∧ port.text = text := by
  rw [portPart, Language.mem_add, mem_oneOf_mul_kstar_iff]
  constructor
  · rintro (⟨c, rest, rfl, hc, hrest⟩ | rfl)
    · exact ⟨.number (c :: rest), ⟨by simp, by simpa [hc] using hrest⟩, rfl⟩
    · exact ⟨.any, trivial, rfl⟩
  · rintro ⟨port, hformed, rfl⟩
    cases port with
    | any => exact Or.inr rfl
    | number digits =>
        obtain ⟨hsome, hdigits⟩ := hformed
        obtain ⟨c, rest, rfl⟩ := List.exists_cons_of_ne_nil hsome
        rw [List.forall_mem_cons] at hdigits
        exact Or.inl ⟨c, rest, rfl, hdigits.1, hdigits.2⟩

theorem mem_pathPart_iff
    (text : List Char) :
    text ∈ pathPart ↔ ∃ path, IsFormedPath path ∧ path = text := by
  rw [pathPart, Language.mem_mul]
  constructor
  · rintro ⟨_, rfl, rest, hrest, rfl⟩
    exact ⟨_, ⟨rest, rfl, (mem_kstar_oneOf_iff isPathChar rest).mp hrest⟩, rfl⟩
  · rintro ⟨_, ⟨rest, rfl, hrest⟩, rfl⟩
    exact ⟨['/'], rfl, rest, (mem_kstar_oneOf_iff isPathChar rest).mpr hrest, rfl⟩

/-- The pattern admits the texts of the host sources in form. -/
theorem mem_hostSourcePattern_iff
    (text : List Char) :
    text ∈ hostSourcePattern ↔ ∃ source : HostSource, source.IsFormed ∧ source.text = text := by
  have hscheme := mem_one_add_iff (schemePart * {[':', '/', '/']}) (isScheme · = true)
    (· ++ [':', '/', '/']) fun text => by
      simp [Language.mem_mul, mem_schemePart_iff, mem_exactly_iff]
  have hport := mem_one_add_iff ({[':']} * portPart) PortPattern.IsFormed (':' :: ·.text)
    fun text => by
      simp [Language.mem_mul, mem_portPart_iff, mem_exactly_iff]
  have hpath := mem_one_add_iff pathPart IsFormedPath id mem_pathPart_iff
  simp only [hostSourcePattern, Language.mem_mul]
  constructor
  · rintro ⟨_, ⟨_, ⟨schemeText, hs, hostText, hh, rfl⟩, portText, hp, rfl⟩, pathText, hq, rfl⟩
    obtain ⟨scheme, hschemeFormed, rfl⟩ := (hscheme schemeText).mp hs
    obtain ⟨host, hhostFormed, rfl⟩ := (mem_hostPart_iff hostText).mp hh
    obtain ⟨port, hportFormed, rfl⟩ := (hport portText).mp hp
    obtain ⟨path, hpathFormed, rfl⟩ := (hpath pathText).mp hq
    exact ⟨⟨scheme, host, port, path⟩,
      ⟨hschemeFormed, hhostFormed, hportFormed, hpathFormed⟩, by simp [HostSource.text]⟩
  · rintro ⟨source, hformed, rfl⟩
    refine ⟨_, ⟨_, ⟨_, (hscheme _).mpr ⟨source.scheme, hformed.scheme, rfl⟩,
      _, (mem_hostPart_iff _).mpr ⟨source.host, hformed.host, rfl⟩, rfl⟩,
      _, (hport _).mpr ⟨source.port, hformed.port, rfl⟩, rfl⟩,
      _, (hpath _).mpr ⟨source.path, hformed.path, rfl⟩, ?_⟩
    simp [HostSource.text]

/-- A star, or a number up to the largest port, whatever the number of its digits. -/
def PortPattern.HasPortNumber : PortPattern → Prop
  | any => True
  | number digits => Text.decimalValue digits ≤ maxPort

/-- A number that does not fit into a word exceeds the largest port anyway. -/
theorem PortPattern.isInRange_iff
    (port : PortPattern)
    (hformed : port.IsFormed) :
    port.isInRange = true ↔ port.HasPortNumber := by
  cases port with
  | any => simp [isInRange, HasPortNumber]
  | number digits =>
      have hword := Text.word?_map_toNat digits hformed.1 hformed.2
      simp only [isInRange, HasPortNumber]
      cases hread : Text.word? digits with
      | none =>
          rw [hread, Option.map_none, eq_comm, Text.fitting_eq_none_iff] at hword
          have hmax : maxPort < UInt32.size := by decide
          simp only [Bool.false_eq_true, false_iff, not_le]
          omega
      | some word =>
          rw [hread, Option.map_some, eq_comm, Text.fitting_eq_some_iff] at hword
          rw [hword.2, decide_eq_true_eq]

/-- A path in form falls into a root and steps. -/
theorem isDecomposable_of_isFormedPath
    (path : List Char)
    (hformed : IsFormedPath path) :
    isDecomposable path = true := by
  obtain ⟨rest, rfl, hchars⟩ := hformed
  refine isDecomposable_of_slash rest fun hnull => ?_
  exact absurd (hchars '\x00' hnull) (by decide)

/-- A text in form is judged by the number of its port alone. -/
theorem isHostSource_iff_of_isFormed
    (value : String)
    (source : HostSource)
    (hformed : source.IsFormed)
    (htext : source.text = value.toList) :
    isHostSource value = true ↔ ∀ port ∈ source.port, port.HasPortNumber := by
  have hread := (parse?_eq_some_iff value.toList source).mpr ⟨hformed, htext⟩
  have hpath : source.path.all isDecomposable = true := by
    cases hsome : source.path with
    | none => rfl
    | some path => exact isDecomposable_of_isFormedPath path (hformed.path path hsome)
  simp only [isHostSource, hread, hpath, Bool.and_true]
  cases hsome : source.port with
  | none => simp
  | some port => simpa using port.isInRange_iff (hformed.port port hsome)

theorem isHostSource_iff
    (value : String) :
    isHostSource value = true ↔
      ∃ source : HostSource, source.IsFormed ∧ (∀ port ∈ source.port, port.HasPortNumber) ∧
        source.text = value.toList := by
  constructor
  · intro hhost
    cases hread : HostSource.parse? value.toList with
    | none => simp [isHostSource, hread] at hhost
    | some source =>
        obtain ⟨hformed, htext⟩ := (parse?_eq_some_iff value.toList source).mp hread
        exact ⟨source, hformed,
          (isHostSource_iff_of_isFormed value source hformed htext).mp hhost, htext⟩
  · rintro ⟨source, hformed, hport, htext⟩
    exact (isHostSource_iff_of_isFormed value source hformed htext).mpr hport

/--
A text is a host source exactly if it falls into parts of their form with a port
number up to the largest one.  The pattern cuts a text in one way only, so that
is the port whose number is judged: reading it fails where it is too large for a
word, and is exact everywhere else.  The steps of a path never decide.
-/
theorem host_source_iff_unique_form
    (value : String) :
    (isHostSource value = true ↔
      ∃ source : HostSource, source.IsFormed ∧ (∀ port ∈ source.port, port.HasPortNumber) ∧
        source.text = value.toList) ∧
    (value.toList ∈ hostSourcePattern ↔
      ∃! source : HostSource, source.IsFormed ∧ source.text = value.toList) ∧
    ∀ source : HostSource, source.IsFormed → source.text = value.toList →
      (isHostSource value = true ↔ ∀ port ∈ source.port, port.HasPortNumber) ∧
      (∀ digits, source.port = some (.number digits) →
        (Text.word? digits).map UInt32.toNat =
          if Text.decimalValue digits < 2 ^ 32 then some (Text.decimalValue digits) else none) ∧
      ∀ path ∈ source.path, isDecomposable path = true := by
  refine ⟨isHostSource_iff value, ?_, fun source hformed htext => ⟨?_, ?_, ?_⟩⟩
  · rw [mem_hostSourcePattern_iff]
    constructor
    · rintro ⟨source, hformed, htext⟩
      refine ⟨source, ⟨hformed, htext⟩, fun other hother => ?_⟩
      exact hother.1.text_inj other source hformed (hother.2.trans htext.symm)
    · exact fun hunique => hunique.exists
  · exact isHostSource_iff_of_isFormed value source hformed htext
  · intro digits hdigits
    have hrun : IsRunOf Char.isDigit digits := hformed.port (.number digits) hdigits
    exact Text.word?_map_toNat digits hrun.1 hrun.2
  · exact fun path hpath => isDecomposable_of_isFormedPath path (hformed.path path hpath)

/--
Leading zeros do not make a port larger, and a number beyond a word is not cut
off to a small one.
-/
theorem host_source_iff_unique_form_of_long_ports :
    isHostSource "ws+x://*.a-1.b:00000000000443/p;q/../." = true ∧
      isHostSource "a:4294967376" = false := by
  have hpadded := host_source_iff_unique_form "ws+x://*.a-1.b:00000000000443/p;q/../."
  have hlarge := host_source_iff_unique_form "a:4294967376"
  constructor
  · have hread :
        HostSource.parse? "ws+x://*.a-1.b:00000000000443/p;q/../.".toList =
          some
            { scheme := some "ws+x".toList
              host := .named true ["a-1".toList, "b".toList]
              port := some (.number "00000000000443".toList)
              path := some "/p;q/../.".toList } := by
      decide
    obtain ⟨hformed, htext⟩ := (parse?_eq_some_iff _ _).mp hread
    refine (hpadded.2.2 _ hformed htext).1.mpr fun port hport => ?_
    obtain rfl := Option.mem_some.mp hport
    simp [PortPattern.HasPortNumber, Text.decimalValue, maxPort]
  · have hread :
        HostSource.parse? "a:4294967376".toList =
          some
            { scheme := none
              host := .named false ["a".toList]
              port := some (.number "4294967376".toList)
              path := none } := by
      decide
    obtain ⟨hformed, htext⟩ := (parse?_eq_some_iff _ _).mp hread
    rw [Bool.eq_false_iff]
    intro hhost
    have hnumber := (hlarge.2.2 _ hformed htext).1.mp hhost _ rfl
    simp [PortPattern.HasPortNumber, Text.decimalValue, maxPort] at hnumber

end Source
end ContentSecurity
