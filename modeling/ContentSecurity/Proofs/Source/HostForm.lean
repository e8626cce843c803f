import ContentSecurity.Proofs.Text.Splitting
import ContentSecurity.Source.Host
import Mathlib.Data.Bool.AllAny
import Mathlib.Data.List.TakeDrop

/-!
# The form of host sources

A host source is well formed if each of its parts is: a scheme is a letter and
scheme characters, a host is a star or one or more labels, a port is a star or
one or more digits, a path is a slash and path characters.

The main statement is `parse?_eq_some_iff`: what a text reads as is the one well
formed host source that is written that way.  Reading is a function, so a text
has no second decomposition.
-/

namespace ContentSecurity
namespace Source

/-- One or more characters of a class. -/
def IsRunOf
    (admits : Char → Bool)
    (text : List Char) : Prop :=
  text ≠ [] ∧ ∀ c ∈ text, admits c = true

/-- One or more labels, none of them empty. -/
def AreLabels
    (labels : List (List Char)) : Prop :=
  labels ≠ [] ∧ ∀ label ∈ labels, IsRunOf isLabelChar label

/-- A star, or labels. -/
def HostPattern.IsFormed : HostPattern → Prop
  | any => True
  | named _ labels => AreLabels labels

/-- A star, or one or more digits. -/
def PortPattern.IsFormed : PortPattern → Prop
  | any => True
  | number digits => IsRunOf Char.isDigit digits

/-- A slash, and path characters behind it. -/
def IsFormedPath
    (path : List Char) : Prop :=
  ∃ rest, path = '/' :: rest ∧ ∀ c ∈ rest, isPathChar c = true

/-- Every part has its form; nothing is asked of the number of a port. -/
structure HostSource.IsFormed
    (source : HostSource) : Prop where
  scheme : ∀ scheme ∈ source.scheme, isScheme scheme = true
  host : source.host.IsFormed
  port : ∀ port ∈ source.port, port.IsFormed
  path : ∀ path ∈ source.path, IsFormedPath path

/-- The port and the path as they are written. -/
def tailText
    (port : Option PortPattern)
    (path : Option (List Char)) :
    List Char :=
  (port.map (':' :: ·.text)).getD [] ++ path.getD []

theorem HostSource.text_eq
    (source : HostSource) :
    source.text =
      (source.scheme.map (· ++ [':', '/', '/'])).getD [] ++
        (source.host.text ++ tailText source.port source.path) := by
  simp [HostSource.text, tailText]

theorem mem_intercalate_labels
    (labels : List (List Char))
    (c : Char)
    (hc : c ∈ ['.'].intercalate labels) :
    c = '.' ∨ ∃ label ∈ labels, c ∈ label := by
  induction labels with
  | nil => simp at hc
  | cons label labels ih =>
      cases labels with
      | nil => exact Or.inr ⟨label, by simp, by simpa using hc⟩
      | cons next labels =>
          rw [List.intercalate_cons_cons, List.mem_append, List.mem_append] at hc
          rcases hc with (hc | hc) | hc
          · exact Or.inr ⟨label, by simp, hc⟩
          · exact Or.inl (List.mem_singleton.mp hc)
          · rcases ih hc with hdot | ⟨other, hother, hmem⟩
            · exact Or.inl hdot
            · exact Or.inr ⟨other, List.mem_cons_of_mem label hother, hmem⟩

/-- Written labels begin with a label character. -/
theorem exists_intercalate_labels_eq_cons
    (labels : List (List Char))
    (hlabels : AreLabels labels) :
    ∃ c rest, ['.'].intercalate labels = c :: rest ∧ isLabelChar c = true := by
  cases labels with
  | nil => exact absurd rfl hlabels.1
  | cons label labels =>
      obtain ⟨hsome, hchars⟩ := hlabels.2 label List.mem_cons_self
      obtain ⟨c, rest, rfl⟩ := List.exists_cons_of_ne_nil hsome
      have hc : isLabelChar c = true := hchars c List.mem_cons_self
      cases labels with
      | nil => exact ⟨c, rest, by simp, hc⟩
      | cons next labels => exact ⟨c, _, by rw [List.intercalate_cons_cons]; rfl, hc⟩

theorem labels?_eq_some_iff
    (text : List Char)
    (labels : List (List Char)) :
    labels? text = some labels ↔ AreLabels labels ∧ ['.'].intercalate labels = text := by
  have hall :
      ∀ pieces : List (List Char),
        (pieces.all fun label => !label.isEmpty && label.all isLabelChar) = true ↔
          ∀ label ∈ pieces, IsRunOf isLabelChar label := by
    intro pieces
    simp [IsRunOf]
  simp only [labels?]
  constructor
  · intro hlabels
    split at hlabels
    · rename_i hpieces
      obtain rfl := Option.some.inj hlabels
      exact ⟨⟨List.splitOn_ne_nil '.' text, (hall _).mp hpieces⟩, List.intercalate_splitOn '.'⟩
    · exact absurd hlabels (by simp)
  · rintro ⟨⟨hne, hlabels⟩, rfl⟩
    have hfree : ∀ label ∈ labels, '.' ∉ label := by
      intro label hlabel hdot
      exact absurd ((hlabels label hlabel).2 '.' hdot) (by decide)
    rw [List.splitOn_intercalate '.' hfree hne, if_pos ((hall labels).mpr hlabels)]

/-- A host text reads as the host that is written that way. -/
theorem host?_eq_some_iff
    (text : List Char)
    (host : HostPattern) :
    host? text = some host ↔ host.IsFormed ∧ host.text = text := by
  constructor
  · intro hread
    unfold host? at hread
    split at hread
    · obtain rfl := Option.some.inj hread
      exact ⟨trivial, rfl⟩
    · obtain ⟨labels, hlabels, rfl⟩ := Option.map_eq_some_iff.mp hread
      obtain ⟨hformed, rfl⟩ := (labels?_eq_some_iff _ labels).mp hlabels
      exact ⟨hformed, rfl⟩
    · obtain ⟨labels, hlabels, rfl⟩ := Option.map_eq_some_iff.mp hread
      obtain ⟨hformed, rfl⟩ := (labels?_eq_some_iff _ labels).mp hlabels
      exact ⟨hformed, rfl⟩
  · rintro ⟨hformed, rfl⟩
    cases host with
    | any => rfl
    | named wildcard labels =>
        have hlabels := (labels?_eq_some_iff _ labels).mpr ⟨hformed, rfl⟩
        cases wildcard with
        | true => simp [HostPattern.text, host?, hlabels]
        | false =>
            -- A label character begins the text, so it is not read as a wildcard.
            obtain ⟨c, rest, htext, hc⟩ :=
              exists_intercalate_labels_eq_cons labels hformed
            have hstar : c ≠ '*' := by
              rintro rfl
              exact absurd hc (by decide)
            rw [htext] at hlabels
            simp [HostPattern.text, host?, htext, hstar, hlabels]

/-- A port text reads as the port that is written that way. -/
theorem port?_eq_some_iff
    (text : List Char)
    (port : PortPattern) :
    port? text = some port ↔ port.IsFormed ∧ port.text = text := by
  have hrun : (!text.isEmpty && text.all Char.isDigit) = true ↔ IsRunOf Char.isDigit text := by
    simp [IsRunOf]
  unfold port?
  constructor
  · intro hread
    split at hread
    · rename_i hstar
      obtain rfl := Option.some.inj hread
      exact ⟨trivial, hstar.symm⟩
    · split at hread
      · rename_i hdigits
        obtain rfl := Option.some.inj hread
        exact ⟨hrun.mp hdigits, rfl⟩
      · exact absurd hread (by simp)
  · rintro ⟨hformed, rfl⟩
    cases port with
    | any => rfl
    | number digits =>
        have hstar : digits ≠ ['*'] := by
          rintro rfl
          exact absurd (hformed.2 '*' (by simp)) (by decide)
        rw [PortPattern.text] at hrun ⊢
        rw [if_neg hstar, if_pos (hrun.mpr hformed)]

/-- A text reads as the optional path that is written that way. -/
theorem path?_eq_some_iff
    (text : List Char)
    (path : Option (List Char)) :
    path? text = some path ↔ (∀ p ∈ path, IsFormedPath p) ∧ path.getD [] = text := by
  constructor
  · intro hread
    unfold path? at hread
    split at hread
    · obtain rfl := Option.some.inj hread
      exact ⟨by simp, rfl⟩
    · rename_i c rest
      split at hread
      · rename_i hpath
        obtain rfl := Option.some.inj hread
        simp only [Bool.and_eq_true, decide_eq_true_eq, List.all_eq_true] at hpath
        obtain ⟨rfl, hchars⟩ := hpath
        refine ⟨fun p hp => ?_, rfl⟩
        obtain rfl := Option.mem_some.mp hp
        exact ⟨rest, rfl, hchars⟩
      · exact absurd hread (by simp)
  · rintro ⟨hformed, rfl⟩
    cases path with
    | none => rfl
    | some path =>
        obtain ⟨rest, rfl, hchars⟩ := hformed path rfl
        simpa [path?] using hchars

/-- A path that has its form begins with a slash. -/
theorem head?_getD_of_isFormedPath
    (path : Option (List Char))
    (hformed : ∀ p ∈ path, IsFormedPath p) :
    ∀ c ∈ (path.getD []).head?, c = '/' := by
  cases path with
  | none => simp
  | some path =>
      obtain ⟨rest, rfl, -⟩ := hformed path rfl
      simp

/-- A port holds no slash, and it is not empty. -/
theorem PortPattern.exists_text_eq_cons
    (port : PortPattern)
    (hformed : port.IsFormed) :
    (∀ c ∈ port.text, (c != '/') = true) ∧ ∃ c rest, port.text = c :: rest := by
  cases port with
  | any => exact ⟨List.all_iff_forall_prop.mp (by decide), '*', [], rfl⟩
  | number digits =>
      refine ⟨fun c hc => ?_, List.exists_cons_of_ne_nil hformed.1⟩
      have hdigit := hformed.2 c hc
      rw [bne_iff_ne]
      rintro rfl
      exact absurd hdigit (by decide)

/-- What follows a host reads as the port and the path that are written that way. -/
theorem portAndPath?_eq_some_iff
    (text : List Char)
    (port : Option PortPattern)
    (path : Option (List Char)) :
    portAndPath? text = some (port, path) ↔
      (∀ p ∈ port, p.IsFormed) ∧ (∀ p ∈ path, IsFormedPath p) ∧ tailText port path = text := by
  constructor
  · intro hread
    unfold portAndPath? at hread
    split at hread
    · rename_i rest
      rw [List.span_eq_takeWhile_dropWhile] at hread
      obtain ⟨number, hnumber, hread⟩ := Option.bind_eq_some_iff.mp hread
      obtain ⟨way, hway, hread⟩ := Option.bind_eq_some_iff.mp hread
      obtain ⟨rfl, rfl⟩ := Prod.mk.inj (Option.some.inj hread)
      obtain ⟨hformed, hdigits⟩ := (port?_eq_some_iff _ number).mp hnumber
      obtain ⟨hpath, hrest⟩ := (path?_eq_some_iff _ way).mp hway
      refine ⟨fun p hp => ?_, hpath, ?_⟩
      · obtain rfl := Option.mem_some.mp hp
        exact hformed
      · simp [tailText, hdigits, hrest]
    · obtain ⟨way, hway, hread⟩ := Option.bind_eq_some_iff.mp hread
      obtain ⟨rfl, rfl⟩ := Prod.mk.inj (Option.some.inj hread)
      obtain ⟨hpath, hrest⟩ := (path?_eq_some_iff _ way).mp hway
      exact ⟨by simp, hpath, by simpa [tailText] using hrest⟩
  · rintro ⟨hport, hpath, rfl⟩
    have hway := (path?_eq_some_iff _ path).mpr ⟨hpath, rfl⟩
    have hslash := head?_getD_of_isFormedPath path hpath
    cases port with
    | none =>
        -- A path begins with no colon, so it is not taken for a port.
        have hcolon : ∀ rest, path.getD [] ≠ ':' :: rest := by
          intro rest hrest
          exact absurd (hslash ':' (by simp [hrest])) (by decide)
        simp [tailText, portAndPath?, hway]
    | some number =>
        have hformed : number.IsFormed := hport number rfl
        have hnumber := (port?_eq_some_iff _ number).mpr ⟨hformed, rfl⟩
        have hboundary : ∀ c ∈ (path.getD []).head?, (c != '/') = false := by
          intro c hc
          simp [hslash c hc]
        obtain ⟨htake, hdrop⟩ :=
          Text.takeWhile_dropWhile_append _ _ _ (number.exists_text_eq_cons hformed).1 hboundary
        simp [tailText, portAndPath?, htake, hdrop, hnumber, hway]

/-- A class without the colon and the slash keeps clear of the end of a host. -/
theorem ne_colon_and_ne_slash
    (admits : Char → Bool)
    (hcolon : admits ':' = false)
    (hslash : admits '/' = false)
    (c : Char)
    (hc : admits c = true) :
    (c != ':' && c != '/') = true := by
  simp only [Bool.and_eq_true, bne_iff_ne]
  constructor
  · rintro rfl
    simp [hcolon] at hc
  · rintro rfl
    simp [hslash] at hc

/-- What holds of stars, dots and label characters holds throughout a host. -/
theorem HostPattern.forall_mem_text
    (host : HostPattern)
    (hformed : host.IsFormed)
    (holds : Char → Prop)
    (hstar : holds '*')
    (hdot : holds '.')
    (hlabel : ∀ c, isLabelChar c = true → holds c) :
    ∀ c ∈ host.text, holds c := by
  cases host with
  | any => exact List.forall_mem_singleton.mpr hstar
  | named wildcard labels =>
      intro c hc
      rw [HostPattern.text, List.mem_append] at hc
      rcases hc with hwildcard | hlabels
      · cases wildcard with
        | true =>
            rcases List.mem_cons.mp hwildcard with rfl | hmem
            · exact hstar
            · rwa [List.mem_singleton.mp hmem]
        | false => simp at hwildcard
      · rcases mem_intercalate_labels labels c hlabels with rfl | ⟨label, hmem, hc⟩
        · exact hdot
        · exact hlabel c ((hformed.2 label hmem).2 c hc)

/-- A host holds neither a colon nor a slash. -/
theorem HostPattern.ne_colon_and_ne_slash_of_mem_text
    (host : HostPattern)
    (hformed : host.IsFormed) :
    ∀ c ∈ host.text, (c != ':' && c != '/') = true :=
  host.forall_mem_text hformed (fun c => (c != ':' && c != '/') = true) (by decide) (by decide)
    (ne_colon_and_ne_slash isLabelChar (by decide) (by decide))

/-- A scheme is made of scheme characters, of which the colon is none. -/
theorem isSchemeChar_of_mem_of_isScheme
    (scheme : List Char)
    (hscheme : isScheme scheme = true) :
    ∀ c ∈ scheme, isSchemeChar c = true := by
  cases scheme with
  | nil => simp
  | cons first rest =>
      simp only [isScheme, Bool.and_eq_true, List.all_eq_true] at hscheme
      intro c hc
      rcases List.mem_cons.mp hc with rfl | hc
      · simp [isSchemeChar, Char.isAlphanum, hscheme.1]
      · exact hscheme.2 c hc

/-- A scheme before a colon and two slashes is split off. -/
theorem splitScheme_of_isScheme
    (scheme rest : List Char)
    (hscheme : isScheme scheme = true) :
    splitScheme (scheme ++ [':', '/', '/'] ++ rest) = (some scheme, rest) := by
  have hboundary : ∀ c ∈ (':' :: '/' :: '/' :: rest).head?, isSchemeChar c = false := by
    intro c hc
    obtain rfl := Option.mem_some.mp hc
    decide
  obtain ⟨htake, hdrop⟩ :=
    Text.takeWhile_dropWhile_append _ _ _ (isSchemeChar_of_mem_of_isScheme scheme hscheme) hboundary
  simp [splitScheme, htake, hdrop, hscheme]

/-- Either a scheme was split off, or the text is left as it was. -/
theorem splitScheme_cases
    (text : List Char) :
    (∃ scheme rest, isScheme scheme = true ∧ text = scheme ++ [':', '/', '/'] ++ rest ∧
      splitScheme text = (some scheme, rest)) ∨
    splitScheme text = (none, text) := by
  unfold splitScheme
  rw [List.span_eq_takeWhile_dropWhile]
  split
  · rename_i scheme rest hspan
    obtain ⟨htake, hdrop⟩ := Prod.mk.inj hspan
    split
    · rename_i hscheme
      have htext : text = scheme ++ [':', '/', '/'] ++ rest := by
        rw [← List.takeWhile_append_dropWhile (p := isSchemeChar) (l := text), htake, hdrop]
        simp
      exact Or.inl ⟨scheme, rest, hscheme, htext, rfl⟩
    · exact Or.inr rfl
  · exact Or.inr rfl

/-- What follows a host begins with a colon or a slash. -/
theorem eq_colon_or_eq_slash_of_mem_head?_tailText
    (port : Option PortPattern)
    (path : Option (List Char))
    (hpath : ∀ p ∈ path, IsFormedPath p) :
    ∀ c ∈ (tailText port path).head?, (c != ':' && c != '/') = false := by
  intro c hc
  cases port with
  | none =>
      have hslash := head?_getD_of_isFormedPath path hpath c (by simpa [tailText] using hc)
      rw [hslash]
      decide
  | some number =>
      have hcolon : c = ':' := by simpa [tailText, eq_comm] using hc
      rw [hcolon]
      decide

/-- Behind the colon of a port stands no slash. -/
theorem tailText_ne_colon_slash
    (port : Option PortPattern)
    (path : Option (List Char))
    (hport : ∀ p ∈ port, p.IsFormed)
    (hpath : ∀ p ∈ path, IsFormedPath p)
    (rest : List Char) :
    tailText port path ≠ ':' :: '/' :: rest := by
  intro htail
  cases port with
  | none =>
      have hslash := head?_getD_of_isFormedPath path hpath ':' (by
        have hhead := congrArg List.head? htail
        simpa [tailText] using hhead)
      exact absurd hslash (by decide)
  | some number =>
      obtain ⟨hfree, c, digits, htext⟩ := number.exists_text_eq_cons (hport number rfl)
      have hc : c = '/' := by
        have hrest : number.text ++ path.getD [] = '/' :: rest := by simpa [tailText] using htail
        rw [htext] at hrest
        exact (List.cons.inj hrest).1
      have hcfree := hfree c (by simp [htext])
      simp [hc] at hcfree

/-- The first colon or slash behind a scheme is the end of the host. -/
theorem takeWhile_dropWhile_host
    (source : HostSource)
    (hformed : source.IsFormed) :
    let text := source.host.text ++ tailText source.port source.path
    (text.takeWhile fun c => c != ':' && c != '/') = source.host.text ∧
      (text.dropWhile fun c => c != ':' && c != '/') = tailText source.port source.path :=
  Text.takeWhile_dropWhile_append _ _ _
    (source.host.ne_colon_and_ne_slash_of_mem_text hformed.host)
    (eq_colon_or_eq_slash_of_mem_head?_tailText _ _ hformed.path)

/-- The scheme that was written is the one that is split off. -/
theorem splitScheme_text
    (source : HostSource)
    (hformed : source.IsFormed) :
    splitScheme source.text =
      (source.scheme, source.host.text ++ tailText source.port source.path) := by
  rw [source.text_eq]
  cases hscheme : source.scheme with
  | some scheme => exact splitScheme_of_isScheme scheme _ (hformed.scheme scheme hscheme)
  | none =>
      rcases splitScheme_cases (source.host.text ++ tailText source.port source.path) with
        ⟨scheme, rest, hfirst, htext, -⟩ | hnone
      · -- The host and the scheme would both reach to the first colon or slash.
        have hchars : ∀ c ∈ scheme, (c != ':' && c != '/') = true := by
          intro c hc
          exact ne_colon_and_ne_slash isSchemeChar (by decide) (by decide) c
            (isSchemeChar_of_mem_of_isScheme scheme hfirst c hc)
        have hcolon :
            ∀ c ∈ (':' :: '/' :: '/' :: rest).head?, (c != ':' && c != '/') = false := by
          intro c hc
          obtain rfl := Option.mem_some.mp hc
          decide
        have htail := (takeWhile_dropWhile_host source hformed).2
        have hrest := (Text.takeWhile_dropWhile_append _ _ _ hchars hcolon).2
        rw [List.append_assoc] at htext
        rw [htext] at htail
        have hsame := htail.symm.trans hrest
        exact absurd hsame (tailText_ne_colon_slash _ _ hformed.port hformed.path _)
      · simpa using hnone

/-- What is split off has the form of a scheme, and nothing is lost. -/
theorem splitScheme_append
    (text : List Char) :
    (∀ scheme ∈ (splitScheme text).1, isScheme scheme = true) ∧
      ((splitScheme text).1.map (· ++ [':', '/', '/'])).getD [] ++ (splitScheme text).2 = text := by
  rcases splitScheme_cases text with ⟨scheme, rest, hscheme, htext, hsplit⟩ | hsplit
  · rw [hsplit]
    refine ⟨fun s hs => ?_, by simp [htext]⟩
    obtain rfl := Option.mem_some.mp hs
    exact hscheme
  · rw [hsplit]
    simp

/-- A text reads as the host source in form that is written that way, and as no other one. -/
theorem parse?_eq_some_iff
    (text : List Char)
    (source : HostSource) :
    HostSource.parse? text = some source ↔ source.IsFormed ∧ source.text = text := by
  constructor
  · intro hread
    obtain ⟨hscheme, htext⟩ := splitScheme_append text
    simp only [HostSource.parse?, List.span_eq_takeWhile_dropWhile] at hread
    obtain ⟨host, hhost, hread⟩ := Option.bind_eq_some_iff.mp hread
    obtain ⟨⟨port, path⟩, htail, hread⟩ := Option.bind_eq_some_iff.mp hread
    obtain rfl := Option.some.inj hread
    obtain ⟨hformed, hhostText⟩ := (host?_eq_some_iff _ host).mp hhost
    obtain ⟨hport, hpath, htailText⟩ := (portAndPath?_eq_some_iff _ port path).mp htail
    refine ⟨⟨hscheme, hformed, hport, hpath⟩, ?_⟩
    rw [HostSource.text_eq, hhostText, htailText, List.takeWhile_append_dropWhile]
    exact htext
  · rintro ⟨hformed, rfl⟩
    obtain ⟨htake, hdrop⟩ := takeWhile_dropWhile_host source hformed
    have hreadHost := (host?_eq_some_iff _ source.host).mpr ⟨hformed.host, rfl⟩
    have hreadTail :=
      (portAndPath?_eq_some_iff _ source.port source.path).mpr ⟨hformed.port, hformed.path, rfl⟩
    simp [HostSource.parse?, splitScheme_text source hformed, htake, hdrop, hreadHost, hreadTail]

/-- Two host sources in form that are written alike are the same. -/
theorem HostSource.IsFormed.text_inj
    (a b : HostSource)
    (ha : a.IsFormed)
    (hb : b.IsFormed)
    (htext : a.text = b.text) :
    a = b := by
  have hread := (parse?_eq_some_iff b.text a).mpr ⟨ha, htext⟩
  rw [(parse?_eq_some_iff b.text b).mpr ⟨hb, rfl⟩] at hread
  exact (Option.some.inj hread).symm

end Source
end ContentSecurity
