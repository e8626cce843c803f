import ContentSecurity.Header.Collection
import ContentSecurity.Proofs.Text.Splitting
import Mathlib.Data.Set.Operations
import Mathlib.Logic.Function.Basic

/-!
# Settings that are told apart by their values

A browser knows the setting of a header from the value that it receives.  No two
settings of a header share a value, save for filters that are off: their value
is the switch alone, whatever else is set in them.  Validation refuses all of
these but the one that does nothing else.

* A rule of strict transport security is cut at its separators into an age and
  the words for its flags.
* A guard that names an origin begins unlike the other two.
* The options of a filter are told apart by the character that follows their
  separator, so the free text of a receiver is never taken for an option.

The main statement is `values_determine_settings`.
-/

namespace ContentSecurity
namespace TransportSecurity

/-- A word for every flag that is set. -/
def flagWords
    (includeSubdomains preload : Bool) :
    List String :=
  (if includeSubdomains then ["includeSubDomains"] else []) ++
    (if preload then ["preload"] else [])

/-- The parts of the field value: the age and the flags. -/
def parameters
    (config : TransportSecurity) :
    List String :=
  ("max-age=" ++ String.ofList (Text.decimal config.maxAge.toNat)) ::
    flagWords config.includeSubdomains config.preload

theorem eq_of_flagWords_eq :
    ∀ includeSubdomains preload otherSubdomains otherPreload,
      flagWords includeSubdomains preload = flagWords otherSubdomains otherPreload →
        includeSubdomains = otherSubdomains ∧ preload = otherPreload := by
  decide

theorem intercalate_parameters
    (config : TransportSecurity) :
    "; ".intercalate config.parameters = config.value := by
  obtain ⟨maxAge, includeSubdomains, preload⟩ := config
  cases includeSubdomains <;> cases preload <;>
    simp [parameters, flagWords, value, String.append_assoc]

/-- No parameter holds the character with which the separator begins. -/
theorem not_mem_of_mem_parameters
    (config : TransportSecurity) :
    ∀ parameter ∈ config.parameters, ';' ∉ parameter.toList := by
  obtain ⟨maxAge, includeSubdomains, preload⟩ := config
  have hage : ';' ∉ Text.decimal maxAge.toNat := fun hmem =>
    absurd (Text.isDigit_of_mem_decimal _ _ hmem) (by decide)
  cases includeSubdomains <;> cases preload <;> simp [parameters, flagWords, hage]

/-- Between the separators of the value stand its parameters. -/
theorem splitAt_value
    (config : TransportSecurity) :
    Text.splitAt "; " config.value = config.parameters := by
  rw [← intercalate_parameters]
  exact Text.splitAt_intercalate "; " ';' config.parameters rfl (List.cons_ne_nil _ _)
    config.not_mem_of_mem_parameters

theorem parameters_injective :
    Function.Injective parameters := by
  rintro ⟨maxAge, includeSubdomains, preload⟩ ⟨otherAge, otherSubdomains, otherPreload⟩ hparameters
  obtain ⟨hage, hflags⟩ := List.cons.inj hparameters
  have hdigits : Text.decimal maxAge.toNat = Text.decimal otherAge.toNat :=
    String.ofList_injective ((String.append_right_inj _).mp hage)
  have hmaxAge : maxAge = otherAge :=
    UInt64.toNat_inj.mp (Text.decimal_injective hdigits)
  rw [mk.injEq]
  exact ⟨hmaxAge, eq_of_flagWords_eq _ _ _ _ hflags⟩

/-- No two rules have the same value. -/
theorem value_injective :
    Function.Injective value := by
  intro config other hvalue
  apply parameters_injective
  rw [← splitAt_value, ← splitAt_value, hvalue]

end TransportSecurity

namespace FrameGuard

/-- Only a guard that names an origin has the value of one. -/
theorem eq_allowFrom_of_value_eq
    {guard : FrameGuard}
    {origin : String}
    (hvalue : guard.value = (allowFrom origin).value) :
    guard = allowFrom origin := by
  have hfirst := congrArg (fun text => text.toList.head?) hvalue
  cases guard with
  | deny => simp [value] at hfirst
  | sameOrigin => simp [value] at hfirst
  | allowFrom other => rw [(String.append_right_inj _).mp hvalue]

/-- No two guards have the same value, whatever origins they name. -/
theorem value_injective :
    Function.Injective value := by
  intro guard other hvalue
  cases other with
  | allowFrom origin => exact eq_allowFrom_of_value_eq hvalue
  | deny =>
      cases guard with
      | allowFrom origin => exact (eq_allowFrom_of_value_eq hvalue.symm).symm
      | deny => rfl
      | sameOrigin => exact absurd hvalue (by decide)
  | sameOrigin =>
      cases guard with
      | allowFrom origin => exact (eq_allowFrom_of_value_eq hvalue.symm).symm
      | deny => exact absurd hvalue (by decide)
      | sameOrigin => rfl

end FrameGuard

namespace XssFilter

/-- The option that names the receiver of reports. -/
def reportOption : Option String → String
  | some uri => "; report=" ++ uri
  | none => ""

/-- The options of a filter that is on. -/
def options
    (config : XssFilter) :
    String :=
  (if config.block then "; mode=block" else "") ++ reportOption config.reportUri

theorem value_eq
    (config : XssFilter) :
    config.value = if config.enabled then "1" ++ config.options else "0" := by
  obtain ⟨enabled, block, reportUri⟩ := config
  cases enabled <;> cases reportUri <;>
    simp [value, options, reportOption, String.append_assoc]

/-- The switch is the first character of the value. -/
theorem enabled_eq
    (config : XssFilter) :
    config.enabled = (config.value.toList.head? == some '1') := by
  rw [value_eq]
  cases config.enabled <;> simp

/-- The option to block is known by the character that follows its separator. -/
theorem block_eq
    (config : XssFilter) :
    config.block = (config.options.toList[2]? == some 'm') := by
  obtain ⟨enabled, block, reportUri⟩ := config
  cases block <;> cases reportUri <;> simp [options, reportOption]

theorem reportOption_injective :
    Function.Injective reportOption := by
  intro reportUri other hoption
  cases reportUri <;> cases other <;> simp_all [reportOption]

/-- Filters with the same options do the same while they are on. -/
theorem eq_of_options_eq
    {config other : XssFilter}
    (hoptions : config.options = other.options) :
    config.block = other.block ∧ config.reportUri = other.reportUri := by
  have hblock : config.block = other.block := by
    rw [block_eq, block_eq, hoptions]
  -- With the option to block taken off, the free text of the receiver is all that is left.
  rw [options, options, hblock, String.append_right_inj] at hoptions
  exact ⟨hblock, reportOption_injective hoptions⟩

/-- The value is the switch alone if the filter is off. -/
theorem value_eq_zero_iff
    (config : XssFilter) :
    config.value = "0" ↔ config.enabled = false := by
  constructor
  · intro hvalue
    rw [enabled_eq, hvalue]
    decide
  · intro hoff
    rw [value_eq, hoff]
    rfl

/-- Filters share a value only if they are equal or both off. -/
theorem value_eq_value_iff
    (config other : XssFilter) :
    config.value = other.value ↔
      config = other ∨ config.enabled = false ∧ other.enabled = false := by
  constructor
  · intro hvalue
    have henabled : config.enabled = other.enabled := by
      rw [enabled_eq, enabled_eq, hvalue]
    cases hswitch : config.enabled with
    | false => exact Or.inr ⟨rfl, by rw [← henabled, hswitch]⟩
    | true =>
        -- Both are on, so their values go on with their options.
        rw [value_eq, value_eq, ← henabled, hswitch, if_pos rfl, if_pos rfl,
          String.append_right_inj] at hvalue
        have hoptions := eq_of_options_eq hvalue
        cases config
        cases other
        rw [mk.injEq]
        exact Or.inl ⟨henabled, hoptions⟩
  · rintro (rfl | ⟨hconfig, hother⟩)
    · rfl
    · rw [(value_eq_zero_iff config).mpr hconfig, (value_eq_zero_iff other).mpr hother]

theorem eq_disabled_iff
    (config : XssFilter) :
    config = disabled ↔
      config.enabled = false ∧ config.block = false ∧ config.reportUri = none := by
  cases config
  rw [disabled, mk.injEq]

/-- A filter passes if its receiver is a URL, and if it is on or does nothing else. -/
theorem fault?_eq_none_iff
    (config : XssFilter) :
    config.fault? = none ↔
      (∀ uri, config.reportUri = some uri → Url.isAbsolute uri = true) ∧
        (config.enabled = false → config = disabled) := by
  have hreceiver :
      (config.reportUri.any fun uri => !Url.isAbsolute uri) = false ↔
        ∀ uri, config.reportUri = some uri → Url.isAbsolute uri = true := by
    cases config.reportUri <;> simp
  rw [← hreceiver, eq_disabled_iff, fault?]
  cases config.reportUri.any fun uri => !Url.isAbsolute uri <;>
    cases config.enabled <;> cases config.block <;> simp

/-- A filter that is off passes only if it does nothing else. -/
theorem fault?_eq_none_iff_of_not_enabled
    {config : XssFilter}
    (hoff : config.enabled = false) :
    config.fault? = none ↔ config = disabled := by
  rw [fault?_eq_none_iff]
  constructor
  · intro hpasses
    exact hpasses.2 hoff
  · rintro rfl
    exact ⟨nofun, fun _ => rfl⟩

/-- Filters that pass have the same value only if they are equal. -/
theorem value_injOn :
    Set.InjOn value {config | config.fault? = none} := by
  intro config hconfig other hother hvalue
  obtain rfl | ⟨hoff, hoffOther⟩ := (value_eq_value_iff config other).mp hvalue
  · rfl
  · rw [(fault?_eq_none_iff_of_not_enabled hoff).mp hconfig,
      (fault?_eq_none_iff_of_not_enabled hoffOther).mp hother]

/-- The filters that are off and do more are those whose value is silent about an option. -/
theorem not_enabled_and_ne_disabled_iff
    (config : XssFilter) :
    config.enabled = false ∧ config ≠ disabled ↔
      config.value = "0" ∧ (config.block = true ∨ config.reportUri.isSome = true) := by
  rw [value_eq_zero_iff]
  refine and_congr_right fun hoff => ?_
  rw [Ne, eq_disabled_iff]
  cases config.block <;> cases config.reportUri <;> simp [hoff]

end XssFilter

namespace Header

/-- A filter is sent if it has no fault. -/
theorem check_xss_eq_none_iff
    (config : XssFilter) :
    (xss config).check.1 = none ↔ config.fault? = none :=
  Option.map_eq_none_iff

end Header

/--
The value of a header determines its setting: of every rule of strict transport
security, of every guard, and of every filter that passes its check.  A filter that
is off passes only if it does nothing else.  The filters that are off and do more
are those whose value, the switch alone, is silent about an option.
-/
theorem values_determine_settings :
    Function.Injective TransportSecurity.value ∧
    Function.Injective FrameGuard.value ∧
    Set.InjOn XssFilter.value {config | (Header.xss config).check.1 = none} ∧
    (∀ config : XssFilter, config.enabled = false →
      ((Header.xss config).check.1 = none ↔ config = .disabled)) ∧
    ∀ config : XssFilter,
      config.enabled = false ∧ config ≠ .disabled ↔
        config.value = "0" ∧ (config.block = true ∨ config.reportUri.isSome = true) := by
  simp only [Header.check_xss_eq_none_iff]
  exact ⟨TransportSecurity.value_injective, FrameGuard.value_injective, XssFilter.value_injOn,
    fun _ => XssFilter.fault?_eq_none_iff_of_not_enabled, XssFilter.not_enabled_and_ne_disabled_iff⟩

/--
One filter blocks and reports, the other has the words for blocking in the address of
its receiver.  Both pass, so their values differ; a filter that is off and blocks is
refused.
-/
theorem values_determine_settings_of_look_alike_receivers :
    let blocking : XssFilter :=
      { enabled := true, block := true, reportUri := some "data:x" }
    let quoting : XssFilter :=
      { enabled := true, block := false, reportUri := some "data:x; mode=block" }
    let silent : XssFilter :=
      { enabled := false, block := true, reportUri := none }
    (Header.xss blocking).check.1 = none ∧ (Header.xss quoting).check.1 = none ∧
      blocking.value ≠ quoting.value ∧
      silent.enabled = false ∧ (Header.xss silent).check.1 ≠ none := by
  intro blocking quoting silent
  obtain ⟨-, -, hpassing, hoff, -⟩ := values_determine_settings
  have hblocking : (Header.xss blocking).check.1 = none := by decide
  have hquoting : (Header.xss quoting).check.1 = none := by decide
  have hdistinct : blocking ≠ quoting := by decide
  refine ⟨hblocking, hquoting, ?_, rfl, ?_⟩
  · exact fun hvalue => hdistinct (hpassing hblocking hquoting hvalue)
  · rw [Ne, hoff silent rfl]
    decide

end ContentSecurity
