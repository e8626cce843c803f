import ContentSecurity.Header.Json
import ContentSecurity.Proofs.Config.JsonForms

/-!
# The JSON forms of header settings

The settings of headers are read back as configurations are: from a record with
its members in any order, where the receiver of filter reports may be left out
if there is none.  A frame guard is no record of fields, so it has one form only.

The main statement is `json_forms_are_read_back`, for all types of configurations
and settings together.
-/

namespace ContentSecurity

open Json

namespace TransportSecurity

/-- The fields of the settings in their JSON form. -/
def jsonFields
    (config : TransportSecurity) :
    List (Field.Form Value) :=
  [.required "max_age" (· = .natural config.maxAge.toNat),
   booleanField "include_subdomains" config.includeSubdomains,
   booleanField "preload" config.preload]

/-- A JSON value that stands for the settings. -/
def IsJsonForm
    (config : TransportSecurity) :
    Value → Prop :=
  IsRecordOf config.jsonFields

theorem isJsonForm_toJson
    (config : TransportSecurity) :
    config.IsJsonForm config.toJson :=
  ⟨_, _, .given _ _ _ _ rfl (.given _ _ _ _ rfl (.given _ _ _ _ rfl .nil)), .refl _, rfl⟩

theorem holdsNumerals_of_isJsonForm
    (config : TransportSecurity)
    (v : Value)
    (hv : config.IsJsonForm v) :
    v.HoldsNumerals := by
  refine holdsNumerals_of_isRecordOf _ v hv ?_
  simp only [jsonFields, List.forall_mem_cons]
  exact ⟨fun _ h => h ▸ holdsNumerals_natural _, fun _ h => h ▸ .boolean _,
    fun _ h => h ▸ .boolean _, nofun⟩

theorem ofJson?_of_isJsonForm
    (config : TransportSecurity)
    (v : Value)
    (hv : config.IsJsonForm v) :
    ofJson? v = some config := by
  obtain ⟨given, hfields, hmet⟩ :=
    fields?_of_isRecordOf config.jsonFields
      ["max_age", "include_subdomains", "preload"] v rfl (by decide) hv
  obtain _ | @⟨_, maxAge, _, _, hmaxAge, _ | ⟨hsubdomains, _ | ⟨hpreload, _ | _⟩⟩⟩ := hmet
  have hmaxAge : Field.required? Value.natural64? maxAge = some config.maxAge :=
    Field.Form.required?_eq_some _ _ _ _ hmaxAge
      (fun _ hvalue => hvalue ▸ natural64?_natural config.maxAge) id
  simp [ofJson?, hfields, hmaxAge, required?_booleanField _ hsubdomains,
    required?_booleanField _ hpreload]

/-- The settings are read back from each of their JSON forms. -/
theorem readsBack :
    ReadsBack toJson IsJsonForm ofJson? :=
  .of_ofJson? _ _ _ isJsonForm_toJson holdsNumerals_of_isJsonForm ofJson?_of_isJsonForm

end TransportSecurity

namespace XssFilter

/-- The JSON form of the receiver of reports. -/
def reportUriJson
    (config : XssFilter) :
    Value :=
  (config.reportUri.map Value.string).getD .null

/-- The fields of the settings in their JSON form. -/
def jsonFields
    (config : XssFilter) :
    List (Field.Form Value) :=
  [booleanField "enabled" config.enabled,
   booleanField "block" config.block,
   { key := "report_uri",
     admits := (· = config.reportUriJson),
     mayMiss := config.reportUri = none }]

/-- A JSON value that stands for the settings. -/
def IsJsonForm
    (config : XssFilter) :
    Value → Prop :=
  IsRecordOf config.jsonFields

theorem isJsonForm_toJson
    (config : XssFilter) :
    config.IsJsonForm config.toJson :=
  ⟨_, _, .given _ _ _ _ rfl (.given _ _ _ _ rfl (.given _ _ _ _ rfl .nil)), .refl _, rfl⟩

theorem holdsNumerals_reportUriJson
    (config : XssFilter) :
    config.reportUriJson.HoldsNumerals := by
  rw [reportUriJson]
  cases config.reportUri with
  | none => exact .null
  | some uri => exact .text _

theorem reportUriOfJson?_reportUriJson
    (config : XssFilter) :
    reportUriOfJson? config.reportUriJson = some config.reportUri := by
  rw [reportUriJson]
  cases config.reportUri <;> rfl

theorem holdsNumerals_of_isJsonForm
    (config : XssFilter)
    (v : Value)
    (hv : config.IsJsonForm v) :
    v.HoldsNumerals := by
  refine holdsNumerals_of_isRecordOf _ v hv ?_
  simp only [jsonFields, List.forall_mem_cons]
  exact ⟨fun _ h => h ▸ .boolean _, fun _ h => h ▸ .boolean _,
    fun _ h => h ▸ holdsNumerals_reportUriJson config, nofun⟩

theorem ofJson?_of_isJsonForm
    (config : XssFilter)
    (v : Value)
    (hv : config.IsJsonForm v) :
    ofJson? v = some config := by
  have hrecord : v.isRecord = true := by
    obtain ⟨members, shuffled, -, -, rfl⟩ := hv
    rfl
  obtain ⟨given, hfields, hmet⟩ :=
    fields?_of_isRecordOf config.jsonFields ["enabled", "block", "report_uri"] v rfl (by decide) hv
  obtain _ | ⟨henabled, _ | ⟨hblock, _ | @⟨_, reportUri, _, _, hreportUri, _ | _⟩⟩⟩ := hmet
  have hreportUri : Field.optional? none reportUriOfJson? reportUri = some config.reportUri :=
    Field.Form.optional?_eq_some _ _ _ _ _ hreportUri
      (fun _ hvalue => hvalue ▸ reportUriOfJson?_reportUriJson config) id
  simp [ofJson?, hfields, hrecord, hreportUri, required?_booleanField _ henabled,
    required?_booleanField _ hblock]

/-- The settings are read back from each of their JSON forms. -/
theorem readsBack :
    ReadsBack toJson IsJsonForm ofJson? :=
  .of_ofJson? _ _ _ isJsonForm_toJson holdsNumerals_of_isJsonForm ofJson?_of_isJsonForm

end XssFilter

namespace FrameGuard

/-- A JSON value that stands for a guard: the one that is written. -/
def IsJsonForm
    (guard : FrameGuard)
    (v : Value) : Prop :=
  v = guard.toJson

theorem holdsNumerals_toJson
    (guard : FrameGuard) :
    guard.toJson.HoldsNumerals := by
  cases guard with
  | deny => exact .text _
  | sameOrigin => exact .text _
  | allowFrom origin => exact .record _ (List.forall_mem_singleton.mpr (.text _))

theorem ofJson?_toJson
    (guard : FrameGuard) :
    ofJson? guard.toJson = some guard := by
  cases guard <;> rfl

/-- A guard is read back from its JSON form. -/
theorem readsBack :
    ReadsBack toJson IsJsonForm ofJson? :=
  .of_ofJson? _ _ _ (fun _ => rfl) (fun guard _ hv => hv ▸ holdsNumerals_toJson guard)
    fun guard _ hv => hv ▸ ofJson?_toJson guard

end FrameGuard

/--
Decoding undoes encoding for every type of configurations and settings: the written form is
one of the JSON forms, and the text of every JSON form is read as what it stands for.
-/
theorem json_forms_are_read_back :
    ReadsBack HashConfig.toJson HashConfig.IsJsonForm HashConfig.ofJson? ∧
    ReadsBack DirectiveConfig.toJson DirectiveConfig.IsJsonForm DirectiveConfig.ofJson? ∧
    ReadsBack PolicyConfig.toJson PolicyConfig.IsJsonForm PolicyConfig.ofJson? ∧
    ReadsBack TransportSecurity.toJson TransportSecurity.IsJsonForm TransportSecurity.ofJson? ∧
    ReadsBack FrameGuard.toJson FrameGuard.IsJsonForm FrameGuard.ofJson? ∧
    ReadsBack XssFilter.toJson XssFilter.IsJsonForm XssFilter.ofJson? ∧
    ∀ (config : PolicyConfig) (v : Value),
      config.IsJsonForm v → PolicyConfig.ofJsonText v.write = .ok config :=
  ⟨HashConfig.readsBack, DirectiveConfig.readsBack, PolicyConfig.readsBack,
    TransportSecurity.readsBack, FrameGuard.readsBack, XssFilter.readsBack,
    PolicyConfig.ofJsonText_of_isJsonForm⟩

/-- A configuration with one directive, which holds a nonce and a digest. -/
def inlineScriptConfig : PolicyConfig :=
  { reduce := true,
    directives :=
      [{ name := "script-src",
         nonces := ["\"\n"],
         hashes := [{ algorithm := "sha256", digest := "\\\x01é" }] }] }

/-- A JSON form without level, values and experimental values, the rest out of order. -/
def inlineScriptForm : Value :=
  .object
    [("directives",
      .list
        [.object
          [("nonces", .strings ["\"\n"]),
           ("hashes",
            .list [.object [("digest", .string "\\\x01é"), ("algorithm", .string "sha256")]]),
           ("name", .string "script-src")]]),
     ("reduce", .boolean true)]

theorem isJsonForm_inlineScriptForm :
    inlineScriptConfig.IsJsonForm inlineScriptForm := by
  refine ⟨_, _, .leftOut _ _ _ rfl (.given _ _ _ _ rfl (.given _ _ _ _ ?directives .nil)),
    .swap _ _ [], rfl⟩
  refine ⟨_, .cons ?entry .nil, rfl⟩
  refine ⟨_, _, .given _ _ _ _ rfl
    (.leftOut _ _ _ rfl (.leftOut _ _ _ rfl (.given _ _ _ _ rfl (.given _ _ _ _ ?hashes .nil)))),
    List.perm_append_singleton _ [_, _], rfl⟩
  refine ⟨_, .cons ?hash .nil, rfl⟩
  exact ⟨_, _, .given _ _ _ _ rfl (.given _ _ _ _ rfl .nil), .swap _ _ [], rfl⟩

/-- The text has members left out and out of order, and strings that have to be escaped. -/
theorem json_forms_are_read_back_of_inline_script :
    inlineScriptForm.write =
        "\x7b\"directives\":[\x7b\"nonces\":[\"\\\"\\n\"]," ++
        "\"hashes\":[\x7b\"digest\":\"\\\\\\u0001é\",\"algorithm\":\"sha256\"\x7d]," ++
        "\"name\":\"script-src\"\x7d],\"reduce\":true\x7d" ∧
      PolicyConfig.ofJsonText inlineScriptForm.write = .ok inlineScriptConfig := by
  obtain ⟨-, -, -, -, -, -, hread⟩ := json_forms_are_read_back
  exact ⟨by decide +kernel, hread _ _ isJsonForm_inlineScriptForm⟩

end ContentSecurity
