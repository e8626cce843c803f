import ContentSecurity.Config.Json
import ContentSecurity.Proofs.Json.Records

/-!
# The JSON forms of configurations

The members of a configuration's record may stand in any order, and a member
that holds its standard value may be left out.  So a configuration has many JSON
forms, and each of them is read as this configuration.
-/

namespace ContentSecurity

open Json

namespace HashConfig

/-- The fields of a digest in their JSON form. -/
def jsonFields
    (hash : HashConfig) :
    List (Field.Form Value) :=
  [stringField "algorithm" hash.algorithm,
   stringField "digest" hash.digest]

/-- A JSON value that stands for a digest. -/
def IsJsonForm
    (hash : HashConfig) :
    Value → Prop :=
  IsRecordOf hash.jsonFields

theorem isJsonForm_toJson
    (hash : HashConfig) :
    hash.IsJsonForm hash.toJson :=
  ⟨_, _, .given _ _ _ _ rfl (.given _ _ _ _ rfl .nil), .refl _, rfl⟩

theorem holdsNumerals_of_isJsonForm
    (hash : HashConfig)
    (v : Value)
    (hv : hash.IsJsonForm v) :
    v.HoldsNumerals := by
  refine holdsNumerals_of_isRecordOf _ v hv ?_
  simp only [jsonFields, List.forall_mem_cons]
  exact ⟨fun _ h => h ▸ .text _, fun _ h => h ▸ .text _, nofun⟩

theorem ofJson?_of_isJsonForm
    (hash : HashConfig)
    (v : Value)
    (hv : hash.IsJsonForm v) :
    ofJson? v = some hash := by
  obtain ⟨given, hfields, hmet⟩ :=
    fields?_of_isRecordOf hash.jsonFields ["algorithm", "digest"] v rfl (by decide) hv
  obtain _ | ⟨halgorithm, _ | ⟨hdigest, _ | _⟩⟩ := hmet
  simp [ofJson?, hfields, required?_stringField _ halgorithm, required?_stringField _ hdigest]

/-- A digest is read back from each of its JSON forms. -/
theorem readsBack :
    ReadsBack toJson IsJsonForm ofJson? :=
  .of_ofJson? _ _ _ isJsonForm_toJson holdsNumerals_of_isJsonForm ofJson?_of_isJsonForm

end HashConfig

namespace DirectiveConfig

/-- The fields of an entry in their JSON form. -/
def jsonFields
    (entry : DirectiveConfig) :
    List (Field.Form Value) :=
  [stringField "name" entry.name,
   stringsField "values" entry.values,
   stringsField "experimental" entry.experimental,
   stringsField "nonces" entry.nonces,
   listField "hashes" HashConfig.IsJsonForm entry.hashes]

/-- A JSON value that stands for an entry. -/
def IsJsonForm
    (entry : DirectiveConfig) :
    Value → Prop :=
  IsRecordOf entry.jsonFields

theorem isJsonForm_toJson
    (entry : DirectiveConfig) :
    entry.IsJsonForm entry.toJson := by
  have hhashes := isListOf_map _ _ entry.hashes HashConfig.isJsonForm_toJson
  exact ⟨_, _,
    .given _ _ _ _ rfl
      (.given _ _ _ _ rfl
        (.given _ _ _ _ rfl
          (.given _ _ _ _ rfl
            (.given _ _ _ _ hhashes .nil)))),
    .refl _, rfl⟩

theorem holdsNumerals_of_isJsonForm
    (entry : DirectiveConfig)
    (v : Value)
    (hv : entry.IsJsonForm v) :
    v.HoldsNumerals := by
  have hhashes (value : Value) (h : IsListOf HashConfig.IsJsonForm entry.hashes value) :=
    holdsNumerals_of_isListOf _ _ value h HashConfig.holdsNumerals_of_isJsonForm
  refine holdsNumerals_of_isRecordOf _ v hv ?_
  simp only [jsonFields, List.forall_mem_cons]
  exact ⟨fun _ h => h ▸ .text _, fun _ h => h ▸ holdsNumerals_strings _,
    fun _ h => h ▸ holdsNumerals_strings _, fun _ h => h ▸ holdsNumerals_strings _, hhashes, nofun⟩

theorem ofJson?_of_isJsonForm
    (entry : DirectiveConfig)
    (v : Value)
    (hv : entry.IsJsonForm v) :
    ofJson? v = some entry := by
  obtain ⟨given, hfields, hmet⟩ :=
    fields?_of_isRecordOf entry.jsonFields
      ["name", "values", "experimental", "nonces", "hashes"] v rfl (by decide) hv
  obtain _ | ⟨hname, _ | ⟨hvalues, _ | ⟨hexperimental, _ | ⟨hnonces, _ | ⟨hhashes, _ | _⟩⟩⟩⟩⟩ :=
    hmet
  simp [ofJson?, hfields, required?_stringField _ hname, optional?_stringsField _ hvalues,
    optional?_stringsField _ hexperimental, optional?_stringsField _ hnonces,
    optional?_listField _ _ _ HashConfig.ofJson?_of_isJsonForm hhashes]

/-- An entry is read back from each of its JSON forms. -/
theorem readsBack :
    ReadsBack toJson IsJsonForm ofJson? :=
  .of_ofJson? _ _ _ isJsonForm_toJson holdsNumerals_of_isJsonForm ofJson?_of_isJsonForm

end DirectiveConfig

theorem Level.ofJson?_toJson
    (level : Level) :
    ofJson? level.toJson = some level := by
  cases level <;> decide

namespace PolicyConfig

/-- The fields of a configuration in their JSON form. -/
def jsonFields
    (config : PolicyConfig) :
    List (Field.Form Value) :=
  [{ key := "level", admits := (· = config.level.toJson), mayMiss := config.level = .standard },
   { key := "reduce", admits := (· = .boolean config.reduce), mayMiss := config.reduce = false },
   listField "directives" DirectiveConfig.IsJsonForm config.directives]

/-- A JSON value that stands for a configuration. -/
def IsJsonForm
    (config : PolicyConfig) :
    Value → Prop :=
  IsRecordOf config.jsonFields

theorem isJsonForm_toJson
    (config : PolicyConfig) :
    config.IsJsonForm config.toJson := by
  have hdirectives := isListOf_map _ _ config.directives DirectiveConfig.isJsonForm_toJson
  exact ⟨_, _,
    .given _ _ _ _ rfl (.given _ _ _ _ rfl (.given _ _ _ _ hdirectives .nil)), .refl _, rfl⟩

theorem holdsNumerals_of_isJsonForm
    (config : PolicyConfig)
    (v : Value)
    (hv : config.IsJsonForm v) :
    v.HoldsNumerals := by
  have hdirectives (value : Value)
      (h : IsListOf DirectiveConfig.IsJsonForm config.directives value) :=
    holdsNumerals_of_isListOf _ _ value h DirectiveConfig.holdsNumerals_of_isJsonForm
  refine holdsNumerals_of_isRecordOf _ v hv ?_
  simp only [jsonFields, List.forall_mem_cons]
  exact ⟨fun _ h => h ▸ .text _, fun _ h => h ▸ .boolean _, hdirectives, nofun⟩

theorem ofJson?_of_isJsonForm
    (config : PolicyConfig)
    (v : Value)
    (hv : config.IsJsonForm v) :
    ofJson? v = some config := by
  obtain ⟨given, hfields, hmet⟩ :=
    fields?_of_isRecordOf config.jsonFields ["level", "reduce", "directives"] v rfl (by decide) hv
  obtain _ | @⟨_, level, _, _, hlevel, _ | @⟨_, reduce, _, _, hreduce, _ | ⟨hdirectives, _ | _⟩⟩⟩ :=
    hmet
  have hlevel : Field.optional? .standard Level.ofJson? level = some config.level :=
    Field.Form.optional?_eq_some _ _ _ _ _ hlevel
      (fun _ hvalue => hvalue ▸ Level.ofJson?_toJson config.level) id
  have hreduce : Field.optional? false Value.boolean? reduce = some config.reduce :=
    Field.Form.optional?_eq_some _ _ _ _ _ hreduce (fun _ hvalue => hvalue ▸ rfl) id
  simp [ofJson?, hfields, hlevel, hreduce,
    optional?_listField _ _ _ DirectiveConfig.ofJson?_of_isJsonForm hdirectives]

/-- A configuration is read back from each of its JSON forms. -/
theorem readsBack :
    ReadsBack toJson IsJsonForm ofJson? :=
  .of_ofJson? _ _ _ isJsonForm_toJson holdsNumerals_of_isJsonForm ofJson?_of_isJsonForm

theorem ofJsonText_of_isJsonForm
    (config : PolicyConfig)
    (v : Value)
    (hv : config.IsJsonForm v) :
    ofJsonText v.write = .ok config := by
  rw [ofJsonText, readsBack.readBack config v hv]

end PolicyConfig
end ContentSecurity
