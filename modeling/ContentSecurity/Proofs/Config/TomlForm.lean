import ContentSecurity.Config.File
import ContentSecurity.Proofs.Config.JsonForms
import ContentSecurity.Proofs.Toml.Lines

/-!
# The TOML form of configurations

The written form of a configuration is a text of lines, two for the level and
the reduction and a block of lines for each entry.  Carrying the lines out yields
the two values and an array of tables, one for each entry, and taking these apart
yields the configuration again.

The main statement is `toml_and_json_forms_agree`: the TOML form and the JSON form
of a configuration are read as the same configuration, and so they make the same
policy or fail for the same reason.
-/

namespace ContentSecurity

open Toml (Entries Statement WritesLine WritesValues)

namespace HashConfig

/-- The value of a digest's inline table. -/
def tomlValue
    (hash : HashConfig) :
    Toml.Value :=
  .table .inline [("algorithm", .text hash.algorithm), ("digest", .text hash.digest)]

theorem toToml_append
    (hash : HashConfig)
    (rest : List Char) :
    hash.toToml ++ rest =
      '{' :: ' ' ::
        (Toml.assignmentText "algorithm" (Toml.writeText hash.algorithm) ++
          (',' :: ' ' ::
            (Toml.assignmentText "digest" (Toml.writeText hash.digest) ++
              (' ' :: '}' :: rest)))) := by
  have hwritten :
      hash.toToml =
        "\x7b algorithm = ".toList ++ Toml.writeText hash.algorithm ++
          ", digest = ".toList ++ Toml.writeText hash.digest ++ " \x7d".toList :=
    rfl
  simp [hwritten, Toml.assignmentText]

/-- Inline tables of digests are understood. -/
theorem writesValues_toToml
    (depth : Nat) :
    WritesValues (Toml.value? (depth + 1)) toToml tomlValue where
  opens := fun hash => by
    have htext := toToml_append hash []
    rw [List.append_nil] at htext
    exact ⟨'{', _, htext, by decide, by decide⟩
  reads := fun hash rest _ => by
    have hwrites := Toml.writesValues_text depth
    have hcomma (text : List Char) : Toml.skipFiller? false (',' :: text) = some (',' :: text) :=
      rfl
    have hclose (text : List Char) :
        Toml.skipFiller? false (' ' :: '}' :: text) = some ('}' :: text) :=
      rfl
    rw [toToml_append, Toml.value?_openTable,
      Toml.inlineEntries?_of_assignment _ "algorithm" _ _ _ [] _ (by decide)
        (hwrites.skipFiller? _ _) (hwrites.reads _ _ (by simp)) rfl, hcomma]
    simp only [List.nil_append]
    rw [List.length_cons,
      Toml.inlineEntries?_of_assignment _ "digest" _ _ _ _ _ (by decide)
        (hwrites.skipFiller? _ _) (hwrites.reads _ _ (by simp)) (by simp [Toml.lookup?]), hclose]
    rfl

theorem ofToml?_tomlValue
    (hash : HashConfig) :
    ofToml? hash.tomlValue = some hash := by
  have hfields :
      Toml.Value.fields? ["algorithm", "digest"] hash.tomlValue =
        some [some (.text hash.algorithm), some (.text hash.digest)] :=
    rfl
  simp [ofToml?, hfields, Field.required?, Toml.Value.string?]

end HashConfig

theorem Toml.Value.list?_of_items?
    {α : Type}
    (item? : Toml.Value → Option α)
    (toValue : α → Toml.Value)
    (holds : List α)
    (value : Toml.Value)
    (hitems : value.items? = some (holds.map toValue))
    (hitem : ∀ a, item? (toValue a) = some a) :
    value.list? item? = some holds := by
  rw [list?, hitems, Option.bind_some]
  refine Field.mapM_eq_some_of_forall₂ item? _ _ ?_
  rw [List.forall₂_map_left_iff, List.forall₂_same]
  exact fun a _ => hitem a

namespace DirectiveConfig

/-- The value of an array of strings. -/
def tomlStrings
    (texts : List String) :
    Toml.Value :=
  .list (texts.map .text)

/-- The table of an entry. -/
def tomlEntries
    (entry : DirectiveConfig) :
    Entries :=
  [("name", .text entry.name),
   ("values", tomlStrings entry.values),
   ("experimental", tomlStrings entry.experimental),
   ("nonces", tomlStrings entry.nonces),
   ("hashes", .list (entry.hashes.map HashConfig.tomlValue))]

/-- The lines of an entry, without their ends. -/
def tomlLines
    (entry : DirectiveConfig) :
    List (List Char) :=
  [Toml.elementLine "directives",
   Toml.assignmentText "name" (Toml.writeText entry.name),
   Toml.assignmentText "values" (Toml.writeList Toml.writeText entry.values),
   Toml.assignmentText "experimental" (Toml.writeList Toml.writeText entry.experimental),
   Toml.assignmentText "nonces" (Toml.writeList Toml.writeText entry.nonces),
   Toml.assignmentText "hashes" (Toml.writeList HashConfig.toToml entry.hashes)]

theorem toToml_eq
    (entry : DirectiveConfig) :
    entry.toToml = entry.tomlLines.flatMap (· ++ ['\n']) := by
  have hwritten :
      entry.toToml =
        "[[directives]]\n".toList ++
          (Toml.assignmentText "name" (Toml.writeText entry.name) ++ ['\n']) ++
          (Toml.assignmentText "values" (Toml.writeList Toml.writeText entry.values) ++ ['\n']) ++
          (Toml.assignmentText "experimental"
            (Toml.writeList Toml.writeText entry.experimental) ++ ['\n']) ++
          (Toml.assignmentText "nonces" (Toml.writeList Toml.writeText entry.nonces) ++ ['\n']) ++
          (Toml.assignmentText "hashes"
            (Toml.writeList HashConfig.toToml entry.hashes) ++ ['\n']) :=
    rfl
  have hheader : "[[directives]]\n".toList = Toml.elementLine "directives" ++ ['\n'] := by
    simp [Toml.elementLine]
  rw [hwritten, hheader]
  simp [tomlLines]

theorem writesLine_tomlLines
    (entry : DirectiveConfig) :
    List.Forall₂ WritesLine entry.tomlLines
      (Toml.elementStatements "directives" entry.tomlEntries) := by
  have hname := (Toml.writesValues_text Toml.maxDepth).writesLine "name" entry.name (by decide)
  have hstrings (key : String) (texts : List String) (hkey : Toml.isBareKey key = true) :
      WritesLine (Toml.assignmentText key (Toml.writeList Toml.writeText texts))
        (.ofEntry (key, tomlStrings texts)) :=
    (Toml.writesValues_text (Toml.maxDepth - 1)).list.writesLine key texts hkey
  have hhashes :
      WritesLine (Toml.assignmentText "hashes" (Toml.writeList HashConfig.toToml entry.hashes))
        (.ofEntry ("hashes", .list (entry.hashes.map HashConfig.tomlValue))) :=
    (HashConfig.writesValues_toToml (Toml.maxDepth - 2)).list.writesLine "hashes" _ (by decide)
  exact .cons (Toml.writesLine_element "directives" (by decide)) (.cons hname
    (.cons (hstrings "values" _ (by decide)) (.cons (hstrings "experimental" _ (by decide))
      (.cons (hstrings "nonces" _ (by decide)) (.cons hhashes .nil)))))

theorem ofToml?_tomlEntries
    (entry : DirectiveConfig) :
    ofToml? (.table .header entry.tomlEntries) = some entry := by
  have hstrings (texts : List String) : (tomlStrings texts).strings? = some texts :=
    Toml.Value.list?_of_items? _ _ texts _ rfl fun _ => rfl
  have hhashes :=
    Toml.Value.list?_of_items? _ _ entry.hashes (.list (entry.hashes.map HashConfig.tomlValue)) rfl
      HashConfig.ofToml?_tomlValue
  have hfields :
      Toml.Value.fields? ["name", "values", "experimental", "nonces", "hashes"]
          (.table .header entry.tomlEntries) =
        some [some (.text entry.name), some (tomlStrings entry.values),
          some (tomlStrings entry.experimental), some (tomlStrings entry.nonces),
          some (.list (entry.hashes.map HashConfig.tomlValue))] :=
    rfl
  simp [ofToml?, hfields, Field.required?, Field.optional?, Toml.Value.string?, hstrings, hhashes]

end DirectiveConfig

namespace PolicyConfig

/-- The entries before the array of tables. -/
def tomlBase
    (config : PolicyConfig) :
    Entries :=
  [("level", .text config.level.name), ("reduce", .boolean config.reduce)]

/-- The lines of a configuration, without their ends. -/
def tomlLines
    (config : PolicyConfig) :
    List (List Char) :=
  Toml.assignmentText "level" (Toml.writeText config.level.name) ::
  Toml.assignmentText "reduce" (if config.reduce then "true".toList else "false".toList) ::
  config.directives.flatMap DirectiveConfig.tomlLines

/-- The statements of a configuration. -/
def tomlStatements
    (config : PolicyConfig) :
    List Statement :=
  config.tomlBase.map .ofEntry ++
    (config.directives.map DirectiveConfig.tomlEntries).flatMap
      (Toml.elementStatements "directives")

/-- The document that the statements lead to. -/
def tomlDocument
    (config : PolicyConfig) :
    Toml.Document :=
  .withTables config.tomlBase "directives" (config.directives.map DirectiveConfig.tomlEntries)

theorem toToml_eq
    (config : PolicyConfig) :
    config.toToml = String.ofList (config.tomlLines.flatMap (· ++ ['\n'])) := by
  have hwritten :
      config.toToml =
        String.ofList
          ((Toml.assignmentText "level" (Toml.writeText config.level.name) ++ ['\n']) ++
            (Toml.assignmentText "reduce"
              (if config.reduce then "true".toList else "false".toList) ++ ['\n']) ++
            config.directives.flatMap DirectiveConfig.toToml) :=
    rfl
  have hdirectives :
      config.directives.flatMap DirectiveConfig.toToml =
        (config.directives.flatMap DirectiveConfig.tomlLines).flatMap (· ++ ['\n']) := by
    rw [List.flatMap_assoc]
    exact List.flatMap_congr fun entry _ => entry.toToml_eq
  rw [hwritten, hdirectives, tomlLines]
  simp only [List.flatMap_cons, List.append_assoc]

theorem writesLine_tomlLines
    (config : PolicyConfig) :
    List.Forall₂ WritesLine config.tomlLines config.tomlStatements := by
  have hlevel :=
    (Toml.writesValues_text Toml.maxDepth).writesLine "level" config.level.name (by decide)
  have hreduce :
      WritesLine
        (Toml.assignmentText "reduce" (if config.reduce then "true".toList else "false".toList))
        (.ofEntry ("reduce", .boolean config.reduce)) := by
    cases config.reduce with
    | true =>
        exact Toml.writesLine_entry "reduce" _ _ (by decide) ⟨'t', _, rfl, by decide⟩ fun _ => rfl
    | false =>
        exact Toml.writesLine_entry "reduce" _ _ (by decide) ⟨'f', _, rfl, by decide⟩ fun _ => rfl
  refine .cons hlevel (.cons hreduce ?_)
  rw [List.flatMap_map]
  induction config.directives with
  | nil => exact .nil
  | cons entry directives ih => exact List.rel_append entry.writesLine_tomlLines ih

/-- The lines of a configuration make up its document. -/
theorem read?_toToml
    (config : PolicyConfig) :
    Toml.read? config.toToml = some config.tomlDocument.entries := by
  have hbase :
      (config.tomlBase.map Statement.ofEntry).foldlM Toml.Document.step? {} =
        some (.withTables config.tomlBase "directives" []) :=
    rfl
  have hdistinct :
      ∀ entries ∈ config.directives.map DirectiveConfig.tomlEntries, (entries.map (·.1)).Nodup := by
    rw [List.forall_mem_map]
    intro entry _
    have hkeys :
        entry.tomlEntries.map (·.1) = ["name", "values", "experimental", "nonces", "hashes"] :=
      rfl
    rw [hkeys]
    decide
  have htables :=
    Toml.Document.foldlM_elements config.tomlBase "directives" (by simp [Toml.lookup?, tomlBase]) []
      (config.directives.map DirectiveConfig.tomlEntries) hdistinct
  have hmark : (config.tomlLines.flatMap (· ++ ['\n'])).head? ≠ some Toml.byteOrderMark := by
    have hkey : "level".toList = ['l', 'e', 'v', 'e', 'l'] := by simp
    have hhead : (config.tomlLines.flatMap (· ++ ['\n'])).head? = some 'l' := by
      rw [tomlLines, List.flatMap_cons, Toml.assignmentText, hkey]
      rfl
    rw [hhead]
    decide
  rw [toToml_eq, Toml.read?_of_writesLines _ _ config.writesLine_tomlLines hmark, tomlStatements,
    List.foldlM_append, hbase, Option.bind_eq_bind, Option.bind_some, htables]
  rfl

theorem ofToml?_tomlDocument
    (config : PolicyConfig) :
    ofToml? (.table .header config.tomlDocument.entries) = some config := by
  obtain ⟨level, reduce, directives⟩ := config
  have hlevel : Level.ofToml? (.text level.name) = some level := by
    cases level <;> decide
  cases directives with
  | nil =>
      -- Without an entry there is no array of tables.
      have hfields :
          Toml.Value.fields? ["level", "reduce", "directives"]
              (.table .header (tomlDocument { level, reduce, directives := [] }).entries) =
            some [some (.text level.name), some (.boolean reduce), none] :=
        rfl
      simp [ofToml?, hfields, Field.optional?, Toml.Value.boolean?, hlevel]
  | cons entry directives =>
      have hfields :
          Toml.Value.fields? ["level", "reduce", "directives"]
              (.table .header
                (tomlDocument { level, reduce, directives := entry :: directives }).entries) =
            some [some (.text level.name), some (.boolean reduce),
              some (.tables ((entry :: directives).map DirectiveConfig.tomlEntries))] :=
        rfl
      have hdirectives :=
        Toml.Value.list?_of_items? _ _ (entry :: directives)
          (.tables ((entry :: directives).map DirectiveConfig.tomlEntries))
          (by simp [Toml.Value.items?]) DirectiveConfig.ofToml?_tomlEntries
      simp only [ofToml?, hfields, Field.optional?, Toml.Value.boolean?, hlevel, hdirectives]
      rfl

theorem ofTomlText_toToml
    (config : PolicyConfig) :
    ofTomlText config.toToml = .ok config := by
  rw [ofTomlText, read?_toToml, Option.bind_some, ofToml?_tomlDocument]

/-- A file that holds a text is read as this text, in the format that its path tells. -/
theorem ofFile_toUTF8
    (path : String)
    (format : ConfigFormat)
    (text : String)
    (hformat : ConfigFormat.ofPath? path = some format) :
    ofFile path (some text.toUTF8) = ofText format text := by
  have htext : String.fromUTF8? text.toUTF8 = some text := by
    rw [String.fromUTF8?, String.toUTF8_eq_toByteArray, dif_pos text.isValidUTF8]
    rfl
  rw [ofFile, hformat]
  dsimp only
  rw [Option.bind_some, htext]

/--
The TOML form and the JSON form of a configuration are both read as the configuration itself.
So the two texts, and files that hold them, make the same policy or fail for the same reason.
-/
theorem toml_and_json_forms_agree
    (config : PolicyConfig) :
    ofTomlText config.toToml = .ok config ∧
    ofJsonText config.toJson.write = .ok config ∧
    (ofTomlText config.toToml).bind toPolicy = config.toPolicy ∧
    (ofJsonText config.toJson.write).bind toPolicy = config.toPolicy ∧
    ∀ tomlPath jsonPath : String,
      ConfigFormat.ofPath? tomlPath = some .toml →
      ConfigFormat.ofPath? jsonPath = some .json →
      (ofFile tomlPath (some config.toToml.toUTF8)).bind toPolicy =
        (ofFile jsonPath (some config.toJson.write.toUTF8)).bind toPolicy := by
  have htoml := config.ofTomlText_toToml
  have hjson := config.ofJsonText_of_isJsonForm _ config.isJsonForm_toJson
  refine ⟨htoml, hjson, ?_, ?_, fun tomlPath jsonPath htomlPath hjsonPath => ?_⟩
  · rw [htoml, Except.bind]
  · rw [hjson, Except.bind]
  · rw [ofFile_toUTF8 tomlPath .toml _ htomlPath, ofFile_toUTF8 jsonPath .json _ hjsonPath,
      ofText, ofText, htoml, hjson]

/-- A configuration whose digest holds a quote and a line break. -/
def quotedDigestConfig : PolicyConfig :=
  { directives :=
      [{ name := "script-src",
         values := ["https:"],
         hashes := [{ algorithm := "sha256", digest := "\"\n" }] }] }

/-- Either form writes the quote and the line break in its own way, and both are read back. -/
theorem toml_and_json_forms_agree_of_quoted_digest :
    quotedDigestConfig.toToml =
        "level = \"CSP2\"\nreduce = false\n[[directives]]\nname = \"script-src\"\n" ++
        "values = [\"https:\"]\nexperimental = []\nnonces = []\n" ++
        "hashes = [\x7b algorithm = \"sha256\", digest = \"\\u0022\\u000a\" \x7d]\n" ∧
      ConfigFormat.ofPath? "policy.toml" = some .toml ∧
      ConfigFormat.ofPath? "policy.JSON" = some .json ∧
      (ofFile "policy.toml" (some quotedDigestConfig.toToml.toUTF8)).bind toPolicy =
        (ofFile "policy.JSON" (some quotedDigestConfig.toJson.write.toUTF8)).bind toPolicy := by
  have htoml : ConfigFormat.ofPath? "policy.toml" = some .toml := by decide +kernel
  have hjson : ConfigFormat.ofPath? "policy.JSON" = some .json := by decide +kernel
  obtain ⟨-, -, -, -, hfiles⟩ := toml_and_json_forms_agree quotedDigestConfig
  exact ⟨by decide +kernel, htoml, hjson, hfiles "policy.toml" "policy.JSON" htoml hjson⟩

end PolicyConfig

end ContentSecurity
