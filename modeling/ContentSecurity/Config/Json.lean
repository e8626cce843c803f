import ContentSecurity.Config.Basic
import ContentSecurity.Directive.Sandbox
import ContentSecurity.Field
import ContentSecurity.Json.Decoding
import ContentSecurity.Json.Reader
import ContentSecurity.Json.Writer

/-!
# Configurations as JSON

Every configuration type has a JSON form.  Fields are written in a fixed order
and all of them are written; on reading, a field with a standard value may be
missing.
-/

namespace ContentSecurity

namespace Level

/-- The JSON form. -/
def toJson
    (level : Level) :
    Json.Value :=
  .string level.name

/-- Reads the JSON form. -/
def ofJson?
    (value : Json.Value) :
    Option Level :=
  value.plainAlternative?.bind ofName?

end Level

namespace Digest.Algorithm

/-- The JSON form. -/
def toJson
    (algorithm : Algorithm) :
    Json.Value :=
  .string algorithm.name

/-- Reads the JSON form. -/
def ofJson?
    (value : Json.Value) :
    Option Algorithm :=
  value.plainAlternative?.bind ofName?

end Digest.Algorithm

namespace SandboxFlag

/-- The JSON form. -/
def toJson
    (flag : SandboxFlag) :
    Json.Value :=
  .string flag.name

/-- Reads the JSON form. -/
def ofJson?
    (value : Json.Value) :
    Option SandboxFlag :=
  value.plainAlternative?.bind ofName?

end SandboxFlag

namespace Report

/-- The JSON form. -/
def toJson
    (report : Report) :
    Json.Value :=
  .object [("errors", .strings report.errors), ("warnings", .strings report.warnings)]

end Report

namespace HashConfig

/-- The JSON form. -/
def toJson
    (hash : HashConfig) :
    Json.Value :=
  .object [("algorithm", .string hash.algorithm), ("digest", .string hash.digest)]

/-- Reads the JSON form. -/
def ofJson?
    (value : Json.Value) :
    Option HashConfig :=
  match value.fields? ["algorithm", "digest"] with
  | some [algorithm, digest] => do
      let algorithm ← Field.required? Json.Value.string? algorithm
      let digest ← Field.required? Json.Value.string? digest
      some { algorithm, digest }
  | _ => none

end HashConfig

namespace DirectiveConfig

/-- The JSON form. -/
def toJson
    (entry : DirectiveConfig) :
    Json.Value :=
  .object
    [("name", .string entry.name),
     ("values", .strings entry.values),
     ("experimental", .strings entry.experimental),
     ("nonces", .strings entry.nonces),
     ("hashes", .list (entry.hashes.map HashConfig.toJson))]

/-- Reads the JSON form. -/
def ofJson?
    (value : Json.Value) :
    Option DirectiveConfig :=
  match value.fields? ["name", "values", "experimental", "nonces", "hashes"] with
  | some [name, values, experimental, nonces, hashes] => do
      let name ← Field.required? Json.Value.string? name
      let values ← Field.optional? [] Json.Value.strings? values
      let experimental ← Field.optional? [] Json.Value.strings? experimental
      let nonces ← Field.optional? [] Json.Value.strings? nonces
      let hashes ← Field.optional? [] (Json.Value.list? HashConfig.ofJson?) hashes
      some { name, values, experimental, nonces, hashes }
  | _ => none

end DirectiveConfig

namespace PolicyConfig

/-- The JSON form. -/
def toJson
    (config : PolicyConfig) :
    Json.Value :=
  .object
    [("level", config.level.toJson),
     ("reduce", .boolean config.reduce),
     ("directives", .list (config.directives.map DirectiveConfig.toJson))]

/-- Reads the JSON form. -/
def ofJson?
    (value : Json.Value) :
    Option PolicyConfig :=
  match value.fields? ["level", "reduce", "directives"] with
  | some [level, reduce, directives] => do
      let level ← Field.optional? .standard Level.ofJson? level
      let reduce ← Field.optional? false Json.Value.boolean? reduce
      let directives ← Field.optional? [] (Json.Value.list? DirectiveConfig.ofJson?) directives
      some { level, reduce, directives }
  | _ => none

/-- Reads a configuration from a JSON text. -/
def ofJsonText
    (text : String) :
    Except ConfigError PolicyConfig :=
  match (Json.Value.read? text).bind ofJson? with
  | some config => .ok config
  | none => .error .json

end PolicyConfig
end ContentSecurity
