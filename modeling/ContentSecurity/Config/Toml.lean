import ContentSecurity.Config.Basic
import ContentSecurity.Field
import ContentSecurity.Toml.Decoding
import ContentSecurity.Toml.Reader
import ContentSecurity.Toml.Writer

/-!
# Configurations as TOML

A configuration is the root table of a TOML text.  The written form puts the
level and the reduction first, and then each entry as a table under the common
header.
-/

namespace ContentSecurity

namespace Level

/-- Reads the TOML form. -/
def ofToml?
    (value : Toml.Value) :
    Option Level :=
  value.plainAlternative?.bind ofName?

end Level

namespace HashConfig

/-- Reads the TOML form. -/
def ofToml?
    (value : Toml.Value) :
    Option HashConfig :=
  match value.fields? ["algorithm", "digest"] with
  | some [algorithm, digest] => do
      let algorithm ← Field.required? Toml.Value.string? algorithm
      let digest ← Field.required? Toml.Value.string? digest
      some { algorithm, digest }
  | _ => none

/-- The hash as an inline table. -/
def toToml
    (hash : HashConfig) :
    List Char :=
  "\x7b algorithm = ".toList ++ Toml.writeText hash.algorithm ++
    ", digest = ".toList ++ Toml.writeText hash.digest ++ " \x7d".toList

end HashConfig

namespace DirectiveConfig

/-- Reads the TOML form. -/
def ofToml?
    (value : Toml.Value) :
    Option DirectiveConfig :=
  match value.fields? ["name", "values", "experimental", "nonces", "hashes"] with
  | some [name, values, experimental, nonces, hashes] => do
      let name ← Field.required? Toml.Value.string? name
      let values ← Field.optional? [] Toml.Value.strings? values
      let experimental ← Field.optional? [] Toml.Value.strings? experimental
      let nonces ← Field.optional? [] Toml.Value.strings? nonces
      let hashes ← Field.optional? [] (Toml.Value.list? HashConfig.ofToml?) hashes
      some { name, values, experimental, nonces, hashes }
  | _ => none

/-- The entry as a table under the common header. -/
def toToml
    (entry : DirectiveConfig) :
    List Char :=
  "[[directives]]\n".toList ++
    Toml.writeEntry "name" (Toml.writeText entry.name) ++
    Toml.writeEntry "values" (Toml.writeList Toml.writeText entry.values) ++
    Toml.writeEntry "experimental" (Toml.writeList Toml.writeText entry.experimental) ++
    Toml.writeEntry "nonces" (Toml.writeList Toml.writeText entry.nonces) ++
    Toml.writeEntry "hashes" (Toml.writeList HashConfig.toToml entry.hashes)

end DirectiveConfig

namespace PolicyConfig

/-- Reads the root table. -/
def ofToml?
    (value : Toml.Value) :
    Option PolicyConfig :=
  match value.fields? ["level", "reduce", "directives"] with
  | some [level, reduce, directives] => do
      let level ← Field.optional? .standard Level.ofToml? level
      let reduce ← Field.optional? false Toml.Value.boolean? reduce
      let directives ← Field.optional? [] (Toml.Value.list? DirectiveConfig.ofToml?) directives
      some { level, reduce, directives }
  | _ => none

/-- The written form. -/
def toToml
    (config : PolicyConfig) :
    String :=
  String.ofList
    (Toml.writeEntry "level" (Toml.writeText config.level.name) ++
      Toml.writeEntry "reduce" (if config.reduce then "true".toList else "false".toList) ++
      config.directives.flatMap DirectiveConfig.toToml)

/-- Reads a configuration from a TOML text. -/
def ofTomlText
    (text : String) :
    Except ConfigError PolicyConfig :=
  match (Toml.read? text).bind fun entries => ofToml? (.table .header entries) with
  | some config => .ok config
  | none => .error .toml

end PolicyConfig
end ContentSecurity
