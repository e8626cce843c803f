import ContentSecurity.Policy.Basic

/-!
# Policy configurations

A configuration describes a policy by plain texts.  Assembling it turns every
entry into a directive and adds the directives in order; the first entry that
makes no directive is the outcome.
-/

namespace ContentSecurity

/-- A hash source whose digest is known. -/
structure HashConfig where
  algorithm : String
  digest : String
deriving DecidableEq, Repr

/-- One entry of a configuration. -/
structure DirectiveConfig where
  name : String
  values : List String := []
  experimental : List String := []
  /-- Nonces without their quotes. -/
  nonces : List String := []
  hashes : List HashConfig := []
deriving DecidableEq, Repr

/-- The description of a policy. -/
structure PolicyConfig where
  level : Level := .standard
  /-- Reduce the policy once it is assembled. -/
  reduce : Bool := false
  directives : List DirectiveConfig := []
deriving DecidableEq, Repr

/-- A reason for which a configuration yields no policy. -/
inductive ConfigError where
  /-- The text is no JSON text of a configuration. -/
  | json
  /-- The text is no TOML text of a configuration. -/
  | toml
  /-- The file cannot be read as text. -/
  | unreadable
  /-- The file is in no known format. -/
  | unsupportedFormat
      (path : String)
  /-- An entry has no name. -/
  | blankDirectiveName
  /-- An entry has nonces or hashes and its directive stores none. -/
  | inlineSourcesUnsupported
      (directive : String)
deriving DecidableEq, Repr

/-- The text of an error; errors about the form of a text have none of their own. -/
def ConfigError.message? : ConfigError → Option String
  | json | toml | unreadable => none
  | unsupportedFormat path => some ("Unsupported policy configuration format: " ++ path)
  | blankDirectiveName => some "Directive name must not be blank"
  | inlineSourcesUnsupported directive =>
      some ("Directive " ++ directive ++ " does not accept nonce or hash sources")

namespace DirectiveConfig

/-- An entry with a name and nothing else. -/
def ofName
    (name : String) :
    DirectiveConfig :=
  { name }

/-- The directive that the name of an entry asks for, without values. -/
def emptyDirective
    (entry : DirectiveConfig) :
    Directive :=
  (Directive.ofName? entry.name).getD (Directive.unregistered (Text.trim entry.name))

/-- The directive of an entry. -/
def toDirective
    (entry : DirectiveConfig) :
    Except ConfigError Directive :=
  let d := entry.emptyDirective
  if Text.isBlank entry.name then
    .error .blankDirectiveName
  else if !(entry.nonces.isEmpty && entry.hashes.isEmpty) && !d.isInlineCapable then
    .error (.inlineSourcesUnsupported d.name)
  else
    let d := entry.values.foldl Directive.addValue d
    let d := entry.experimental.foldl Directive.addExperimental d
    let d := entry.nonces.foldl Directive.addNonce d
    .ok (entry.hashes.foldl (fun d hash => d.addHash hash.algorithm hash.digest) d)

end DirectiveConfig

namespace PolicyConfig

/-- Adds the directives of some entries, up to the first entry without a directive. -/
def addEntries
    (policy : Policy) :
    List DirectiveConfig → Except ConfigError Policy
  | [] => .ok policy
  | entry :: entries =>
      match entry.toDirective with
      | .error error => .error error
      | .ok d => addEntries (policy.add d) entries

/-- The policy of a configuration. -/
def toPolicy
    (config : PolicyConfig) :
    Except ConfigError Policy :=
  match addEntries (Policy.empty config.level) config.directives with
  | .error error => .error error
  | .ok policy => .ok (if config.reduce then policy.reduce else policy)

end PolicyConfig
end ContentSecurity
