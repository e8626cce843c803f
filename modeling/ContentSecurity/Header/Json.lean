import ContentSecurity.Field
import ContentSecurity.Header.Collection
import ContentSecurity.Json.Decoding
import ContentSecurity.Json.Reader
import ContentSecurity.Json.Writer

/-!
# Header settings as JSON

The settings of the headers have JSON forms like those of the configurations.
-/

namespace ContentSecurity

namespace TransportSecurity

/-- The JSON form. -/
def toJson
    (config : TransportSecurity) :
    Json.Value :=
  .object
    [("max_age", .natural config.maxAge.toNat),
     ("include_subdomains", .boolean config.includeSubdomains),
     ("preload", .boolean config.preload)]

/-- Reads the JSON form. -/
def ofJson?
    (value : Json.Value) :
    Option TransportSecurity :=
  match value.fields? ["max_age", "include_subdomains", "preload"] with
  | some [maxAge, includeSubdomains, preload] => do
      let maxAge ← Field.required? Json.Value.natural64? maxAge
      let includeSubdomains ← Field.required? Json.Value.boolean? includeSubdomains
      let preload ← Field.required? Json.Value.boolean? preload
      some { maxAge, includeSubdomains, preload }
  | _ => none

end TransportSecurity

namespace FrameGuard

/-- The JSON form. -/
def toJson : FrameGuard → Json.Value
  | deny => .string "Deny"
  | sameOrigin => .string "SameOrigin"
  | allowFrom origin => .object [("AllowFrom", .string origin)]

/-- Reads the JSON form. -/
def ofJson?
    (value : Json.Value) :
    Option FrameGuard :=
  match value.alternative? with
  | some ("AllowFrom", some origin) => origin.string?.map allowFrom
  | _ =>
      match value.plainAlternative? with
      | some "Deny" => some deny
      | some "SameOrigin" => some sameOrigin
      | _ => none

end FrameGuard

namespace XssFilter

/-- The JSON form. -/
def toJson
    (config : XssFilter) :
    Json.Value :=
  .object
    [("enabled", .boolean config.enabled),
     ("block", .boolean config.block),
     ("report_uri", (config.reportUri.map Json.Value.string).getD .null)]

/-- A text, or nothing for a null. -/
def reportUriOfJson?
    (value : Json.Value) :
    Option (Option String) :=
  if value.isNull then some none else value.string?.map some

/-- Reads the JSON form; only a record may leave out the receiver of reports. -/
def ofJson?
    (value : Json.Value) :
    Option XssFilter :=
  match value.fields? ["enabled", "block", "report_uri"] with
  | some [enabled, block, reportUri] => do
      let enabled ← Field.required? Json.Value.boolean? enabled
      let block ← Field.required? Json.Value.boolean? block
      let reportUri ←
        if value.isRecord then
          Field.optional? none reportUriOfJson? reportUri
        else
          Field.required? reportUriOfJson? reportUri
      some { enabled, block, reportUri }
  | _ => none

end XssFilter

namespace ContentTypeOptions

/-- The JSON form. -/
def toJson : ContentTypeOptions → Json.Value
  | noSniff => .string "NoSniff"

/-- Reads the JSON form. -/
def ofJson?
    (value : Json.Value) :
    Option ContentTypeOptions :=
  match value.plainAlternative? with
  | some "NoSniff" => some noSniff
  | _ => none

end ContentTypeOptions

namespace PolicyHeaderName

/-- The name of the family. -/
def name : PolicyHeaderName → String
  | csp => "Csp"
  | xCsp => "XCsp"
  | webkit => "Webkit"

/-- The family of a name, read exactly. -/
def ofName?
    (text : String) :
    Option PolicyHeaderName :=
  all.find? (·.name == text)

/-- The JSON form. -/
def toJson
    (family : PolicyHeaderName) :
    Json.Value :=
  .string family.name

/-- Reads the JSON form. -/
def ofJson?
    (value : Json.Value) :
    Option PolicyHeaderName :=
  value.plainAlternative?.bind ofName?

end PolicyHeaderName
end ContentSecurity
