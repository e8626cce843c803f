import ContentSecurity.Header.ContentTypeOptions
import ContentSecurity.Header.Fields
import ContentSecurity.Header.FrameGuard
import ContentSecurity.Header.PolicyHeader
import ContentSecurity.Header.TransportSecurity
import ContentSecurity.Header.XssFilter

/-!
# Collections of security headers

Headers are validated and sent together, in the order in which they were added.
Applying a collection to the fields of a response sets all of its fields or
none.
-/

namespace ContentSecurity

/-- A header of a response. -/
inductive Header where
  | policy
      (config : PolicyHeader)
  | transport
      (config : TransportSecurity)
  | frame
      (config : FrameGuard)
  | xss
      (config : XssFilter)
  | contentType
      (config : ContentTypeOptions)
  /-- A header of the caller's own, which is always valid. -/
  | custom
      (name : String)
      (value : Option String)
deriving DecidableEq, Repr

namespace Header

/-- The field name. -/
def fieldName : Header → String
  | policy config => config.fieldName
  | transport _ => TransportSecurity.fieldName
  | frame _ => FrameGuard.fieldName
  | xss _ => XssFilter.fieldName
  | contentType _ => ContentTypeOptions.fieldName
  | custom name _ => name

/-- The field value; none if there is nothing to send. -/
def value? : Header → Option String
  | policy config => config.value?
  | transport config => some config.value
  | frame config => some config.value
  | xss config => some config.value
  | contentType config => some config.value
  | custom _ value => value

/--
Validates the header.  The header that is left differs in the findings that a
policy header keeps; beside it stands the reason for which it is not sent.
-/
def check : Header → Option HeaderError × Header
  | policy config => ((config.check).1, policy (config.check).2)
  | transport config =>
      (config.fault?.map (.invalidHeader TransportSecurity.fieldName), transport config)
  | frame config => (config.fault?.map (.invalidHeader FrameGuard.fieldName), frame config)
  | xss config => (config.fault?.map (.invalidHeader XssFilter.fieldName), xss config)
  | contentType config => (none, contentType config)
  | custom name value => (none, custom name value)

end Header

/-- Headers in the order in which they are sent. -/
structure HeaderCollection where
  headers : List Header := []
deriving DecidableEq, Repr

namespace HeaderCollection

/-- Every built-in header with its recommended setting. -/
def recommended : HeaderCollection :=
  { headers :=
      [.policy { policy := some Policy.baseline }, .transport .standard, .frame .deny,
       .xss .standard, .contentType .standard] }

/-- Adds a header at the end. -/
def add
    (collection : HeaderCollection)
    (header : Header) :
    HeaderCollection :=
  { headers := collection.headers ++ [header] }

/-- Validates every header, and lists all reasons against sending them. -/
def check
    (collection : HeaderCollection) :
    List HeaderError × HeaderCollection :=
  let checked := collection.headers.map (·.check)
  (checked.filterMap (·.1), { headers := checked.map (·.2) })

/-- A text without carriage returns and line feeds. -/
def dropLineBreaks
    (text : String) :
    String :=
  String.ofList (text.toList.filter fun c => c != '\r' && c != '\n')

/-- Names and values of the headers that have a value, without line breaks. -/
def build
    (collection : HeaderCollection) :
    List (String × String) :=
  collection.headers.filterMap fun header =>
    header.value?.map fun value => (dropLineBreaks header.fieldName, dropLineBreaks value)

/-- The lines of a response. -/
def lines
    (collection : HeaderCollection) :
    List String :=
  collection.build.map fun (name, value) => name ++ ": " ++ value

/-- The reason for which a name and a value cannot be sent; the name is read first. -/
def entryError?
    (entry : String × String) :
    Option HeaderError :=
  if !Fields.isName entry.1 then
    some .illegalName
  else if !Fields.isValue entry.2 then
    some .illegalValue
  else
    none

/-- The first reason for which a list of names and values cannot be sent. -/
def fieldError? : List (String × String) → Option HeaderError
  | [] => none
  | entry :: rest =>
      match entryError? entry with
      | some error => some error
      | none => fieldError? rest

/--
Validates the headers, reads their names and values, and then sets them.  Beside
the outcome stand the headers and the fields that are left.
-/
def send
    (collection : HeaderCollection)
    (fields : Fields) :
    Except HeaderError Unit × HeaderCollection × Fields :=
  match collection.check with
  | (error :: _, checked) => (.error error, checked, fields)
  | ([], checked) =>
      match fieldError? checked.build with
      | some error => (.error error, checked, fields)
      | none => (.ok (), checked, fields.setAll checked.build)

/-- Sends the headers; the fields are part of the outcome only if they were set. -/
def apply
    (collection : HeaderCollection)
    (fields : Fields) :
    Except HeaderError Fields × HeaderCollection :=
  let (outcome, checked, fields) := collection.send fields
  (outcome.map fun _ => fields, checked)

end HeaderCollection
end ContentSecurity
