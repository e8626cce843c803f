import ContentSecurity.Header.Error
import ContentSecurity.Url.Absolute

/-!
# Cross-site scripting filter

Switches the filter that older browsers have built in.
-/

namespace ContentSecurity

/-- The setting of the filter. -/
structure XssFilter where
  enabled : Bool
  /-- Block the page instead of mending it. -/
  block : Bool
  /-- Where violations are reported. -/
  reportUri : Option String
deriving DecidableEq, Repr

namespace XssFilter

/-- The field name. -/
def fieldName : String := "X-XSS-Protection"

/-- The filter is off. -/
def disabled : XssFilter :=
  { enabled := false, block := false, reportUri := none }

/-- The filter mends pages. -/
def mending : XssFilter :=
  { enabled := true, block := false, reportUri := none }

/-- The filter blocks pages. -/
def blocking : XssFilter :=
  { enabled := true, block := true, reportUri := none }

/-- The filter that is used unless another is asked for. -/
def standard : XssFilter := blocking

/-- The field value; nothing but the switch is written while the filter is off. -/
def value
    (config : XssFilter) :
    String :=
  if !config.enabled then
    "0"
  else
    "1" ++ (if config.block then "; mode=block" else "") ++
      (match config.reportUri with
        | some uri => "; report=" ++ uri
        | none => "")

/-- The receiver of reports must be a URL, and a filter that is off does nothing else. -/
def fault?
    (config : XssFilter) :
    Option HeaderFault :=
  if config.reportUri.any fun uri => !Url.isAbsolute uri then
    some .receiverNotUrl
  else if !config.enabled && config.block then
    some .blocksWhileDisabled
  else if !config.enabled && config.reportUri.isSome then
    some .reportsWhileDisabled
  else
    none

end XssFilter
end ContentSecurity
