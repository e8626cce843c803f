/-!
# Content type options

Keeps browsers from guessing another content type than the declared one.
-/

namespace ContentSecurity

/-- The one option there is. -/
inductive ContentTypeOptions where
  | noSniff
deriving DecidableEq, Repr

namespace ContentTypeOptions

/-- The field name. -/
def fieldName : String := "X-Content-Type-Options"

/-- The option that is used unless another is asked for. -/
def standard : ContentTypeOptions := noSniff

/-- The field value. -/
def value : ContentTypeOptions → String
  | noSniff => "nosniff"

end ContentTypeOptions
end ContentSecurity
