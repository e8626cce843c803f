import ContentSecurity.Header.Error
import ContentSecurity.Text.Blank

/-!
# Frame guard

Says who may show the page in a frame.
-/

namespace ContentSecurity

/-- Who may frame the page. -/
inductive FrameGuard where
  /-- Nobody. -/
  | deny
  /-- The page's own origin. -/
  | sameOrigin
  /-- One named origin. -/
  | allowFrom
      (origin : String)
deriving DecidableEq, Repr

namespace FrameGuard

/-- The field name. -/
def fieldName : String := "X-Frame-Options"

/-- The guard that is used unless another is asked for. -/
def standard : FrameGuard := sameOrigin

/-- The field value. -/
def value : FrameGuard → String
  | deny => "DENY"
  | sameOrigin => "SAMEORIGIN"
  | allowFrom origin => "ALLOW-FROM " ++ origin

/-- A named origin may not be blank. -/
def fault? : FrameGuard → Option HeaderFault
  | allowFrom origin => if Text.isBlank origin then some .originMissing else none
  | _ => none

end FrameGuard
end ContentSecurity
