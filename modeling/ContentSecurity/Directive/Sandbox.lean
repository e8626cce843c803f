import ContentSecurity.Directive.Basic

/-!
# Sandbox flags

Each flag lifts one restriction of a sandboxed page.
-/

namespace ContentSecurity

/-- A restriction that a sandbox value lifts. -/
inductive SandboxFlag where
  | allowForms
  | allowPointerLock
  | allowPopups
  | allowSameOrigin
  | allowScripts
  | allowTopNavigation
deriving DecidableEq, Repr

namespace SandboxFlag

/-- All flags. -/
def all : List SandboxFlag :=
  [allowForms, allowPointerLock, allowPopups, allowSameOrigin, allowScripts, allowTopNavigation]

/-- The value of the flag. -/
def name : SandboxFlag → String
  | allowForms => "allow-forms"
  | allowPointerLock => "allow-pointer-lock"
  | allowPopups => "allow-popups"
  | allowSameOrigin => "allow-same-origin"
  | allowScripts => "allow-scripts"
  | allowTopNavigation => "allow-top-navigation"

/-- The flag of a value, read exactly. -/
def ofName?
    (text : String) :
    Option SandboxFlag :=
  all.find? (·.name == text)

end SandboxFlag

/-- Appends the value of a flag. -/
def Directive.addSandboxFlag
    (d : Directive)
    (flag : SandboxFlag) :
    Directive :=
  d.addValue flag.name

end ContentSecurity
