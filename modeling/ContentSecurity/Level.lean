import ContentSecurity.Directive.Registered

/-!
# Policy levels

A level of the specification defines some directive names and considers some of
those obsolete.  A policy is judged against one level.
-/

namespace ContentSecurity

/-- The version of the specification that a policy is written for. -/
inductive Level where
  | csp1
  | csp2
deriving DecidableEq, Repr

namespace Level

/-- All levels. -/
def all : List Level :=
  [csp1, csp2]

/-- The level of a policy that asks for none. -/
def standard : Level := csp2

instance : Inhabited Level := ⟨standard⟩

/-- The name of the level. -/
def name : Level → String
  | csp1 => "CSP1"
  | csp2 => "CSP2"

/-- The level of a name, read exactly. -/
def ofName?
    (text : String) :
    Option Level :=
  all.find? (·.name == text)

/-- The directives that came with the second level. -/
def addedLater : List RegisteredDirective :=
  [.baseUri, .childSrc, .formAction, .frameAncestors, .pluginTypes]

/-- Directives that the level knows. -/
def defined : Level → List RegisteredDirective
  | csp1 => RegisteredDirective.all.filter fun d => !addedLater.contains d
  | csp2 => RegisteredDirective.all

/-- Directives that the level knows and considers obsolete. -/
def deprecated : Level → List RegisteredDirective
  | csp1 => []
  | csp2 => [.frameSrc]

/-- A name that the level knows. -/
def defines
    (level : Level)
    (directive : String) :
    Bool :=
  level.defined.any (·.name == directive)

/-- A name that the level considers obsolete. -/
def deprecates
    (level : Level)
    (directive : String) :
    Bool :=
  level.deprecated.any (·.name == directive)

end Level
end ContentSecurity
