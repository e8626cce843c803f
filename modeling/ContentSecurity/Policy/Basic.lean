import ContentSecurity.Directive.Basic
import ContentSecurity.Level
import ContentSecurity.Report

/-!
# Policies

A policy is an ordered collection of directives, at most one for each name,
together with the level it is written for and the report of its validations.

Adding a directive under a present name replaces the old one in its place.  No
second directive of one name, and none with a blank name, is ever added.
-/

namespace ContentSecurity

/-- An ordered set of directives for a level. -/
structure Policy where
  directives : List Directive := []
  level : Level := .standard
  report : Report := {}
deriving DecidableEq, Repr

namespace Policy

/-- The separator of directives in the written form. -/
def separator : String := "; "

/-- A policy without directives. -/
def empty
    (level : Level) :
    Policy :=
  { level }

/-- Puts a directive in the place of the first one of its name, or at the end. -/
def place
    (d : Directive) :
    List Directive → List Directive
  | [] => [d]
  | other :: others =>
      if other.name = d.name then d :: others else other :: place d others

/-- Adds a directive, unless its name is blank. -/
def add
    (policy : Policy)
    (d : Directive) :
    Policy :=
  if Text.isBlank d.name then
    policy
  else
    { policy with directives := place d policy.directives }

/-- The directive of a name. -/
def get?
    (policy : Policy)
    (name : String) :
    Option Directive :=
  policy.directives.find? (·.name == name)

/-- Changes the first directive of a name. -/
def modifyFirst
    (name : String)
    (change : Directive → Directive) :
    List Directive → List Directive
  | [] => []
  | d :: others =>
      if d.name = name then change d :: others else d :: modifyFirst name change others

/-- Changes the directive of a name, if there is one. -/
def modify
    (policy : Policy)
    (name : String)
    (change : Directive → Directive) :
    Policy :=
  { policy with directives := modifyFirst name change policy.directives }

/-- Removes the directive of a name, if there is one. -/
def remove
    (policy : Policy)
    (name : String) :
    Policy :=
  { policy with directives := policy.directives.eraseP (·.name == name) }

/-- Drops repeated values, and then the directives that have no written form. -/
def reduce
    (policy : Policy) :
    Policy :=
  let deduplicated := policy.directives.map (·.removeDuplicates)
  { policy with directives := deduplicated.filter fun d => !d.isEmpty }

/-- Forgets all findings. -/
def resetReport
    (policy : Policy) :
    Policy :=
  { policy with report := {} }

/-- The written form: the written forms of the directives, as far as they have one. -/
def build
    (policy : Policy) :
    String :=
  separator.intercalate ((policy.directives.map (·.build)).filter (· != ""))

end Policy
end ContentSecurity
