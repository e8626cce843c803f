/-!
# Registered directives

The directives that have a fixed name and, with it, a fixed rule for their
values.  Every other name belongs to an experimental directive.
-/

namespace ContentSecurity

/-- The rule of a directive whose values are no source list. -/
inductive KeywordRule where
  /-- Sandbox flags; every value passes. -/
  | sandbox
  /-- Media types. -/
  | pluginTypes
  /-- Absolute URLs. -/
  | reportUri
  /-- Keywords, hosts and schemes that may frame the page. -/
  | frameAncestors
  /-- No rule but the character gate. -/
  | experimental
deriving DecidableEq, Repr

/-- What a directive stores beside its values, and how it checks them. -/
inductive DirectiveKind where
  /-- Values under a rule of their own. -/
  | keyword
      (rule : KeywordRule)
  /-- Values of the source grammar. -/
  | sourceList
  /-- Values of the source grammar with the unsafe keywords, and nonces and hashes. -/
  | inline
      (nonces : List String)
      (hashes : List String)
deriving DecidableEq, Repr

/-- The directives with a fixed name. -/
inductive RegisteredDirective where
  | baseUri
  | childSrc
  | connectSrc
  | defaultSrc
  | fontSrc
  | formAction
  | frameAncestors
  | frameSrc
  | imgSrc
  | mediaSrc
  | objectSrc
  | pluginTypes
  | reportUri
  | sandbox
  | scriptSrc
  | styleSrc
deriving DecidableEq, Repr

namespace RegisteredDirective

/-- All of them, by name. -/
def all : List RegisteredDirective :=
  [baseUri, childSrc, connectSrc, defaultSrc, fontSrc, formAction, frameAncestors, frameSrc,
   imgSrc, mediaSrc, objectSrc, pluginTypes, reportUri, sandbox, scriptSrc, styleSrc]

/-- The name in a policy. -/
def name : RegisteredDirective → String
  | baseUri => "base-uri"
  | childSrc => "child-src"
  | connectSrc => "connect-src"
  | defaultSrc => "default-src"
  | fontSrc => "font-src"
  | formAction => "form-action"
  | frameAncestors => "frame-ancestors"
  | frameSrc => "frame-src"
  | imgSrc => "img-src"
  | mediaSrc => "media-src"
  | objectSrc => "object-src"
  | pluginTypes => "plugin-types"
  | reportUri => "report-uri"
  | sandbox => "sandbox"
  | scriptSrc => "script-src"
  | styleSrc => "style-src"

/-- The rule for the values. -/
def kind : RegisteredDirective → DirectiveKind
  | sandbox => .keyword .sandbox
  | pluginTypes => .keyword .pluginTypes
  | reportUri => .keyword .reportUri
  | frameAncestors => .keyword .frameAncestors
  | scriptSrc | styleSrc => .inline [] []
  | _ => .sourceList

/-- The registered directive of a name, read exactly. -/
def ofName?
    (text : String) :
    Option RegisteredDirective :=
  all.find? (·.name == text)

end RegisteredDirective
end ContentSecurity
