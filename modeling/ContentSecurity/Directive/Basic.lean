import ContentSecurity.Digest.Algorithm
import ContentSecurity.Directive.Registered
import ContentSecurity.Source.Keyword
import ContentSecurity.Text.Blank
import ContentSecurity.Text.Lowercase

/-!
# Directives

A directive is a name with four stores of tokens: plain values, experimental
values and, if its kind has them, nonces and hashes.  Values enter trimmed, and
blank ones are dropped; nonces and hashes enter already wrapped in quotes.

The written form lists the name and then the stores in that order.  A directive
without plain and experimental values has no written form, whatever its nonces
and hashes are.
-/

namespace ContentSecurity

/-- One rule of a policy. -/
structure Directive where
  name : String
  kind : DirectiveKind
  values : List String := []
  experimental : List String := []
deriving DecidableEq, Repr

namespace Directive

/-- A registered directive without values. -/
def registered
    (directive : RegisteredDirective) :
    Directive :=
  { name := directive.name, kind := directive.kind }

/-- A directive outside the registered ones, without values. -/
def unregistered
    (name : String) :
    Directive :=
  { name, kind := .keyword .experimental }

/-- The registered directive that a text names, blanks around it and ASCII case aside. -/
def ofName?
    (text : String) :
    Option Directive :=
  (RegisteredDirective.ofName? (Text.lowerAscii (Text.trim text))).map registered

/-- The nonce tokens; none unless the kind stores them. -/
def nonces
    (d : Directive) :
    List String :=
  match d.kind with
  | .inline nonces _ => nonces
  | _ => []

/-- The hash tokens; none unless the kind stores them. -/
def hashes
    (d : Directive) :
    List String :=
  match d.kind with
  | .inline _ hashes => hashes
  | _ => []

/-- Whether the kind stores nonces and hashes. -/
def isInlineCapable
    (d : Directive) :
    Bool :=
  match d.kind with
  | .inline _ _ => true
  | _ => false

/-- Plain values, then experimental ones. -/
def allValues
    (d : Directive) :
    List String :=
  d.values ++ d.experimental

/-- Appends a trimmed value unless it is blank. -/
def appendTrimmed
    (values : List String)
    (value : String) :
    List String :=
  let trimmed := Text.trim value
  if trimmed = "" then values else values ++ [trimmed]

/-- Appends a plain value. -/
def addValue
    (d : Directive)
    (value : String) :
    Directive :=
  { d with values := appendTrimmed d.values value }

/-- Appends a value that is only held to the character gate. -/
def addExperimental
    (d : Directive)
    (value : String) :
    Directive :=
  { d with experimental := appendTrimmed d.experimental value }

/-- The token of a nonce. -/
def nonceToken
    (nonce : String) :
    String :=
  "'nonce-" ++ nonce ++ "'"

/-- The token of a hash. -/
def hashToken
    (algorithm digest : String) :
    String :=
  "'" ++ algorithm ++ "-" ++ digest ++ "'"

/-- Appends the token of a nonce; a blank nonce, or a kind without nonces, changes nothing. -/
def addNonce
    (d : Directive)
    (nonce : String) :
    Directive :=
  let nonce := Text.trim nonce
  if nonce = "" then
    d
  else
    match d.kind with
    | .inline nonces hashes => { d with kind := .inline (nonces ++ [nonceToken nonce]) hashes }
    | _ => d

/--
Appends the token of a hash.  The algorithm is checked by validation only; a
blank part, or a kind without hashes, changes nothing.
-/
def addHash
    (d : Directive)
    (algorithm digest : String) :
    Directive :=
  let algorithm := Text.trim algorithm
  let digest := Text.trim digest
  if algorithm = "" || digest = "" then
    d
  else
    match d.kind with
    | .inline nonces hashes =>
        { d with kind := .inline nonces (hashes ++ [hashToken algorithm digest]) }
    | _ => d

/-- Appends the hash of a script or style body. -/
def addHashOf
    (d : Directive)
    (algorithm : Digest.Algorithm)
    (content : List UInt8) :
    Directive :=
  d.addHash algorithm.name (algorithm.digestText content)

/-- Drops all nonces. -/
def resetNonces
    (d : Directive) :
    Directive :=
  match d.kind with
  | .inline _ hashes => { d with kind := .inline [] hashes }
  | _ => d

/-- Drops all hashes. -/
def resetHashes
    (d : Directive) :
    Directive :=
  match d.kind with
  | .inline nonces _ => { d with kind := .inline nonces [] }
  | _ => d

/-- The first occurrence of every text, in order. -/
def firstOccurrences : List String → List String
  | [] => []
  | value :: values => value :: (firstOccurrences values).filter (· != value)

/-- Drops repeated plain values. -/
def removeDuplicates
    (d : Directive) :
    Directive :=
  { d with values := firstOccurrences d.values }

/-- A directive without plain and experimental values. -/
def isEmpty
    (d : Directive) :
    Bool :=
  d.values.isEmpty && d.experimental.isEmpty

/-- The name and all tokens in the order of the written form. -/
def tokens
    (d : Directive) :
    List String :=
  d.name :: d.values ++ d.experimental ++ d.nonces ++ d.hashes

/-- The written form: the tokens with a space between any two, or nothing. -/
def build
    (d : Directive) :
    String :=
  if d.isEmpty then "" else " ".intercalate d.tokens

/-- Admits the page's own origin. -/
def allowSelf
    (d : Directive) :
    Directive :=
  d.addValue Source.selfKeyword

/-- Admits nothing. -/
def allowNone
    (d : Directive) :
    Directive :=
  d.addValue Source.noneKeyword

/-- Admits everything. -/
def allowAny
    (d : Directive) :
    Directive :=
  d.addValue Source.wildcard

/-- Admits inline code. -/
def allowUnsafeInline
    (d : Directive) :
    Directive :=
  d.addValue Source.unsafeInlineKeyword

/-- Admits code made at run time. -/
def allowUnsafeEval
    (d : Directive) :
    Directive :=
  d.addValue Source.unsafeEvalKeyword

end Directive
end ContentSecurity
