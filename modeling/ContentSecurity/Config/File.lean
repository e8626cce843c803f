import ContentSecurity.Config.Json
import ContentSecurity.Config.Toml

/-!
# Configuration files

The extension of a file's name, its case aside, decides how its text is read.  A
file in another format is refused before it is opened.
-/

namespace ContentSecurity

/-- The formats of configuration files. -/
inductive ConfigFormat where
  | json
  | toml
deriving DecidableEq, Repr

namespace ConfigFormat

/-- The parts of a path between its slashes; empty parts and inner single dots do not count. -/
def pathParts
    (path : List Char) :
    List (List Char) :=
  match path.splitOn '/' with
  | first :: parts =>
      (if first.isEmpty then [] else [first]) ++
        parts.filter fun part => !part.isEmpty && part != ['.']
  | [] => []

/-- The characters behind the last dot of a name, unless the dot is its first character. -/
def extensionOfName?
    (name : List Char) :
    Option (List Char) :=
  let extension := (name.reverse.takeWhile (· != '.')).reverse
  if name.length ≤ extension.length + 1 then none else some extension

/-- The extension of the file that a path leads to. -/
def extension?
    (path : String) :
    Option String :=
  match (pathParts path.toList).getLast? with
  | none => none
  | some name =>
      if name = ['.', '.'] || name = ['.'] then
        none
      else
        (extensionOfName? name).map String.ofList

/-- The format of a file. -/
def ofPath?
    (path : String) :
    Option ConfigFormat :=
  match (extension? path).map Text.lowerAscii with
  | some "json" => some json
  | some "toml" => some toml
  | _ => none

end ConfigFormat

namespace PolicyConfig

/-- Reads a configuration in a format. -/
def ofText
    (format : ConfigFormat)
    (text : String) :
    Except ConfigError PolicyConfig :=
  match format with
  | .json => ofJsonText text
  | .toml => ofTomlText text

/--
Reads a configuration file, given the bytes that opening its path yields, if it
yields any.
-/
def ofFile
    (path : String)
    (content : Option ByteArray) :
    Except ConfigError PolicyConfig :=
  match ConfigFormat.ofPath? path with
  | none => .error (.unsupportedFormat path)
  | some format =>
      match content.bind String.fromUTF8? with
      | none => .error .unreadable
      | some text => ofText format text

end PolicyConfig
end ContentSecurity
