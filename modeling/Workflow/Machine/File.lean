import Workflow.Machine.Decode
import Workflow.Machine.Validate
import Workflow.Decode.Text
import Workflow.Decode.Yaml
import Workflow.Host.Basic
/-! # Definition files

A definition file holds a catalog of machines, as JSON or as YAML.  The format is chosen
by the file's extension: `yml` and `yaml` (in lower case) are YAML, every other name is
JSON.  A file that cannot be read, or is not UTF-8, is a `read` error naming the path.
-/

namespace Workflow

/-- The last component of a path, unless the path ends in `..`. -/
def fileName (p : String) : Option String :=
  match (p.splitOn "/").filter (fun c => !c.isEmpty && c != ".") |>.getLast? with
  | some ".." => none
  | some n => some n
  | none => none

/-- The extension of a path: what follows the last `.` of its file name, unless that `.`
starts the name. -/
def pathExtension (p : String) : Option String :=
  match fileName p with
  | some n =>
    match n.splitOn "." with
    | [] | [_] => none
    | parts =>
      if n.startsWith "." && parts.length == 2 then none else parts.getLast?
  | none => none

/-- Whether a path names a YAML file. -/
def isYamlPath (p : String) : Bool :=
  match pathExtension p with
  | some "yml" | some "yaml" => true
  | _ => false

namespace Catalog

/-- A catalog from JSON text. -/
def ofJson (text : String) : Except DefinitionError Catalog :=
  (Decode.decodeText Catalog.decode text).mapError DefinitionError.json

/-- A catalog from YAML text. -/
def ofYaml (text : String) : Except DefinitionError Catalog :=
  (Decode.decodeYaml Catalog.decode text).mapError fun e => DefinitionError.yaml e.message

/-- A catalog from a file, read as YAML or JSON by its extension. -/
def fromFile (h : Host) (path : String) : Except DefinitionError Catalog := do
  let text ← match h.readText path with
    | .ok t => pure t
    | .error e => throw (.read path e.message)
  if isYamlPath path then ofYaml text else ofJson text

end Catalog

/-- The error a definition error wraps, if any: the failure of reading or parsing. -/
def DefinitionError.cause : DefinitionError → Option String
  | .read _ r => some r
  | .json e => some e.message
  | .yaml m => some m
  | .invalid _ => none

end Workflow
