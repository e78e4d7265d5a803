import Harvest.Definition.Json
import Harvest.Definition.Xml
import Harvest.Definition.Yaml
import Harvest.Path

/-!
# Files of definitions

The form of the definition in a file, which the ending of its name tells.
-/

namespace Harvest

namespace Definition

/-- A written form of definitions. -/
inductive Form where
  | json
  | xml
  | yaml
  deriving DecidableEq, Repr

/-- The form that the ending of a file's name stands for, in any case. -/
def Form.ofEnding? (ending : String) : Option Form :=
  match Text.lowerAscii ending with
  | "json" => some .json
  | "xml" => some .xml
  | "yaml" => some .yaml
  | "yml" => some .yaml
  | _ => none

/-- The form of the definition in the file at a path. -/
def Form.ofPath? (path : String) : Option Form :=
  ((Path.fileName? path).bind Path.ending?).bind Form.ofEnding?

/-- Whether a file holds a definition, going by its name. -/
def isSource (path : String) : Bool := (Form.ofPath? path).isSome

/-- Reads a definition in one of its forms. -/
def Form.read : Form → String → Except DecodeError Definition
  | json, text => ofJson text
  | xml, text => ofXml text
  | yaml, text => ofYaml text

/-- Reads the definition in the file at a path. -/
def ofFile (path text : String) : Except DecodeError Definition :=
  match Form.ofPath? path with
  | some form => form.read text
  | none => .error (.unknownFormat path)

end Definition

end Harvest
