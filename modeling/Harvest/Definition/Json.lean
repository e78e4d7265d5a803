import Harvest.Definition.Raw
import Harvest.Definition.Defect
import Harvest.Json.Reader

/-!
# Definitions in JSON

The JSON form of a definition, written and read.  It is written with every entry under its first
name, rule lines as lists, and the storage left out where there is none.
-/

namespace Harvest

def Lines.toJson (lines : Lines) : Json := .array (lines.toList.map .text)

namespace Definition

def TextRules.toJson (rules : TextRules) : Json :=
  .object [("submatch", .text rules.submatch), ("include", rules.includes.toJson),
    ("exclude", rules.excludes.toJson), ("remove", rules.removes.toJson)]

def NodeRules.toJson (rules : NodeRules) : Json :=
  .object [("include", rules.includes.toJson), ("exclude", rules.excludes.toJson),
    ("remove", rules.removes.toJson)]

/-- The JSON form of what may be missing. -/
def jsonOrNull {α : Type} (write : α → Json) : Option α → Json
  | none => .null
  | some a => write a

mutual

def Field.toJson : Field → Json
  | ⟨title, type, path, data, xdata, optional, transient, multiple, unique, standard, fields⟩ =>
      .object [("title", .text title), ("type", .text type), ("path", path.toJson),
        ("data", jsonOrNull TextRules.toJson data), ("xdata", jsonOrNull NodeRules.toJson xdata),
        ("optional", .bool optional), ("dontstore", .bool transient),
        ("multiple", .bool multiple), ("unique", .bool unique), ("attr", .bool standard),
        ("field", .array (fieldsToJson fields))]

def fieldsToJson : List Field → List Json
  | [] => []
  | f :: fs => f.toJson :: fieldsToJson fs

end

def toJson (d : Definition) : Json :=
  .object ([("url", jsonOrNull TextRules.toJson d.url), ("field", d.field.toJson),
    ("mime", .text d.mime)] ++
    match d.storage with
    | some storage => [("storage", .text storage)]
    | none => [])

/-- The definition that a JSON value holds. -/
def ofJsonValue? (v : Json) : Option Definition :=
  Raw.readJson? (Raw.definition Raw.jsonDepth) v

/-- Reads a definition in its JSON form. -/
def ofJson (text : String) : Except DecodeError Definition :=
  match (Json.parse? text).bind ofJsonValue? with
  | some d => .ok d
  | none => .error .json

end Definition

end Harvest
