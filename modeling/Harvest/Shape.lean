import Harvest.Datum
import Harvest.Decimal.Reader
import Harvest.Text.Blank
import Harvest.Text.Utf8

/-!
# Shapes of fields

The kind of data that a field holds, and whether it holds a list of them.  `Shape.parse?` reads the
type of a definition; `Shape.coerce` turns the bytes found on a page into data of the kind, or
finds that they are none.
-/

namespace Harvest

inductive Kind where
  | int
  | float
  | string
  | html
  | struct
  deriving DecidableEq, Repr

/-- The word for a kind in definitions. -/
def Kind.word : Kind → String
  | int => "int"
  | float => "float64"
  | string => "string"
  | html => "html"
  | struct => "struct"

/-- The name of a kind for people who look for mistakes. -/
def Kind.label : Kind → String
  | int => "Int"
  | float => "Float"
  | string => "String"
  | html => "Html"
  | struct => "Struct"

/-- A kind of data, or a list of that kind. -/
structure Shape where
  kind : Kind
  isArray : Bool
  deriving DecidableEq, Repr

namespace Shape

/-- The shape for a word without blanks and in lower case; `array` is a list of strings. -/
def ofWord? (isArray : Bool) (word : String) : Option Shape :=
  match word with
  | "int" => some ⟨.int, isArray⟩
  | "float64" => some ⟨.float, isArray⟩
  | "float" => some ⟨.float, isArray⟩
  | "string" => some ⟨.string, isArray⟩
  | "html" => some ⟨.html, isArray⟩
  | "struct" => some ⟨.struct, isArray⟩
  | "array" => some ⟨.string, true⟩
  | _ => none

/-- Reads a type: brackets for a list and the word for the kind, in any case and with blanks around
the two. -/
def parse? (token : String) : Option Shape :=
  match Text.trimChars token.toList with
  | '[' :: ']' :: rest =>
      ofWord? true (Text.lowerAscii (String.ofList (Text.trimChars rest)))
  | cs => ofWord? false (Text.lowerAscii (String.ofList cs))

def isStruct (shape : Shape) : Bool := shape.kind == .struct

/-- The type as a definition writes it. -/
def display (shape : Shape) : String :=
  (if shape.isArray then "[]" else "") ++ shape.kind.word

/-- The datum that bytes stand for: a whole number of 64 bits, a finite number, or a text. -/
def coerce (shape : Shape) (raw : Bytes) : Option Datum :=
  match shape.kind with
  | .int =>
      match raw.text? with
      | some s => (Decimal.int64? s.toList).map Datum.int
      | none => none
  | .float =>
      match raw.text? with
      | some s =>
          match Decimal.float? s.toList with
          | some x => if x.isFinite then some (.float x) else none
          | none => none
      | none => none
  | .string => raw.text?.map Datum.text
  | .html => raw.text?.map Datum.text
  | .struct => none

end Shape

end Harvest
