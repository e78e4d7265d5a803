import Harvest.Definition.Basic
import Harvest.Definition.Defect
import Harvest.Xml.Event

/-!
# Definitions in XML

The XML form of a definition: an element `Field` for each field, with the short entries as
attributes; `Path` elements for the queries; and rules in elements that are named for what the rule
does, inside a section for the address, the texts or the nodes.  A rule belongs to the innermost open
field.  Other elements are passed over, but not the text in them that ends up in front of an end tag
that counts.
-/

namespace Harvest.Definition

/-- The part of a definition that rules belong to. -/
inductive Section where
  | url
  | data
  | xdata
  deriving DecidableEq, Repr

/-- A definition that is half read: the fields that are open, the innermost first, and the text since
the last tag. -/
structure HalfRead where
  definition : Definition := {}
  root : Option Field := none
  openFields : List Field := []
  current : Option Section := none
  text : String := ""

namespace HalfRead

/-- Whether a word turns a flag on. -/
def isOn (word : String) : Bool :=
  ["true", "1", "yes"].contains (Text.lowerAscii (Text.trim word))

/-- The entry of a field that an attribute sets. -/
def setAttribute (f : Field) (name value : String) : Field :=
  match name with
  | "title" => { f with title := value }
  | "type" => { f with type := value }
  | "optional" => { f with optional := isOn value }
  | "dontstore" => { f with transient := isOn value }
  | "dontStore" => { f with transient := isOn value }
  | "multiple" => { f with multiple := isOn value }
  | "unique" => { f with unique := isOn value }
  | "attr" => { f with standard := isOn value }
  | "preserveAttr" => { f with standard := isOn value }
  | "path" => { f with path := f.path.push value }
  | _ => f

/-- The entry of a definition that an attribute sets. -/
def setPatternAttribute (d : Definition) (name value : String) : Definition :=
  match name with
  | "mime" => { d with mime := value }
  | "storage" => { d with storage := some value }
  | _ => d

/-- Applies the attributes of a tag, up to the first mistake. -/
def applyAttributes {α : Type} (set : α → String → String → α) (a : α) :
    Xml.Attributes → Except DecodeError α
  | .done => .ok a
  | .broken => .error .xmlAttribute
  | .next name value rest =>
      match Xml.unescape? value with
      | some value => applyAttributes set (set a name value) rest
      | none => .error .xml

/-- Puts a finished field into the field around it; without one, the first is the root. -/
def close (s : HalfRead) (f : Field) : HalfRead :=
  match s.openFields with
  | parent :: outer =>
      { s with openFields := { parent with fields := parent.fields ++ [f] } :: outer }
  | [] => { s with root := s.root <|> some f }

/-- Changes the innermost open field. -/
def updateField (s : HalfRead) (change : Field → Field) : HalfRead :=
  match s.openFields with
  | f :: outer => { s with openFields := change f :: outer }
  | [] => s

/-- Adds a rule to rules for texts. -/
def addTextRule (rule : Rule) (text : String) (rules : TextRules) : TextRules :=
  match rule with
  | .submatch => { rules with submatch := Text.trim text }
  | .includes => { rules with includes := rules.includes.push text }
  | .excludes => { rules with excludes := rules.excludes.push text }
  | .removes => { rules with removes := rules.removes.push text }
  | .path => rules

/-- Adds a rule to rules for nodes, which know no submatch. -/
def addNodeRule (rule : Rule) (text : String) (rules : NodeRules) : NodeRules :=
  match rule with
  | .includes => { rules with includes := rules.includes.push text }
  | .excludes => { rules with excludes := rules.excludes.push text }
  | .removes => { rules with removes := rules.removes.push text }
  | .submatch => rules
  | .path => rules

/-- Adds a rule to the section that is open. -/
def addRule (s : HalfRead) (rule : Rule) : HalfRead :=
  match s.current with
  | none => s
  | some .url =>
      let rules := addTextRule rule s.text (s.definition.url.getD {})
      { s with definition := { s.definition with url := some rules } }
  | some .data =>
      s.updateField fun f => { f with data := some (addTextRule rule s.text (f.data.getD {})) }
  | some .xdata =>
      s.updateField fun f => { f with xdata := some (addNodeRule rule s.text (f.xdata.getD {})) }

/-- Reads a start tag. -/
def start (s : HalfRead) (name : String) (attributes : List Char) :
    Except DecodeError HalfRead :=
  match name with
  | "Pattern" => do
      let d ← applyAttributes setPatternAttribute s.definition (Xml.attributes attributes)
      return { s with definition := d }
  | "Field" => do
      let f ← applyAttributes setAttribute {} (Xml.attributes attributes)
      return { s with openFields := f :: s.openFields }
  | "URL" => .ok { s with current := some .url }
  | "Data" => .ok { s with current := some .data }
  | "XData" => .ok { s with current := some .xdata }
  | _ => .ok s

/-- Reads the tag of an element without content. -/
def alone (s : HalfRead) (name : String) (attributes : List Char) :
    Except DecodeError HalfRead :=
  match name with
  | "Pattern" => s.start name attributes
  | "Field" => do
      let f ← applyAttributes setAttribute {} (Xml.attributes attributes)
      return s.close f
  | _ => .ok s

/-- Reads an end tag. -/
def stop (s : HalfRead) (name : String) : HalfRead :=
  match name with
  | "Field" =>
      match s.openFields with
      | f :: outer => { s with openFields := outer }.close f
      | [] => s
  | "URL" => { s with current := none }
  | "Data" => { s with current := none }
  | "XData" => { s with current := none }
  | "Path" => s.updateField fun f => { f with path := f.path.push s.text }
  | "Submatch" => s.addRule .submatch
  | "Include" => s.addRule .includes
  | "Exclude" => s.addRule .excludes
  | "Remove" => s.addRule .removes
  | "Mime" => { s with definition := { s.definition with mime := Text.trim s.text } }
  | "Storage" => { s with definition := { s.definition with storage := some (Text.trim s.text) } }
  | _ => s

/-- Reads an event.  Every tag starts a new text. -/
def read (s : HalfRead) (event : Xml.Event) : Except DecodeError HalfRead :=
  match event with
  | .start name attributes => (s.start name attributes).map ({ · with text := "" })
  | .alone name attributes => (s.alone name attributes).map ({ · with text := "" })
  | .stop name => .ok { s.stop name with text := "" }
  | .text chars =>
      match Xml.unescape? chars with
      | some text => .ok { s with text := s.text ++ text }
      | none => .error .xml
  | .verbatim chars => .ok { s with text := s.text ++ String.ofList chars }
  | .broken => .error .xml

/-- The definition that has been read, which needs a root. -/
def finish (s : HalfRead) : Except DecodeError Definition :=
  match s.root with
  | some root => .ok { s.definition with field := root }
  | none => .error .fieldMissing

end HalfRead

/-- Reads a definition in its XML form. -/
def ofXml (text : String) : Except DecodeError Definition := do
  let s ← (Xml.events text).foldlM HalfRead.read {}
  s.finish

end Harvest.Definition
