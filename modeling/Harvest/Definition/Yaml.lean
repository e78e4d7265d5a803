import Std.Data.HashMap
import Harvest.Decimal.Reader
import Harvest.Definition.Defect
import Harvest.Definition.Raw
import Harvest.Yaml.Node

/-!
# Definitions in YAML

The YAML form of a definition.  Where a text is asked for, any scalar is one; where it is left open
whether a text or something else comes, a plain scalar that looks like a number or a truth value is
no text.  A plain scalar without text stands for whatever is empty.
-/

namespace Harvest

namespace Raw

/-- Whether a word says that there is nothing. -/
def isNullWord (s : String) : Bool := ["null", "Null", "NULL", "~"].contains s

/-- The truth value of a word. -/
def flagWord? (s : String) : Option Bool :=
  if ["true", "True", "TRUE"].contains s then some true
  else if ["false", "False", "FALSE"].contains s then some false
  else none

/-- The characters behind a sign. -/
def unsigned (cs : List Char) : List Char :=
  match cs with
  | '+' :: rest => rest
  | '-' :: rest => rest
  | _ => cs

/-- The number that a word writes in one of the bases that have a mark, without its sign. -/
def markedNumber? (s : String) : Option Nat :=
  match unsigned s.toList with
  | '0' :: 'x' :: digits => Text.number? 16 digits
  | '0' :: 'o' :: digits => Text.number? 8 digits
  | '0' :: 'b' :: digits => Text.number? 2 digits
  | _ => none

/-- Whether a word is a whole number with the mark of its base; numbers that do not fit into 128
bits are none. -/
def isMarkedWord (s : String) : Bool :=
  (markedNumber? s).any fun n =>
    if s.startsWith "-" then n ≤ Nat.pow 2 127 else n < Nat.pow 2 128

/-- Whether a word is a number in decimal, which has no needless zero in front, or one of the
numbers that have no digits.  A number beyond the floating-point ones is none. -/
def isDecimalWord (s : String) : Bool :=
  let cs := s.toList
  let positive := match cs with
    | '+' :: rest => rest
    | _ => cs
  let twoSigns := match cs, positive with
    | '+' :: _, c :: _ => c = '+' || c = '-'
    | _, _ => false
  let zeroFirst := 1 < (unsigned cs).length && (unsigned cs).head? = some '0' &&
    ((unsigned cs).drop 1).all Char.isDigit
  !twoSigns && !zeroFirst &&
    ([".inf", ".Inf", ".INF"].contains (String.ofList positive) ||
      ["-.inf", "-.Inf", "-.INF", ".nan", ".NaN", ".NAN"].contains s ||
      ((Decimal.float? positive).map Float.isFinite).getD false)

/-- The lines that a plain scalar without a tag stands for. -/
def plainLines? (text : String) : Option Lines :=
  if text.isEmpty || isNullWord text then some {}
  else if (flagWord? text).isSome || isMarkedWord text || isDecimalWord text then none
  else some ⟨[text]⟩

/-- The lines that a scalar stands for. -/
def scalarLines? (tag : Option Yaml.Tag) (style : Yaml.Style) (text : String) : Option Lines :=
  match tag with
  | some .truth => none
  | some .number => none
  | some .nothing => if isNullWord text then some {} else none
  | some .own => none
  | some .other => some ⟨[text]⟩
  | none => if style = .plain then plainLines? text else some ⟨[text]⟩

/-- Whether a scalar says that there is nothing: only a plain one can. -/
def scalarPresence (tag : Option Yaml.Tag) (style : Yaml.Style) (text : String) : Presence :=
  if style = .plain then
    match tag with
    | none => if text.isEmpty || isNullWord text then .absent else .present
    | some .nothing => if isNullWord text then .absent else .unclear
    | some _ => .present
  else .present

/-- What a scalar means in each place. -/
def scalarLeaf (tag : Option Yaml.Tag) (style : Yaml.Style) (text : String) : Leaf where
  text := some text
  flag :=
    if style = .plain || (style = .literal && tag = some .truth) then flagWord? text else none
  lines := scalarLines? tag style text
  presence := scalarPresence tag style text
  isVoid := style = .plain && text.isEmpty

mutual

/-- A YAML node as a raw definition. -/
def ofYaml : Yaml.Node → Raw
  | .void => .leaf { lines := some {}, presence := .absent, isVoid := true }
  | .scalar tag style text => .leaf (scalarLeaf tag style text)
  | .sequence tag items => .list (if tag = some .own then .special else .simple) (ofNodes items)
  | .mapping entries => .record (ofEntries entries)
  | .anchored _ node => ofYaml node
  | .alias number => .shared number

def ofNodes : List Yaml.Node → List Raw
  | [] => []
  | n :: ns => ofYaml n :: ofNodes ns

def ofEntries : List (Yaml.Node × Yaml.Node) → List (Raw × Raw)
  | [] => []
  | (key, value) :: es => (ofYaml key, ofYaml value) :: ofEntries es

end

/-- How deeply records and lists may be nested in YAML. -/
def yamlDepth : Nat := 128

/-- How often an alias may be read for each step through a text. -/
def aliasesPerStep : Nat := 100

end Raw

namespace Definition

/-- The definition that a YAML node holds. -/
def ofYamlNode? (root : Yaml.Node) : Option Definition :=
  let shared := root.anchors.map fun (number, node) => (number, Raw.ofYaml node)
  let shared := Std.HashMap.ofList shared
  (Raw.definition Raw.yamlDepth (Raw.ofYaml root)).result? shared.get?
    (Raw.aliasesPerStep * root.size)

/-- Reads a definition in its YAML form. -/
def ofYaml (text : String) : Except DecodeError Definition :=
  match (Yaml.Node.ofText? text).bind ofYamlNode? with
  | some d => .ok d
  | none => .error .yaml

end Definition

end Harvest
