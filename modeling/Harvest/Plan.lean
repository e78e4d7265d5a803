import Harvest.NodeFilter
import Harvest.Shape
import Harvest.Text.Quoted
import Harvest.TextFilter

/-!
# Plans

A field with all its rules compiled, and the fields below it.  Fields are checked one by one, each
before those below it, so the first defect is that of the first defective field.  The table of a plan
numbers its fields in the same order.
-/

namespace Harvest

/-- A field with its rules compiled, without the fields below it. -/
structure FieldPlan where
  title : String
  shape : Shape
  candidates : List XPath.Query
  textFilter : TextFilter
  nodeFilter : NodeFilter
  optional : Bool
  transient : Bool
  multiple : Bool
  unique : Bool
  standard : Bool
  deriving Repr

namespace FieldPlan

/-- Whether the field yields a list. -/
def isMultiple (f : FieldPlan) : Bool := f.multiple || f.shape.isArray

/-- The way in which the field writes markup. -/
def serializer (f : FieldPlan) : Serializer := if f.standard then .standard else .raw

/-- The shape that a type names. -/
def compileShape (title type : String) : Except Defect Shape :=
  if (Text.trim type).isEmpty then .error (.typeMissing title)
  else match Shape.parse? type with
  | some shape => .ok shape
  | none => .error (.unknownType type)

/-- Compiles a field for itself: its queries, its rules and its type, in this order. -/
def compileRules (f : Definition.Field) : Except Defect FieldPlan := do
  let candidates ← XPath.Query.compileLines .path f.path
  let textFilter ← TextFilter.compile f.data
  let nodeFilter ← NodeFilter.compile f.xdata
  let shape ← compileShape f.title f.type
  return { title := f.title, shape, candidates, textFilter, nodeFilter, optional := f.optional,
           transient := f.transient, multiple := f.multiple, unique := f.unique,
           standard := f.standard }

/-- Compiles a field for itself; a defect names the field. -/
def compile (f : Definition.Field) : Except Defect FieldPlan :=
  (compileRules f).mapError (Defect.within f.title)

end FieldPlan

/-- A compiled field with the compiled fields below it. -/
inductive Plan where
  | node (field : FieldPlan) (children : List Plan)
  deriving Repr

namespace Plan

def field : Plan → FieldPlan
  | node field _ => field

def children : Plan → List Plan
  | node _ children => children

def title (p : Plan) : String := p.field.title

mutual

/-- Compiles a field and those below it. -/
def compile : Definition.Field → Except Defect Plan
  | f@⟨_, _, _, _, _, _, _, _, _, _, fields⟩ => do
      let field ← FieldPlan.compile f
      return node field (← compileAll fields)

def compileAll : List Definition.Field → Except Defect (List Plan)
  | [] => return []
  | f :: fs => do
      let plan ← compile f
      return plan :: (← compileAll fs)

end

mutual

/-- The number of fields. -/
def size : Plan → Nat
  | node _ children => 1 + sizeAll children

def sizeAll : List Plan → Nat
  | [] => 0
  | p :: ps => p.size + sizeAll ps

end

/-- A field in the table of a plan, with the numbers of the fields around it. -/
structure Row where
  field : FieldPlan
  parent : Option Nat
  children : List Nat
  deriving Repr

/-- The numbers of siblings, the first of which is `id`. -/
def siblingIds (id : Nat) : List Plan → List Nat
  | [] => []
  | p :: ps => id :: siblingIds (id + p.size) ps

mutual

/-- The rows of a plan whose root is numbered `id`. -/
def rowsFrom (id : Nat) (parent : Option Nat) : Plan → List Row
  | node field children =>
      ⟨field, parent, siblingIds (id + 1) children⟩ :: rowsFromAll (id + 1) id children

/-- The rows of siblings, the first of which is numbered `id`. -/
def rowsFromAll (id parent : Nat) : List Plan → List Row
  | [] => []
  | p :: ps => rowsFrom id (some parent) p ++ rowsFromAll (id + p.size) parent ps

end

/-- The fields of a plan, each before those below it; the number of a field is its place here. -/
def rows (p : Plan) : List Row := rowsFrom 0 none p

/-- A field by its number. -/
def row? (p : Plan) (id : Nat) : Option Row := p.rows[id]?

/-- The titles from the root down to a field, which is at most `fuel` levels deep; none for a number
that no field has. -/
def titles (rows : List Row) : Nat → Nat → List String
  | 0, _ => []
  | fuel + 1, id =>
      match rows[id]? with
      | none => []
      | some row =>
          match row.parent with
          | some parent => titles rows fuel parent ++ [row.field.title]
          | none => [row.field.title]

/-- The titles from the root down to a field, joined by dots. -/
def relativePath (p : Plan) (id : Nat) : String :=
  ".".intercalate (titles p.rows (id + 1) id)

/-- The first of some fields with a title. -/
def idTitled? (rows : List Row) (title : String) (ids : List Nat) : Option Nat :=
  ids.find? fun id => (rows[id]?.map fun row => row.field.title) == some title

/-- The field that titles lead to from another. -/
def descend? (rows : List Row) : List String → Nat → Option Nat
  | [], id => some id
  | title :: rest, id =>
      match idTitled? rows title ((rows[id]?.map Row.children).getD []) with
      | some child => descend? rows rest child
      | none => none

/-- The number of the field at a dotted path, which begins with the title of the root. -/
def find? (p : Plan) (path : String) : Option Nat :=
  match Text.splitAt '.' path with
  | [] => none
  | title :: rest => if title = p.title then descend? p.rows rest 0 else none

/-- A description of a field for people who look for mistakes: its path and its type. -/
def describeField (path : String) (shape : Shape) : String :=
  "Field \x7b path: " ++ Text.quote path ++ ", type: TypeSpec \x7b kind: " ++ shape.kind.label ++
    ", is_array: " ++ toString shape.isArray ++ " \x7d \x7d"

/-- A description of the root of a plan. -/
def describe (p : Plan) : String := describeField (p.relativePath 0) p.field.shape

end Plan

end Harvest
