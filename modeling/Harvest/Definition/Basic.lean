import Harvest.Text.Blank

/-!
# Definitions

What someone who wants data from pages writes down: a tree of fields, each with the queries that
find it and the rules that filter and trim what is found, and a gate of rules on the address of
the page.  A definition is nothing but text; compiling it is what finds out whether it makes sense.
-/

namespace Harvest

/-- Lines of rules, written as blocks of text.  Only the lines count, so one block of many lines
and many blocks of one line are the same. -/
structure Lines where
  blocks : List String := []
  deriving DecidableEq, Repr, Inhabited

namespace Lines

/-- The lines of a block that are not blank, without the blanks at their ends. -/
def ofBlock (block : String) : List String :=
  ((Text.splitAt '\n' block).map Text.trim).filter fun line => !line.isEmpty

/-- The lines in the order in which they are written. -/
def toList (lines : Lines) : List String := lines.blocks.flatMap ofBlock

def isEmpty (lines : Lines) : Bool := lines.toList.isEmpty

/-- The lines with those of one more block at the end. -/
def push (lines : Lines) (block : String) : Lines := ⟨lines.blocks ++ [block]⟩

end Lines

namespace Definition

/-- Rules for texts and addresses, by regular expressions. -/
structure TextRules where
  submatch : String := ""
  includes : Lines := {}
  excludes : Lines := {}
  removes : Lines := {}
  deriving DecidableEq, Repr, Inhabited

/-- Rules for nodes, by queries. -/
structure NodeRules where
  includes : Lines := {}
  excludes : Lines := {}
  removes : Lines := {}
  deriving DecidableEq, Repr, Inhabited

/-- A field to be found on a page. -/
structure Field where
  title : String := ""
  type : String := ""
  /-- The queries that find the field, the first that yields anything counts. -/
  path : Lines := {}
  data : Option TextRules := none
  xdata : Option NodeRules := none
  /-- The structure around the field may do without it. -/
  optional : Bool := false
  /-- The field is not meant to be kept. -/
  transient : Bool := false
  multiple : Bool := false
  unique : Bool := false
  /-- Markup is written by the standard serializer. -/
  standard : Bool := false
  fields : List Field := []
  deriving Repr, Inhabited

namespace Field

mutual

/-- A field and all fields below it, each before those below it. -/
def flatten : Field → List Field
  | f@⟨_, _, _, _, _, _, _, _, _, _, fields⟩ => f :: flattenAll fields

def flattenAll : List Field → List Field
  | [] => []
  | f :: fs => f.flatten ++ flattenAll fs

end

/-- The first child with a title. -/
def child? (title : String) (f : Field) : Option Field :=
  f.fields.find? fun g => g.title == title

/-- The field that a list of titles leads to. -/
def descend? : List String → Field → Option Field
  | [], f => some f
  | title :: rest, f => (f.child? title).bind (descend? rest)

/-- The field at a dotted path of titles below this one. -/
def find? (path : String) (f : Field) : Option Field :=
  descend? (Text.splitAt '.' path) f

end Field

end Definition

/-- A definition of what to take from which pages. -/
structure Definition where
  url : Option Definition.TextRules := none
  field : Definition.Field := {}
  mime : String := ""
  storage : Option String := none
  deriving Repr, Inhabited

namespace Definition

/-- The definition with the root field a structure, if its type is left out. -/
def withRootType (d : Definition) : Definition :=
  if (Text.trim d.field.type).isEmpty then { d with field := { d.field with type := "struct" } }
  else d

end Definition

end Harvest
