import Mathlib
import Harvest.Definition.Xml
import Harvest.Proofs.Definition.Normal
import Harvest.Proofs.Xml.Writing

/-!
# Sheets

A sheet is a definition as it is written in XML: attributes in any order, and in the element of a
field its queries, its sections of rules and its children in any order, each line in an element of
its own.  What a sheet says is put together from what is found in it: the lines of a kind are those
in all elements of this kind, in the order in which they are written.

Each definition whose rules can be told from rules that are left out has a sheet that says the same,
up to the blocks in which the lines are.
-/

namespace Harvest.Definition

open Text (Trimmed)

/-! ## Rules -/

/-- A rule line that belongs into a section. -/
structure RuleLine where
  rule : Rule
  text : Trimmed
  inSection : rule ≠ .path

namespace RuleLine

def name (r : RuleLine) : Xml.Name :=
  match r.rule with
  | .path => { text := "Path" }
  | .submatch => { text := "Submatch" }
  | .includes => { text := "Include" }
  | .excludes => { text := "Exclude" }
  | .removes => { text := "Remove" }

def element (r : RuleLine) : Xml.Element := .leaf r.name r.text

end RuleLine

/-- The lines of one kind. -/
def linesOf (rule : Rule) (rs : List RuleLine) : List String :=
  (rs.filter (·.rule = rule)).map (·.text.text)

@[simp] theorem linesOf_nil (rule : Rule) : linesOf rule [] = [] := rfl

theorem linesOf_cons (rule : Rule) (r : RuleLine) (rs : List RuleLine) :
    linesOf rule (r :: rs) =
      if r.rule = rule then r.text.text :: linesOf rule rs else linesOf rule rs := by
  rw [linesOf, List.filter_cons]
  split <;> simp_all [linesOf]

@[simp] theorem linesOf_append (rule : Rule) (rs ss : List RuleLine) :
    linesOf rule (rs ++ ss) = linesOf rule rs ++ linesOf rule ss := by
  rw [linesOf, List.filter_append, List.map_append, linesOf, linesOf]

/-- The rules for texts that some lines make up, of which the last submatch counts. -/
def textRules? (rs : List RuleLine) : Option TextRules :=
  if rs.isEmpty then none
  else some
    { submatch := (linesOf .submatch rs).getLast?.getD ""
      includes := ⟨linesOf .includes rs⟩
      excludes := ⟨linesOf .excludes rs⟩
      removes := ⟨linesOf .removes rs⟩ }

/-- The rules for nodes that some lines make up. -/
def nodeRules? (rs : List RuleLine) : Option NodeRules :=
  if rs.isEmpty then none
  else some
    { includes := ⟨linesOf .includes rs⟩
      excludes := ⟨linesOf .excludes rs⟩
      removes := ⟨linesOf .removes rs⟩ }

/-! ## Fields -/

/-- An attribute of a field. -/
inductive Attribute where
  | title (value : String)
  | type (value : String)
  | optional (value : Bool)
  | transient (value : Bool)
  | multiple (value : Bool)
  | unique (value : Bool)
  | standard (value : Bool)

namespace Attribute

def name : Attribute → Xml.Name
  | title _ => { text := "title" }
  | type _ => { text := "type" }
  | optional _ => { text := "optional" }
  | transient _ => { text := "dontstore" }
  | multiple _ => { text := "multiple" }
  | unique _ => { text := "unique" }
  | standard _ => { text := "attr" }

def flagWord (value : Bool) : String := if value then "true" else "false"

def value : Attribute → String
  | title value => value
  | type value => value
  | optional value => flagWord value
  | transient value => flagWord value
  | multiple value => flagWord value
  | unique value => flagWord value
  | standard value => flagWord value

def written (a : Attribute) : Xml.Name × String := (a.name, a.value)

/-- The field with the entry that the attribute is about. -/
def set (f : Field) : Attribute → Field
  | title value => { f with title := value }
  | type value => { f with type := value }
  | optional value => { f with optional := value }
  | transient value => { f with transient := value }
  | multiple value => { f with multiple := value }
  | unique value => { f with unique := value }
  | standard value => { f with standard := value }

end Attribute

/-- The attributes in the start tag of a field. -/
structure Head where
  attributes : List Attribute
  distinct : (attributes.map (·.name.text)).Nodup

/-- The field with its short entries only. -/
def Head.start (h : Head) : Field := h.attributes.foldl Attribute.set {}

/-- What stands in the element of a field. -/
inductive Part where
  | path (line : Trimmed)
  | data (rules : List RuleLine)
  | xdata (rules : List RuleLine)
  | field (head : Head) (parts : List Part)

namespace Part

def line? : Part → Option String
  | path line => some line.text
  | data _ => none
  | xdata _ => none
  | field _ _ => none

def dataRules : Part → List RuleLine
  | path _ => []
  | data rules => rules
  | xdata _ => []
  | field _ _ => []

def xdataRules : Part → List RuleLine
  | path _ => []
  | data _ => []
  | xdata rules => rules
  | field _ _ => []

end Part

/-- The field that has these children, and otherwise what its own parts say. -/
def Head.fillWith (h : Head) (parts : List Part) (children : List Field) : Field :=
  { h.start with
    path := ⟨parts.filterMap Part.line?⟩
    data := textRules? (parts.flatMap Part.dataRules)
    xdata := nodeRules? (parts.flatMap Part.xdataRules)
    fields := children }

mutual

/-- The field that a part stands for. -/
def Part.field? : Part → Option Field
  | .path _ => none
  | .data _ => none
  | .xdata _ => none
  | .field head parts => some (head.fillWith parts (childrenOf parts))

/-- The fields among some parts. -/
def childrenOf : List Part → List Field
  | [] => []
  | p :: ps => p.field?.toList ++ childrenOf ps

end

theorem childrenOf_eq (parts : List Part) : childrenOf parts = parts.filterMap Part.field? := by
  induction parts with
  | nil => rfl
  | cons p ps ih =>
      rw [childrenOf, ih, List.filterMap_cons]
      cases p.field? <;> rfl

/-- The field that some parts make up. -/
def Head.fill (h : Head) (parts : List Part) : Field := h.fillWith parts (childrenOf parts)

def fieldName : Xml.Name := { text := "Field" }

mutual

def Part.element : Part → Xml.Element
  | .path line => .leaf { text := "Path" } line
  | .data rules => .node { text := "Data" } [] (rules.map RuleLine.element)
  | .xdata rules => .node { text := "XData" } [] (rules.map RuleLine.element)
  | .field head parts => .node fieldName (head.attributes.map Attribute.written) (elementsOf parts)

def elementsOf : List Part → List Xml.Element
  | [] => []
  | p :: ps => p.element :: elementsOf ps

end

/-! ## Definitions -/

/-- An attribute of a definition. -/
inductive PatternAttribute where
  | mime (value : String)
  | storage (value : String)

namespace PatternAttribute

def name : PatternAttribute → Xml.Name
  | mime _ => { text := "mime" }
  | storage _ => { text := "storage" }

def value : PatternAttribute → String
  | mime value => value
  | storage value => value

def written (a : PatternAttribute) : Xml.Name × String := (a.name, a.value)

/-- The definition with the entry that the attribute is about. -/
def set (d : Definition) : PatternAttribute → Definition
  | mime value => { d with mime := value }
  | storage value => { d with storage := some value }

end PatternAttribute

/-- A definition as it is written: the sections for the address stand in front of the root field
and behind it. -/
structure Sheet where
  attributes : List PatternAttribute
  distinct : (attributes.map (·.name.text)).Nodup
  before : List (List RuleLine)
  head : Head
  parts : List Part
  after : List (List RuleLine)

namespace Sheet

/-- The definition that a sheet stands for. -/
def definition (s : Sheet) : Definition :=
  { s.attributes.foldl PatternAttribute.set {} with
    url := textRules? (s.before.flatten ++ s.after.flatten)
    field := s.head.fill s.parts }

def urlElement (rules : List RuleLine) : Xml.Element :=
  .node { text := "URL" } [] (rules.map RuleLine.element)

def element (s : Sheet) : Xml.Element :=
  .node { text := "Pattern" } (s.attributes.map PatternAttribute.written)
    (s.before.map urlElement ++ (Part.field s.head s.parts).element :: s.after.map urlElement)

end Sheet

/-! ## The sheet of a definition -/

/-- Each line in an element of its own. -/
def writtenLines (rule : Rule) (inSection : rule ≠ .path) (lines : Lines) : List RuleLine :=
  lines.toList.map fun line => ⟨rule, .of line, inSection⟩

/-- The submatch in an element of its own, if there is one. -/
def writtenSubmatch (submatch : String) : List RuleLine :=
  if submatch = "" then [] else [⟨.submatch, .of submatch, nofun⟩]

namespace TextRules

def written (rules : TextRules) : List RuleLine :=
  writtenSubmatch rules.submatch ++
    (writtenLines .includes nofun rules.includes ++
      (writtenLines .excludes nofun rules.excludes ++ writtenLines .removes nofun rules.removes))

/-- Whether rules can be told from rules that are left out, with a submatch that has no blanks at
its ends. -/
def Writable (rules : TextRules) : Prop :=
  Text.trim rules.submatch = rules.submatch ∧
    ¬(rules.submatch = "" ∧ rules.includes.toList = [] ∧ rules.excludes.toList = [] ∧
      rules.removes.toList = [])

instance (rules : TextRules) : Decidable rules.Writable :=
  inferInstanceAs (Decidable (_ ∧ _))

end TextRules

namespace NodeRules

def written (rules : NodeRules) : List RuleLine :=
  writtenLines .includes nofun rules.includes ++
    (writtenLines .excludes nofun rules.excludes ++ writtenLines .removes nofun rules.removes)

def Writable (rules : NodeRules) : Prop :=
  ¬(rules.includes.toList = [] ∧ rules.excludes.toList = [] ∧ rules.removes.toList = [])

instance (rules : NodeRules) : Decidable rules.Writable :=
  inferInstanceAs (Decidable ¬_)

end NodeRules

/-- The lines of a definition have no blanks at their ends. -/
theorem map_trim_toList (lines : Lines) : lines.toList.map Text.trim = lines.toList := by
  have trimmed : ∀ line ∈ lines.toList, Text.trim line = line := fun line member => by
    obtain ⟨block, -, inside⟩ := List.mem_flatMap.mp member
    obtain ⟨piece, -, rfl⟩ := List.mem_map.mp (List.mem_filter.mp inside).1
    exact Text.trim_trim piece
  rw [List.map_congr_left trimmed, List.map_id']

@[simp] theorem linesOf_writtenLines (rule other : Rule) (inSection : other ≠ .path)
    (lines : Lines) :
    linesOf rule (writtenLines other inSection lines) =
      if other = rule then lines.toList else [] := by
  rw [linesOf, writtenLines, List.filter_map, List.map_map]
  split
  · next same =>
      subst same
      simpa [Function.comp_def, Trimmed.of] using map_trim_toList lines
  · next differ => simp [Function.comp_def, differ]

@[simp] theorem linesOf_writtenSubmatch_of_ne {rule : Rule} (other : rule ≠ .submatch)
    (submatch : String) : linesOf rule (writtenSubmatch submatch) = [] := by
  rw [writtenSubmatch]
  split
  · rfl
  · rw [linesOf_cons, if_neg (Ne.symm other), linesOf_nil]

theorem getLast?_linesOf_writtenSubmatch {submatch : String}
    (trimmed : Text.trim submatch = submatch) :
    (linesOf .submatch (writtenSubmatch submatch)).getLast?.getD "" = submatch := by
  rw [writtenSubmatch]
  split
  · next empty => exact empty.symm
  · rw [linesOf_cons, if_pos rfl]
    exact trimmed

theorem writtenSubmatch_eq_nil_iff {submatch : String} :
    writtenSubmatch submatch = [] ↔ submatch = "" := by
  rw [writtenSubmatch]
  split <;> simp_all

theorem writtenLines_eq_nil_iff {rule : Rule} {inSection : rule ≠ .path} {lines : Lines} :
    writtenLines rule inSection lines = [] ↔ lines.toList = [] :=
  List.map_eq_nil_iff

theorem nodeRules?_written {rules : NodeRules} (writable : rules.Writable) :
    nodeRules? rules.written = some (rules.mapLines Lines.normal) := by
  rw [NodeRules.Writable] at writable
  have filled : ¬rules.written.isEmpty = true := by
    rw [NodeRules.written, List.isEmpty_iff]
    simpa only [List.append_eq_nil_iff, writtenLines_eq_nil_iff] using writable
  rw [nodeRules?, if_neg filled]
  simp [NodeRules.written, NodeRules.mapLines, Lines.normal]

theorem textRules?_written {rules : TextRules} (writable : rules.Writable) :
    textRules? rules.written = some (rules.mapLines Lines.normal) := by
  obtain ⟨trimmed, nonempty⟩ := writable
  have filled : ¬rules.written.isEmpty = true := by
    rw [TextRules.written, List.isEmpty_iff]
    simpa only [List.append_eq_nil_iff, writtenSubmatch_eq_nil_iff, writtenLines_eq_nil_iff]
      using nonempty
  rw [textRules?, if_neg filled]
  simp [TextRules.written, TextRules.mapLines, Lines.normal,
    getLast?_linesOf_writtenSubmatch trimmed]

/-- The queries of a field, each in an element of its own. -/
def queryParts (path : Lines) : List Part := path.toList.map fun line => .path (.of line)

/-- The sections of a field that are there. -/
def sectionParts (data : Option TextRules) (xdata : Option NodeRules) : List Part :=
  (data.map fun rules => .data rules.written).toList ++
    (xdata.map fun rules => .xdata rules.written).toList

namespace Field

/-- The short entries of a field. -/
def head : Field → Head
  | ⟨title, type, _, _, _, optional, transient, multiple, unique, standard, _⟩ =>
      { attributes := [.title title, .type type, .optional optional, .transient transient,
          .multiple multiple, .unique unique, .standard standard]
        distinct := by simp [Attribute.name] }

mutual

/-- What stands in the element of a field: its queries, its rules, and its children. -/
def parts : Field → List Part
  | ⟨_, _, path, data, xdata, _, _, _, _, _, fields⟩ =>
      queryParts path ++ (sectionParts data xdata ++ childParts fields)

def childParts : List Field → List Part
  | [] => []
  | f :: fs => .field f.head f.parts :: childParts fs

end

/-- Whether the rules of a field can be told from rules that are left out. -/
def Writable (f : Field) : Prop :=
  (∀ rules ∈ f.data, rules.Writable) ∧ ∀ rules ∈ f.xdata, rules.Writable

instance (f : Field) : Decidable f.Writable :=
  inferInstanceAs (Decidable (_ ∧ _))

end Field

/-- The sheet of a definition, in one of the orders that are possible. -/
def sheet (d : Definition) : Sheet where
  attributes := .mime d.mime :: (d.storage.map .storage).toList
  distinct := by cases d.storage <;> simp [PatternAttribute.name]
  before := (d.url.map TextRules.written).toList
  head := d.field.head
  parts := d.field.parts
  after := []

/-- Whether all rules of a definition can be told from rules that are left out. -/
def Writable (d : Definition) : Prop :=
  (∀ rules ∈ d.url, rules.Writable) ∧ ∀ f ∈ d.field.flatten, f.Writable

instance (d : Definition) : Decidable d.Writable :=
  inferInstanceAs (Decidable (_ ∧ _))

/-! ## What the sheet of a definition says -/

section

variable (path : Lines) (data : Option TextRules) (xdata : Option NodeRules) (fields : List Field)

theorem lines_queryParts : (queryParts path).filterMap Part.line? = path.toList := by
  have trimmed := map_trim_toList path
  simpa [queryParts, List.filterMap_map, Function.comp_def, Part.line?, Trimmed.of] using trimmed

theorem lines_sectionParts : (sectionParts data xdata).filterMap Part.line? = [] := by
  cases data <;> cases xdata <;> rfl

theorem lines_childParts : (Field.childParts fields).filterMap Part.line? = [] := by
  induction fields with
  | nil => rfl
  | cons f fs ih => exact ih

theorem dataRules_queryParts : (queryParts path).flatMap Part.dataRules = [] := by
  simp [queryParts, Part.dataRules, List.flatMap_eq_nil_iff]

theorem dataRules_childParts : (Field.childParts fields).flatMap Part.dataRules = [] := by
  induction fields with
  | nil => rfl
  | cons f fs ih => exact ih

theorem xdataRules_queryParts : (queryParts path).flatMap Part.xdataRules = [] := by
  simp [queryParts, Part.xdataRules, List.flatMap_eq_nil_iff]

theorem xdataRules_childParts : (Field.childParts fields).flatMap Part.xdataRules = [] := by
  induction fields with
  | nil => rfl
  | cons f fs ih => exact ih

theorem children_queryParts : (queryParts path).filterMap Part.field? = [] := by
  simp [queryParts, Part.field?]

theorem children_sectionParts : (sectionParts data xdata).filterMap Part.field? = [] := by
  cases data <;> cases xdata <;> rfl

variable {data xdata}

theorem dataRules_sectionParts (writable : ∀ rules ∈ data, rules.Writable) :
    textRules? ((sectionParts data xdata).flatMap Part.dataRules) =
      data.map (·.mapLines Lines.normal) := by
  cases data with
  | none => cases xdata <;> rfl
  | some rules =>
      have written := textRules?_written (writable rules rfl)
      cases xdata <;> simpa [sectionParts, Part.dataRules] using written

theorem xdataRules_sectionParts (writable : ∀ rules ∈ xdata, rules.Writable) :
    nodeRules? ((sectionParts data xdata).flatMap Part.xdataRules) =
      xdata.map (·.mapLines Lines.normal) := by
  cases xdata with
  | none => cases data <;> rfl
  | some rules =>
      have written := nodeRules?_written (writable rules rfl)
      cases data <;> simpa [sectionParts, Part.xdataRules] using written

end

namespace Field

mutual

/-- What is written of a field says the same as the field. -/
theorem fill_parts : ∀ f : Field, (∀ g ∈ f.flatten, g.Writable) →
    f.head.fill f.parts = f.mapLines Lines.normal
  | ⟨title, type, path, data, xdata, optional, transient, multiple, unique, standard, fields⟩,
      writable => by
      rw [flatten, List.forall_mem_cons] at writable
      obtain ⟨here, below⟩ := writable
      have children := childrenOf_childParts fields below
      rw [childrenOf_eq] at children
      rw [Head.fill, Head.fillWith, childrenOf_eq, parts]
      simp only [List.filterMap_append, List.flatMap_append, lines_queryParts, lines_sectionParts,
        lines_childParts, dataRules_queryParts, dataRules_sectionParts here.1,
        dataRules_childParts, xdataRules_queryParts, xdataRules_sectionParts here.2,
        xdataRules_childParts, children_queryParts, children_sectionParts, children,
        List.nil_append, List.append_nil]
      rfl

theorem childrenOf_childParts : ∀ fs : List Field, (∀ g ∈ flattenAll fs, g.Writable) →
    childrenOf (childParts fs) = mapLinesAll Lines.normal fs
  | [], _ => rfl
  | f :: fs, writable => by
      rw [flattenAll, List.forall_mem_append] at writable
      obtain ⟨here, later⟩ := writable
      have first := fill_parts f here
      rw [Head.fill] at first
      rw [childParts, childrenOf, Part.field?, first, childrenOf_childParts fs later, mapLinesAll]
      rfl

end

end Field

/-- The sheet of a definition says what the definition does, with each line in a block of its own. -/
theorem definition_sheet {d : Definition} (writable : d.Writable) :
    d.sheet.definition = d.normal := by
  have field := Field.fill_parts d.field writable.2
  have url : textRules? (d.sheet.before.flatten ++ d.sheet.after.flatten) =
      d.url.map (·.mapLines Lines.normal) := by
    cases there : d.url with
    | none => simp [sheet, there]; rfl
    | some rules => simpa [sheet, there] using textRules?_written (writable.1 rules there)
  rw [Sheet.definition, url, normal, mapLines]
  cases there : d.storage <;> simp [sheet, there, field, PatternAttribute.set]

end Harvest.Definition
