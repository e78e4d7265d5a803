import Mathlib
import Harvest.Definition.Json
import Harvest.Extractor
import Harvest.Proofs.Plan.Compilation
import Harvest.Proofs.Text.Split
import Harvest.Proofs.Text.Trim

/-!
# How rules are written

Rule lines may be written as one block or as many, with blanks and empty lines between them.  A
definition whose blocks are changed, but not the lines in them, is written as the same JSON and
compiles to the same extractor, or fails with the same defect.  One such change puts each line into
a block of its own: the definitions with one normal form are all compiled alike.
-/

namespace Harvest

namespace Lines

/-- The same lines, each in a block of its own. -/
def normal (lines : Lines) : Lines := ⟨lines.toList⟩

/-- A block that is one line in itself. -/
theorem ofBlock_of_line {line : String} (single : '\n' ∉ line.toList)
    (trimmed : Text.trim line = line) (filled : line ≠ "") : ofBlock line = [line] := by
  simp [ofBlock, Text.splitAt_of_not_mem single, trimmed, filled]

theorem ofBlock_of_mem {block line : String} (member : line ∈ ofBlock block) :
    ofBlock line = [line] := by
  obtain ⟨cut, filled⟩ := List.mem_filter.mp member
  obtain ⟨piece, split, rfl⟩ := List.mem_map.mp cut
  refine ofBlock_of_line (fun inside => ?_) (Text.trim_trim piece) (by simpa using filled)
  exact Text.not_mem_of_mem_splitAt split (Text.mem_of_mem_trim inside)

@[simp] theorem toList_normal (lines : Lines) : lines.normal.toList = lines.toList := by
  have single : ∀ line ∈ lines.toList, ofBlock line = [line] := fun line member => by
    obtain ⟨block, -, inside⟩ := List.mem_flatMap.mp member
    exact ofBlock_of_mem inside
  rw [normal, toList, List.flatMap_congr single]
  simp

theorem ofBlock_append (first second : String) :
    ofBlock (first ++ "\n" ++ second) = ofBlock first ++ ofBlock second := by
  have newline : "\n" = String.singleton '\n' := rfl
  rw [newline, ofBlock, Text.splitAt_append, List.map_append, List.filter_append]
  rfl

/-- Blocks with line breaks between them hold the lines of the blocks. -/
theorem toList_intercalate (blocks : List String) :
    toList ⟨["\n".intercalate blocks]⟩ = toList ⟨blocks⟩ := by
  induction blocks with
  | nil => cbv
  | cons block blocks ih =>
      cases blocks with
      | nil => simp
      | cons next blocks =>
          have joined : "\n".intercalate (block :: next :: blocks) =
              block ++ "\n" ++ "\n".intercalate (next :: blocks) := by
            simp [String.intercalate_cons_cons]
          simp only [toList, List.flatMap_cons, List.flatMap_nil, List.append_nil] at ih ⊢
          rw [joined, ofBlock_append, ih]

end Lines

/-! ## Changed blocks -/

namespace Definition

def TextRules.mapLines (change : Lines → Lines) (rules : TextRules) : TextRules where
  submatch := rules.submatch
  includes := change rules.includes
  excludes := change rules.excludes
  removes := change rules.removes

def NodeRules.mapLines (change : Lines → Lines) (rules : NodeRules) : NodeRules where
  includes := change rules.includes
  excludes := change rules.excludes
  removes := change rules.removes

mutual

def Field.mapLines (change : Lines → Lines) : Field → Field
  | ⟨title, type, path, data, xdata, optional, transient, multiple, unique, standard, fields⟩ =>
      ⟨title, type, change path, data.map (·.mapLines change), xdata.map (·.mapLines change),
        optional, transient, multiple, unique, standard, mapLinesAll change fields⟩

def mapLinesAll (change : Lines → Lines) : List Field → List Field
  | [] => []
  | f :: fs => f.mapLines change :: mapLinesAll change fs

end

/-- The definition with all of its lines changed. -/
def mapLines (change : Lines → Lines) (d : Definition) : Definition :=
  { d with url := d.url.map (·.mapLines change), field := d.field.mapLines change }

/-- The definition with each of its lines in a block of its own. -/
def normal (d : Definition) : Definition := d.mapLines Lines.normal

variable {change : Lines → Lines}

/-! ## What is written -/

theorem jsonOrNull_map {α : Type} {write : α → Json} {change : α → α}
    (same : ∀ a, write (change a) = write a) (o : Option α) :
    jsonOrNull write (o.map change) = jsonOrNull write o := by
  cases o with
  | none => rfl
  | some a => exact same a

theorem TextRules.toJson_mapLines (same : ∀ lines, (change lines).toList = lines.toList)
    (rules : TextRules) : (rules.mapLines change).toJson = rules.toJson := by
  simp [TextRules.toJson, TextRules.mapLines, Lines.toJson, same]

theorem NodeRules.toJson_mapLines (same : ∀ lines, (change lines).toList = lines.toList)
    (rules : NodeRules) : (rules.mapLines change).toJson = rules.toJson := by
  simp [NodeRules.toJson, NodeRules.mapLines, Lines.toJson, same]

mutual

theorem Field.toJson_mapLines (same : ∀ lines, (change lines).toList = lines.toList) :
    ∀ f : Field, (f.mapLines change).toJson = f.toJson
  | ⟨title, type, path, data, xdata, optional, transient, multiple, unique, standard, fields⟩ => by
      rw [Field.mapLines, Field.toJson, Field.toJson, Lines.toJson, same, ← Lines.toJson,
        jsonOrNull_map (TextRules.toJson_mapLines same),
        jsonOrNull_map (NodeRules.toJson_mapLines same), fieldsToJson_mapLinesAll same fields]

theorem fieldsToJson_mapLinesAll (same : ∀ lines, (change lines).toList = lines.toList) :
    ∀ fs : List Field, fieldsToJson (mapLinesAll change fs) = fieldsToJson fs
  | [] => rfl
  | f :: fs => by
      rw [mapLinesAll, fieldsToJson, fieldsToJson, Field.toJson_mapLines same f,
        fieldsToJson_mapLinesAll same fs]

end

/-- Only the lines are written, not the blocks in which they are. -/
theorem toJson_mapLines (same : ∀ lines, (change lines).toList = lines.toList) (d : Definition) :
    (d.mapLines change).toJson = d.toJson := by
  rw [toJson, toJson, mapLines, jsonOrNull_map (TextRules.toJson_mapLines same),
    Field.toJson_mapLines same]

theorem toJson_normal (d : Definition) : d.normal.toJson = d.toJson :=
  toJson_mapLines Lines.toList_normal d

end Definition

/-! ## What is compiled -/

variable {change : Lines → Lines}

theorem TextFilter.compile_mapLines (same : ∀ lines, (change lines).toList = lines.toList)
    (rules : Option Definition.TextRules) :
    compile (rules.map (·.mapLines change)) = compile rules := by
  cases rules with
  | none => rfl
  | some rules => simp [compile, compileRules, compileLines, Definition.TextRules.mapLines, same]

theorem NodeFilter.compile_mapLines (same : ∀ lines, (change lines).toList = lines.toList)
    (rules : Option Definition.NodeRules) :
    compile (rules.map (·.mapLines change)) = compile rules := by
  cases rules with
  | none => rfl
  | some rules =>
      simp [compile, compileRules, XPath.Query.compileLines, Definition.NodeRules.mapLines, same]

theorem FieldPlan.compile_mapLines (same : ∀ lines, (change lines).toList = lines.toList)
    (f : Definition.Field) : compile (f.mapLines change) = compile f := by
  obtain ⟨title, type, path, data, xdata, optional, transient, multiple, unique, standard, fields⟩ := f
  simp [compile, compileRules, Definition.Field.mapLines, TextFilter.compile_mapLines same,
    NodeFilter.compile_mapLines same, XPath.Query.compileLines, same]

mutual

theorem Plan.compile_mapLines (same : ∀ lines, (change lines).toList = lines.toList) :
    ∀ f : Definition.Field, compile (f.mapLines change) = compile f
  | ⟨title, type, path, data, xdata, optional, transient, multiple, unique, standard, fields⟩ => by
      rw [compile_eq, compile_eq, FieldPlan.compile_mapLines same, Definition.Field.mapLines,
        Plan.compileAll_mapLinesAll same fields]

theorem Plan.compileAll_mapLinesAll (same : ∀ lines, (change lines).toList = lines.toList) :
    ∀ fs : List Definition.Field, compileAll (Definition.mapLinesAll change fs) = compileAll fs
  | [] => rfl
  | f :: fs => by
      rw [Definition.mapLinesAll, compileAll, compileAll, Plan.compile_mapLines same f,
        Plan.compileAll_mapLinesAll same fs]

end

theorem Definition.field_withRootType_mapLines (d : Definition) :
    (d.mapLines change).withRootType.field = d.withRootType.field.mapLines change := by
  obtain ⟨url, ⟨title, type, _, _, _, _, _, _, _, _, _⟩, mime, storage⟩ := d
  by_cases blank : (Text.trim type).isEmpty
  · simp [withRootType, mapLines, Field.mapLines, blank]
  · simp [withRootType, mapLines, Field.mapLines, blank]

/-- Only the lines are compiled, not the blocks in which they are. -/
theorem Extractor.compile_mapLines (same : ∀ lines, (change lines).toList = lines.toList)
    (d : Definition) : compile (d.mapLines change) = compile d := by
  simp only [compile, d.field_withRootType_mapLines, Plan.compile_mapLines same]
  simp only [Definition.mapLines, TextFilter.compile_mapLines same]

theorem Extractor.compile_normal (d : Definition) : compile d.normal = compile d :=
  compile_mapLines Lines.toList_normal d

end Harvest
