import Mathlib
import Harvest.Proofs.Plan.Compilation

/-!
# The first defect

Each rule of a field can be looked at for itself, and so can its type.  What is wrong with them is
the list of the defects of a field, in the order in which the field is checked.  A tree of fields
compiles if no field in it has a defect.  Otherwise the first defect of the first field that has one
is what is reported, each field coming before those below it, with the title of that field alone.
-/

namespace Harvest

/-! ## What failed -/

section Failure

variable {ε α β : Type} {x : Except ε α} {next : α → Except ε β} {first later : List ε}

/-- The error of a computation that failed. -/
def failure? : Except ε α → Option ε
  | .ok _ => none
  | .error e => some e

theorem failure?_eq_some_iff {e : ε} : failure? x = some e ↔ x = .error e := by
  cases x <;> simp [failure?]

theorem failure?_eq_none_iff : failure? x = none ↔ ∃ a, x = .ok a := by
  cases x <;> simp [failure?]

/-- Of two computations one after the other, the second counts if the first has not failed. -/
theorem failure?_bind (head : failure? x = first.head?)
    (tail : ∀ a, x = .ok a → failure? (next a) = later.head?) :
    failure? (x >>= next) = (first ++ later).head? := by
  cases x with
  | error e =>
      rw [List.head?_append, ← head]
      rfl
  | ok a =>
      rw [List.head?_append, ← head]
      exact tail a rfl

theorem failure?_bind_pure {f : α → β} (head : failure? x = first.head?) :
    failure? (x >>= fun a => pure (f a)) = first.head? := by
  rw [← head]
  cases x <;> rfl

/-- The first of some computations that fails is what all of them together fail with. -/
theorem failure?_mapM (f : α → Except ε β) (as : List α) :
    failure? (as.mapM f) = (as.filterMap fun a => failure? (f a)).head? := by
  induction as with
  | nil => rfl
  | cons a as ih =>
      rw [List.mapM_cons, List.filterMap_cons]
      cases own : f a with
      | error e => rfl
      | ok b =>
          cases rest : as.mapM f with
          | error e =>
              rw [rest] at ih
              exact ih
          | ok bs =>
              rw [rest] at ih
              exact ih

end Failure

/-! ## One field -/

/-- The titles of fields that a defect names. -/
def Defect.titles : Defect → List String
  | typeMissing title => [title]
  | inField title defect => title :: defect.titles
  | _ => []

theorem Defect.within_of_nameless {defect : Defect} {title : String}
    (nameless : defect.titles = []) : defect.within title = .inField title defect := by
  cases defect with
  | typeMissing _ | inField _ _ => cases nameless
  | unknownType _ | badRegex _ _ | badQuery _ _ _ | unknownMime _ => rfl

section OneField

variable {rule : Rule} {lines : Lines} {defect : Defect}

/-- The defects of the lines of a rule that are queries. -/
def XPath.Query.lineDefects (rule : Rule) (lines : Lines) : List Defect :=
  lines.toList.filterMap fun line =>
    match XPath.Query.compile line with
    | .ok _ => none
    | .error e => some (.badQuery rule line e)

theorem XPath.Query.failure?_compileLines (rule : Rule) (lines : Lines) :
    failure? (compileLines rule lines) = (lineDefects rule lines).head? := by
  rw [compileLines, failure?_mapM, lineDefects]
  congr 2
  funext line
  cases XPath.Query.compile line <;> rfl

theorem XPath.Query.titles_of_mem_lineDefects (member : defect ∈ lineDefects rule lines) :
    defect.titles = [] := by
  obtain ⟨line, -, own⟩ := List.mem_filterMap.mp member
  split at own
  · cases own
  · obtain rfl := Option.some.inj own
    rfl

namespace TextFilter

/-- The defects of the lines of a rule that are regular expressions. -/
def lineDefects (rule : Rule) (lines : Lines) : List Defect :=
  (lines.toList.filter fun line => (Regex.compile? line).isNone).map (.badRegex rule)

/-- The defect of a submatch, unless it is blank. -/
def submatchDefects (submatch : String) : List Defect :=
  if (Text.trim submatch).isEmpty ∨ (Regex.compile? (Text.trim submatch)).isSome then []
  else [.badRegex .submatch (Text.trim submatch)]

/-- The defects of rules for texts. -/
def defects (rules : Definition.TextRules) : List Defect :=
  submatchDefects rules.submatch ++ lineDefects .includes rules.includes ++
    lineDefects .excludes rules.excludes ++ lineDefects .removes rules.removes

theorem failure?_compileLines (rule : Rule) (lines : Lines) :
    failure? (compileLines rule lines) = (lineDefects rule lines).head? := by
  rw [compileLines, failure?_mapM, lineDefects, ← List.filterMap_eq_map, List.filterMap_filter]
  congr 2
  funext line
  cases Regex.compile? line <;> rfl

theorem failure?_compileSubmatch (submatch : String) :
    failure? (compileSubmatch submatch) = (submatchDefects submatch).head? := by
  rw [compileSubmatch, submatchDefects]
  by_cases blank : (Text.trim submatch).isEmpty
  · simp [blank, failure?]
  · cases Regex.compile? (Text.trim submatch) <;> simp [blank, failure?]

theorem titles_of_mem_lineDefects (member : defect ∈ lineDefects rule lines) :
    defect.titles = [] := by
  obtain ⟨line, -, rfl⟩ := List.mem_map.mp member
  rfl

theorem titles_of_mem_defects {rules : Definition.TextRules} (member : defect ∈ defects rules) :
    defect.titles = [] := by
  simp only [defects, List.mem_append] at member
  rcases member with ((submatch | includes) | excludes) | removes
  · rw [submatchDefects] at submatch
    split at submatch
    · cases submatch
    · obtain rfl := List.mem_singleton.mp submatch
      rfl
  · exact titles_of_mem_lineDefects includes
  · exact titles_of_mem_lineDefects excludes
  · exact titles_of_mem_lineDefects removes

theorem failure?_compile (rules : Option Definition.TextRules) :
    failure? (compile rules) = (rules.elim [] defects).head? := by
  cases rules with
  | none => rfl
  | some rules =>
      rw [compile, compileRules, Option.elim_some, defects, List.append_assoc, List.append_assoc]
      refine failure?_bind (failure?_compileSubmatch rules.submatch) fun submatch _ => ?_
      refine failure?_bind (failure?_compileLines .includes rules.includes) fun includes _ => ?_
      refine failure?_bind (failure?_compileLines .excludes rules.excludes) fun excludes _ => ?_
      exact failure?_bind_pure (failure?_compileLines .removes rules.removes)

end TextFilter

namespace NodeFilter

/-- The defects of rules for nodes. -/
def defects (rules : Definition.NodeRules) : List Defect :=
  XPath.Query.lineDefects .includes rules.includes ++
    XPath.Query.lineDefects .excludes rules.excludes ++
    XPath.Query.lineDefects .removes rules.removes

theorem titles_of_mem_defects {rules : Definition.NodeRules} (member : defect ∈ defects rules) :
    defect.titles = [] := by
  simp only [defects, List.mem_append] at member
  rcases member with (includes | excludes) | removes
  · exact XPath.Query.titles_of_mem_lineDefects includes
  · exact XPath.Query.titles_of_mem_lineDefects excludes
  · exact XPath.Query.titles_of_mem_lineDefects removes

theorem failure?_compile (rules : Option Definition.NodeRules) :
    failure? (compile rules) = (rules.elim [] defects).head? := by
  cases rules with
  | none => rfl
  | some rules =>
      rw [compile, compileRules, Option.elim_some, defects, List.append_assoc]
      refine failure?_bind (XPath.Query.failure?_compileLines .includes _) fun includes _ => ?_
      refine failure?_bind (XPath.Query.failure?_compileLines .excludes _) fun excludes _ => ?_
      exact failure?_bind_pure (XPath.Query.failure?_compileLines .removes rules.removes)

end NodeFilter

namespace Definition.Field

/-- The defects of the type of a field: it is missing, or it names no shape. -/
def typeDefects (f : Field) : List Defect :=
  (if (Text.trim f.type).isEmpty then [.typeMissing f.title] else []) ++
    if (Shape.parse? f.type).isNone then [.unknownType f.type] else []

/-- The defects of a field for itself, in the order in which it is checked: the lines of its path,
its rules for texts, its rules for nodes, and its type. -/
def defects (f : Field) : List Defect :=
  XPath.Query.lineDefects .path f.path ++ f.data.elim [] TextFilter.defects ++
    f.xdata.elim [] NodeFilter.defects ++ f.typeDefects

/-- A defect of a field names no field, unless it is that the type is missing. -/
theorem titles_of_mem_defects {f : Field} (member : defect ∈ f.defects) :
    defect.titles = [] ∨ defect = .typeMissing f.title := by
  simp only [defects, List.mem_append] at member
  rcases member with ((path | data) | xdata) | type
  · exact .inl (XPath.Query.titles_of_mem_lineDefects path)
  · cases rules : f.data with
    | none => simp [rules] at data
    | some own => exact .inl (TextFilter.titles_of_mem_defects (rules ▸ data))
  · cases rules : f.xdata with
    | none => simp [rules] at xdata
    | some own => exact .inl (NodeFilter.titles_of_mem_defects (rules ▸ xdata))
  · rw [typeDefects, List.mem_append] at type
    rcases type with missing | unknown
    · split at missing
      · exact .inr (List.mem_singleton.mp missing)
      · cases missing
    · split at unknown
      · obtain rfl := List.mem_singleton.mp unknown
        exact .inl rfl
      · cases unknown

example : ({ title := "b", type := " " } : Field).defects =
    [.typeMissing "b", .unknownType " "] := by cbv

end Definition.Field

namespace FieldPlan

theorem failure?_compileShape (f : Definition.Field) :
    failure? (compileShape f.title f.type) = f.typeDefects.head? := by
  rw [compileShape, Definition.Field.typeDefects]
  split
  · rfl
  · cases Shape.parse? f.type <;> rfl

theorem failure?_compileRules (f : Definition.Field) :
    failure? (compileRules f) = f.defects.head? := by
  rw [compileRules, Definition.Field.defects, List.append_assoc, List.append_assoc]
  refine failure?_bind (XPath.Query.failure?_compileLines .path f.path) fun candidates _ => ?_
  refine failure?_bind (TextFilter.failure?_compile f.data) fun textFilter _ => ?_
  refine failure?_bind (NodeFilter.failure?_compile f.xdata) fun nodeFilter _ => ?_
  exact failure?_bind_pure (failure?_compileShape f)

theorem failure?_compile (f : Definition.Field) :
    failure? (compile f) = f.defects.head?.map (Defect.within f.title) := by
  rw [← failure?_compileRules, compile]
  cases compileRules f <;> rfl

end FieldPlan

end OneField

/-! ## Trees of fields -/

namespace Plan

/-- What is reported of a field for itself. -/
def report? (f : Definition.Field) : Option Defect := f.defects.head?.map (Defect.within f.title)

theorem report?_eq_none_iff {f : Definition.Field} : report? f = none ↔ f.defects = [] := by
  rw [report?, Option.map_eq_none_iff, List.head?_eq_none_iff]

/-- What is reported of a tree of fields is that of the first field that has a defect. -/
theorem failure?_compile (f : Definition.Field) :
    failure? (compile f) = f.flatten.findSome? report? := by
  induction f using Definition.Field.inductionOn with
  | field f ih =>
      have siblings (fs : List Definition.Field) (each : ∀ g ∈ fs, g ∈ f.fields) :
          failure? (compileAll fs) =
            ((Definition.Field.flattenAll fs).filterMap report?).head? := by
        induction fs with
        | nil => rfl
        | cons g fs below =>
            rw [compileAll, Definition.Field.flattenAll, List.filterMap_append]
            refine failure?_bind ?_ fun p _ => ?_
            · rw [ih g (each g (.head fs)), List.head?_filterMap]
            · exact failure?_bind_pure (below fun h member => each h (.tail g member))
      rw [compile_eq, ← List.head?_filterMap, f.flatten_eq, ← List.singleton_append,
        List.filterMap_append]
      refine failure?_bind ?_ fun p _ => ?_
      · rw [FieldPlan.failure?_compile, List.head?_filterMap, List.findSome?_singleton, report?]
      · exact failure?_bind_pure (siblings f.fields fun _ member => member)

/-- What is reported of a field is the first of its defects, and names the field once. -/
theorem report?_eq_some_iff {f : Definition.Field} {e : Defect} : report? f = some e ↔
    ∃ defect later, f.defects = defect :: later ∧ e.titles = [f.title] ∧
      (e = .inField f.title defect ∨ e = defect ∧ defect = .typeMissing f.title) := by
  rw [report?, Option.map_eq_some_iff]
  constructor
  · rintro ⟨defect, first, rfl⟩
    obtain ⟨later, own⟩ := List.head?_eq_some_iff.mp first
    refine ⟨defect, later, own, ?_⟩
    rcases Definition.Field.titles_of_mem_defects (own ▸ List.mem_cons_self) with nameless | rfl
    · rw [Defect.within_of_nameless nameless]
      exact ⟨by rw [Defect.titles, nameless], .inl rfl⟩
    · exact ⟨rfl, .inr ⟨rfl, rfl⟩⟩
  · rintro ⟨defect, later, own, named, rfl | ⟨rfl, rfl⟩⟩
    · have nameless : defect.titles = [] := (List.cons.inj named).2
      exact ⟨defect, by rw [own]; rfl, Defect.within_of_nameless nameless⟩
    · exact ⟨_, by rw [own]; rfl, rfl⟩

/-- A definition compiles if and only if no field in it has a defect.  Otherwise the defect that is
reported is the first one of the first field that has any, in the order of the list of all fields,
and it names this field once and no other: it is the defect inside the field, or that the type of
the field is missing. -/
theorem compile_exact (f : Definition.Field) :
    ((∃ p, compile f = .ok p) ↔ ∀ g ∈ f.flatten, g.defects = []) ∧
    ∀ e, compile f = .error e ↔ ∃ before g after defect later,
      f.flatten = before ++ g :: after ∧ (∀ h ∈ before, h.defects = []) ∧
      g.defects = defect :: later ∧ e.titles = [g.title] ∧
      (e = .inField g.title defect ∨ e = defect ∧ defect = .typeMissing g.title) := by
  constructor
  · rw [← failure?_eq_none_iff, failure?_compile, List.findSome?_eq_none_iff]
    simp only [report?_eq_none_iff]
  · intro e
    rw [← failure?_eq_some_iff, failure?_compile, List.findSome?_eq_some_iff]
    simp only [report?_eq_none_iff, report?_eq_some_iff]
    constructor
    · rintro ⟨before, g, after, split, ⟨defect, later, own⟩, sound⟩
      exact ⟨before, g, after, defect, later, split, sound, own⟩
    · rintro ⟨before, g, after, defect, later, split, sound, own⟩
      exact ⟨before, g, after, split, ⟨defect, later, own⟩, sound⟩

end Plan

end Harvest
