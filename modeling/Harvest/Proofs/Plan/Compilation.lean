import Mathlib
import Harvest.Plan

/-!
# What compiles

A field compiles if each of its rules does and its type names a shape, and a tree of fields compiles
if each of its fields does.  The plan then has the shape of the definition: each field of it carries
the title, the flags and the compiled rules of its definition.
-/

namespace Harvest

/-- What holds of a field if it holds of the fields below it holds of all fields. -/
theorem Definition.Field.inductionOn {motive : Definition.Field → Prop} (f : Definition.Field)
    (field : ∀ f : Definition.Field, (∀ g ∈ f.fields, motive g) → motive f) : motive f :=
  match f with
  | ⟨title, type, path, data, xdata, optional, transient, multiple, unique, standard, fields⟩ =>
      field ⟨title, type, path, data, xdata, optional, transient, multiple, unique, standard, fields⟩
        fun g _ => inductionOn g field

/-- A field is listed before all fields below it. -/
theorem Definition.Field.flatten_eq (f : Definition.Field) :
    f.flatten = f :: flattenAll f.fields := by
  cases f
  rfl

/-! ## Lists that correspond -/

section Correspondence

variable {α β : Type} {R : α → β → Prop} {as : List α} {bs : List β}

/-- What stands in the first of two lists that correspond has its counterpart in the second. -/
theorem exists_counterpart (related : List.Forall₂ R as bs) {a : α} (member : a ∈ as) :
    ∃ b ∈ bs, R a b := by
  induction related with
  | nil => cases member
  | @cons first counterpart as bs fits _ ih =>
      rcases List.mem_cons.mp member with rfl | later
      · exact ⟨counterpart, .head bs, fits⟩
      · obtain ⟨b, found, fits⟩ := ih later
        exact ⟨b, .tail counterpart found, fits⟩

/-- A list whose elements all have counterparts has a list that corresponds to it. -/
theorem exists_forall₂ (each : ∀ a ∈ as, ∃ b, R a b) : ∃ bs, List.Forall₂ R as bs := by
  induction as with
  | nil => exact ⟨[], .nil⟩
  | cons a as ih =>
      obtain ⟨b, fits⟩ := each a (.head as)
      obtain ⟨bs, related⟩ := ih fun other member => each other (.tail a member)
      exact ⟨b :: bs, .cons fits related⟩

end Correspondence

/-! ## Lines of queries -/

/-- The lines of a rule compile if each of them does, to one query each. -/
theorem XPath.Query.compileLines_eq_ok_iff {rule : Rule} {lines : Lines}
    {queries : List XPath.Query} :
    compileLines rule lines = .ok queries ↔
      List.Forall₂ (fun line query => compile line = .ok query) lines.toList queries := by
  rw [compileLines]
  generalize lines.toList = texts
  induction texts generalizing queries with
  | nil => simp [pure, Except.pure, eq_comm]
  | cons text texts ih =>
      rw [List.mapM_cons, List.forall₂_cons_left_iff]
      simp only [← ih]
      cases first : compile text with
      | error e => simp [bind, Except.bind]
      | ok query =>
          simp only [bind, Except.bind]
          split
          · next e failed => simp [failed]
          · next rest later => simp [later, pure, Except.pure, eq_comm]

/-- The queries of lines are those that one of the lines compiles to. -/
theorem XPath.Query.mem_of_compileLines {rule : Rule} {lines : Lines} {queries : List XPath.Query}
    (compiled : compileLines rule lines = .ok queries) {q : XPath.Query} :
    q ∈ queries ↔ ∃ line ∈ lines.toList, compile line = .ok q := by
  have related := compileLines_eq_ok_iff.mp compiled
  constructor
  · exact exists_counterpart related.flip
  · rintro ⟨line, member, own⟩
    obtain ⟨other, known, same⟩ := exists_counterpart related member
    obtain rfl : q = other := Except.ok.inj (own.symm.trans same)
    exact known

/-- Lines compile to the same queries if they are the same lines, in whatever order and however
often each of them is written. -/
theorem XPath.Query.exists_compileLines {rule : Rule} {lines others : Lines}
    {queries : List XPath.Query} (compiled : compileLines rule lines = .ok queries)
    (same : ∀ line, line ∈ others.toList ↔ line ∈ lines.toList) :
    ∃ otherQueries, compileLines rule others = .ok otherQueries ∧
      ∀ q, q ∈ otherQueries ↔ q ∈ queries := by
  have each : ∀ line ∈ others.toList, ∃ q, compile line = .ok q := fun line member => by
    obtain ⟨q, -, own⟩ :=
      exists_counterpart (compileLines_eq_ok_iff.mp compiled) ((same line).mp member)
    exact ⟨q, own⟩
  obtain ⟨otherQueries, related⟩ := exists_forall₂ each
  have compiled' : compileLines rule others = .ok otherQueries :=
    compileLines_eq_ok_iff.mpr related
  refine ⟨otherQueries, compiled', fun q => ?_⟩
  simp only [mem_of_compileLines compiled', mem_of_compileLines compiled, same]

theorem NodeFilter.compile_some_eq_ok_iff {rules : Definition.NodeRules} {f : NodeFilter} :
    compile (some rules) = .ok f ↔
      XPath.Query.compileLines .includes rules.includes = .ok f.includes ∧
      XPath.Query.compileLines .excludes rules.excludes = .ok f.excludes ∧
      XPath.Query.compileLines .removes rules.removes = .ok f.removes := by
  constructor
  · intro compiled
    simp only [compile, compileRules, bind, Except.bind, pure, Except.pure] at compiled
    split at compiled
    · cases compiled
    · next includes own =>
        split at compiled
        · cases compiled
        · next excludes own' =>
            split at compiled
            · cases compiled
            · next removes own'' =>
                obtain rfl := Except.ok.inj compiled
                exact ⟨own, own', own''⟩
  · rintro ⟨includes, excludes, removes⟩
    rw [compile, compileRules, includes, excludes, removes]
    rfl

/-! ## One field -/

theorem Shape.parse?_of_blank {type : String} (blank : (Text.trim type).isEmpty) :
    Shape.parse? type = none := by
  have none : Text.trimChars type.toList = [] := by
    simpa [Text.trim, String.ofList_eq_empty_iff] using blank
  rw [Shape.parse?, none]
  cbv

namespace FieldPlan

theorem compileShape_eq_ok_iff {title type : String} {shape : Shape} :
    compileShape title type = .ok shape ↔ Shape.parse? type = some shape := by
  rw [compileShape]
  split
  · next blank => simp [Shape.parse?_of_blank blank]
  · cases Shape.parse? type <;> simp

/-- What the plan of a field has from the definition of the field. -/
structure IsFor (f : Definition.Field) (p : FieldPlan) : Prop where
  title : p.title = f.title
  candidates : XPath.Query.compileLines .path f.path = .ok p.candidates
  textFilter : TextFilter.compile f.data = .ok p.textFilter
  nodeFilter : NodeFilter.compile f.xdata = .ok p.nodeFilter
  shape : Shape.parse? f.type = some p.shape
  optional : p.optional = f.optional
  transient : p.transient = f.transient
  multiple : p.multiple = f.multiple
  unique : p.unique = f.unique
  standard : p.standard = f.standard

theorem compileRules_eq_ok_iff {f : Definition.Field} {p : FieldPlan} :
    compileRules f = .ok p ↔ IsFor f p := by
  constructor
  · intro compiled
    simp only [compileRules, bind, Except.bind, pure, Except.pure] at compiled
    split at compiled
    · cases compiled
    · next candidates path =>
        split at compiled
        · cases compiled
        · next textFilter data =>
            split at compiled
            · cases compiled
            · next nodeFilter xdata =>
                split at compiled
                · cases compiled
                · next shape type =>
                    obtain rfl := Except.ok.inj compiled
                    exact ⟨rfl, path, data, xdata, compileShape_eq_ok_iff.mp type, rfl, rfl, rfl,
                      rfl, rfl⟩
  · intro whole
    rw [compileRules, whole.candidates, whole.textFilter, whole.nodeFilter,
      compileShape_eq_ok_iff.mpr whole.shape, ← whole.title, ← whole.optional, ← whole.transient,
      ← whole.multiple, ← whole.unique, ← whole.standard]
    rfl

theorem compile_eq_ok_iff {f : Definition.Field} {p : FieldPlan} :
    compile f = .ok p ↔ IsFor f p := by
  rw [compile, ← compileRules_eq_ok_iff]
  cases compileRules f <;> simp [Except.mapError]

end FieldPlan

/-! ## Trees of fields -/

namespace Plan

theorem compile_eq (f : Definition.Field) :
    compile f = (do
      let field ← FieldPlan.compile f
      return node field (← compileAll f.fields)) := by
  cases f
  rfl

theorem compileAll_eq_ok_iff {fs : List Definition.Field} {ps : List Plan} :
    compileAll fs = .ok ps ↔ List.Forall₂ (fun f p => compile f = .ok p) fs ps := by
  induction fs generalizing ps with
  | nil => simp [compileAll, pure, Except.pure, eq_comm]
  | cons f fs ih =>
      rw [compileAll, List.forall₂_cons_left_iff]
      simp only [← ih]
      cases first : compile f with
      | error e => simp [bind, Except.bind]
      | ok p =>
          cases rest : compileAll fs with
          | error e => simp [bind, Except.bind]
          | ok qs => simp [bind, Except.bind, pure, Except.pure, eq_comm]

/-- A plan is that of a definition if its root is that of the root of the definition, and the plans
below it are, one by one, those of the fields below. -/
theorem compile_eq_ok_iff {f : Definition.Field} {p : Plan} :
    compile f = .ok p ↔
      FieldPlan.IsFor f p.field ∧
        List.Forall₂ (fun g q => compile g = .ok q) f.fields p.children := by
  obtain ⟨field, children⟩ := p
  rw [compile_eq, ← FieldPlan.compile_eq_ok_iff, ← compileAll_eq_ok_iff]
  cases root : FieldPlan.compile f with
  | error e => simp [bind, Except.bind]
  | ok p =>
      cases below : compileAll f.fields with
      | error e => simp [bind, Except.bind]
      | ok qs =>
          simp [bind, Except.bind, pure, Except.pure, Plan.field, Plan.children]

/-- The plans below a plan have the titles of the fields below the field. -/
theorem map_title_of_compile {f : Definition.Field} {p : Plan} (compiled : compile f = .ok p) :
    p.children.map Plan.title = f.fields.map fun g => g.title := by
  rw [← List.forall₂_eq_eq_eq, List.forall₂_map_left_iff, List.forall₂_map_right_iff]
  exact (compile_eq_ok_iff.mp compiled).2.flip.imp fun _ _ (below : compile _ = .ok _) =>
    (compile_eq_ok_iff.mp below).1.title

/-- Each of some fields that compile has a plan. -/
theorem exists_plan_of_mem {fs : List Definition.Field} {ps : List Plan} {f : Definition.Field}
    (compiled : List.Forall₂ (fun f p => compile f = .ok p) fs ps) (member : f ∈ fs) :
    ∃ p ∈ ps, compile f = .ok p :=
  exists_counterpart compiled member

/-- Each of the plans of some fields is that of one of them. -/
theorem exists_field_of_mem {fs : List Definition.Field} {ps : List Plan} {p : Plan}
    (compiled : List.Forall₂ (fun f p => compile f = .ok p) fs ps) (member : p ∈ ps) :
    ∃ f ∈ fs, compile f = .ok p :=
  exists_counterpart compiled.flip member

end Plan

end Harvest
