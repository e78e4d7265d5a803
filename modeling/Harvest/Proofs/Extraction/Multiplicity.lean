import Mathlib
import Harvest.Proofs.Extraction.Record
import Harvest.Proofs.Plan.Compilation

/-!
# Fields that may occur more than once

Such a field has a list as its value, which may be empty, and so it never costs the structure around
it its value.  The exception is a field that is no structure and has no queries: there is nothing it
could collect a list from, and it has no value at all.
-/

namespace Harvest

/-- Whether a field is no structure and has no line that says where to look for it. -/
def Definition.Field.IsPathless (f : Definition.Field) : Prop :=
  f.path.toList = [] ∧ ∀ shape, Shape.parse? f.type = some shape → shape.kind ≠ .struct

namespace FieldPlan

variable {f : Definition.Field} {p : FieldPlan} {doc : Document} {place : Place}

theorem IsFor.candidates_eq_nil_iff (fits : IsFor f p) : p.candidates = [] ↔ f.path.toList = [] := by
  have lines := XPath.Query.compileLines_eq_ok_iff.mp fits.candidates
  rw [← List.length_eq_zero_iff, ← lines.length_eq, List.length_eq_zero_iff]

theorem IsFor.isPathless_iff (fits : IsFor f p) :
    f.IsPathless ↔ p.shape.kind ≠ .struct ∧ p.candidates = [] := by
  rw [Definition.Field.IsPathless, fits.candidates_eq_nil_iff, and_comm]
  refine and_congr_left fun _ => ⟨fun leaf => leaf p.shape fits.shape, fun leaf shape type => ?_⟩
  obtain rfl : p.shape = shape := Option.some.inj (fits.shape.symm.trans type)
  exact leaf

/-- The first query of a field with lists for values is the last that is tried. -/
theorem leaf?_of_isMultiple (multiple : p.isMultiple = true) :
    p.leaf? doc place = p.candidates.head?.bind (p.candidate? doc place) := by
  rw [leaf?]
  cases p.candidates with
  | nil => rfl
  | cons q queries =>
      obtain ⟨value, found⟩ : ∃ value, p.candidate? doc place q = some value := by
        rw [candidate?, if_pos multiple]
        exact ⟨_, rfl⟩
      rw [List.findSome?_cons, found]
      exact found.symm

end FieldPlan

namespace Plan

variable {f : Definition.Field} {p : Plan} {doc : Document} {place : Place}

theorem retrieve_eq_none_of_isPathless (compiled : compile f = .ok p) (pathless : f.IsPathless) :
    p.retrieve doc place = none := by
  have fits : FieldPlan.IsFor f p.field := (compile_eq_ok_iff.mp compiled).1
  obtain ⟨leaf, none⟩ := fits.isPathless_iff.mp pathless
  rw [retrieve_eq, if_neg leaf, FieldPlan.leaf?, none]
  rfl

theorem retrieve_eq_list (compiled : compile f = .ok p) (multiple : p.field.isMultiple = true)
    (pathed : ¬f.IsPathless) : ∃ items, p.retrieve doc place = some (.list items) := by
  have fits : FieldPlan.IsFor f p.field := (compile_eq_ok_iff.mp compiled).1
  rw [retrieve_eq, if_pos multiple]
  split
  · exact ⟨_, rfl⟩
  · next leaf =>
      rw [FieldPlan.leaf?_of_isMultiple multiple]
      cases queries : p.field.candidates with
      | nil => exact absurd (fits.isPathless_iff.mpr ⟨leaf, queries⟩) pathed
      | cons q rest =>
          rw [List.head?_cons, Option.bind_some, FieldPlan.candidate?, if_pos multiple]
          exact ⟨_, rfl⟩

/-- A field among others matters to the structure around them only if it has no value. -/
theorem suffices_insert_iff {before after : List Plan} :
    Suffices doc place (before ++ p :: after) ↔
      (p.field.optional = false → (p.retrieve doc place).isSome) ∧
        Suffices doc place (before ++ after) := by
  simp only [Suffices, List.forall_mem_append, List.forall_mem_cons]
  exact and_left_comm

/-- The value of a field that may occur more than once is a list, and whether the structure around it
has a value does not depend on the field; unless it is pathless, when it has no value, nor has the
structure that cannot do without it. -/
theorem retrieve_of_isMultiple (f : Definition.Field) (p : Plan) (doc : Document) (place : Place)
    (compiled : compile f = .ok p) (multiple : p.field.isMultiple = true) :
    (f.IsPathless → p.retrieve doc place = none ∧
      ∀ before after, f.optional = false →
        record doc (before ++ p :: after) place [] = none) ∧
    (¬f.IsPathless → (∃ items, p.retrieve doc place = some (.list items)) ∧
      ∀ before after, (record doc (before ++ p :: after) place []).isSome =
        (record doc (before ++ after) place []).isSome) := by
  have fits : FieldPlan.IsFor f p.field := (compile_eq_ok_iff.mp compiled).1
  constructor
  · intro pathless
    have absent : p.retrieve doc place = none := retrieve_eq_none_of_isPathless compiled pathless
    refine ⟨absent, fun before after required => ?_⟩
    refine Option.not_isSome_iff_eq_none.mp fun recorded => ?_
    have present := (suffices_insert_iff.mp (isSome_record_iff.mp recorded)).1
      (fits.optional.trans required)
    rw [absent] at present
    cases present
  · intro pathed
    obtain ⟨items, retrieved⟩ : ∃ items, p.retrieve doc place = some (.list items) :=
      retrieve_eq_list compiled multiple pathed
    refine ⟨⟨items, retrieved⟩, fun before after => Bool.eq_iff_iff.mpr ?_⟩
    rw [isSome_record_iff, isSome_record_iff, suffices_insert_iff]
    exact and_iff_right fun _ => by rw [retrieved, Option.isSome_some]

/-- Tags without a line that says where they are. -/
def tagsField : Definition.Field := { title := "tags", type := "string", multiple := true }

def tagsPlan : Plan :=
  .node ⟨"tags", ⟨.string, false⟩, [], {}, {}, false, false, true, false, false⟩ []

/-- Links, of which a page may have none. -/
def linksField : Definition.Field := { title := "links", type := "[]html", path := ⟨["//a"]⟩ }

def linksPlan : Plan :=
  .node ⟨"links", ⟨.html, true⟩,
    [⟨"//a", .path true [.mk .descendantOrSelf .node [], .mk .child (.name "a") []]⟩], {}, {},
    false, false, false, false, false⟩ []

theorem compile_tagsField : compile tagsField = .ok tagsPlan :=
  compile_eq_ok_iff.mpr ⟨⟨rfl, by cbv, rfl, rfl, by cbv, rfl, rfl, rfl, rfl, rfl⟩, .nil⟩

theorem compile_linksField : compile linksField = .ok linksPlan :=
  compile_eq_ok_iff.mpr ⟨⟨rfl, by cbv, rfl, rfl, by cbv, rfl, rfl, rfl, rfl, rfl⟩, .nil⟩

theorem isPathless_tagsField : tagsField.IsPathless := by
  have string : Shape.parse? tagsField.type = some ⟨.string, false⟩ := by cbv
  refine ⟨by cbv, fun shape type => ?_⟩
  obtain rfl := Option.some.inj (string.symm.trans type)
  decide

theorem not_isPathless_linksField : ¬linksField.IsPathless := by
  rintro ⟨none, -⟩
  have one : linksField.path.toList = ["//a"] := by cbv
  rw [one] at none
  cases none

theorem retrieve_of_isMultiple_links :
    (compile linksField = .ok linksPlan ∧ linksPlan.field.isMultiple = true ∧
      (∃ items, linksPlan.retrieve ⟨.node .document []⟩ .root = some (.list items)) ∧
      (record ⟨.node .document []⟩ [linksPlan] .root []).isSome =
        (record ⟨.node .document []⟩ [] .root []).isSome) ∧
    compile tagsField = .ok tagsPlan ∧ tagsPlan.field.isMultiple = true ∧
      tagsPlan.retrieve ⟨.node .document []⟩ .root = none ∧
      record ⟨.node .document []⟩ [linksPlan, tagsPlan] .root [] = none := by
  obtain ⟨listed, kept⟩ := (retrieve_of_isMultiple linksField linksPlan ⟨.node .document []⟩ .root
    compile_linksField rfl).2 not_isPathless_linksField
  obtain ⟨absent, collapsed⟩ := (retrieve_of_isMultiple tagsField tagsPlan ⟨.node .document []⟩
    .root compile_tagsField rfl).1 isPathless_tagsField
  exact ⟨⟨compile_linksField, rfl, listed, kept [] []⟩, compile_tagsField, rfl, absent,
    collapsed [linksPlan] [] rfl⟩

/-- Not every field that may occur more than once has a list as its value. -/
theorem retrieve_tags_not_list :
    ¬∀ (f : Definition.Field) (p : Plan) (doc : Document) (place : Place), compile f = .ok p →
      p.field.isMultiple = true → ∃ items, p.retrieve doc place = some (.list items) := by
  intro listed
  obtain ⟨items, retrieved⟩ :=
    listed tagsField tagsPlan ⟨.node .document []⟩ .root compile_tagsField rfl
  rw [retrieve_eq_none_of_isPathless compile_tagsField isPathless_tagsField] at retrieved
  cases retrieved

end Plan

end Harvest
