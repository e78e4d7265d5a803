import Mathlib
import Harvest.Proofs.Extraction.Record
import Harvest.Proofs.Plan.Compilation
import Harvest.Proofs.XPath.NodeSet

/-!
# All or nothing

A structure is read from a node as a whole: if a field has no value there and is not optional, there
is no value for the structure, and nothing shows of those that were found for the fields before it.
Otherwise it has an entry for each title under which anything was found, with the value of the last
field with this title.  A structure that may occur more than once is read from each of its nodes for
itself.
-/

namespace Harvest

namespace FieldPlan

/-- A structure is read from nodes in document order, each of them once. -/
theorem roots_isNodeSet (f : FieldPlan) {doc : Document} {place : Place}
    (present : doc.Holds place) : doc.IsNodeSet (f.roots doc place) := by
  rw [roots]
  cases f.candidates with
  | nil => exact .singleton present
  | cons q queries => exact q.select_isNodeSet present

end FieldPlan

namespace Plan

variable {doc : Document} {place root : Place} {title : String}

/-- The values that the fields with a title have, in the order in which they are declared. -/
def valuesTitled (doc : Document) (place : Place) (title : String) (ps : List Plan) : List Datum :=
  (ps.filter fun p => p.title = title).filterMap fun p => p.retrieve doc place

/-- The entries under a title are those of the fields with this title. -/
theorem filter_titled? (ps : List Plan) :
    ((ps.filterMap (titled? doc place)).filter fun entry => entry.1 = title).map Prod.snd =
      valuesTitled doc place title ps := by
  rw [valuesTitled, List.filter_filterMap, List.map_filterMap, List.filterMap_filter]
  refine List.filterMap_congr fun p _ => ?_
  rw [titled?]
  cases p.retrieve doc place with
  | none => simp
  | some value =>
      by_cases same : p.title = title
      · simp [same]
      · simp [same]

/-- What stands under the titles of a structure. -/
theorem lookup_record {ps : List Plan} {entries : List (String × Datum)}
    (recorded : record doc ps root [] = some (.map entries)) (title : String) :
    entries.lookup title = (valuesTitled doc root title ps).getLast? := by
  obtain ⟨-, whole⟩ := record_eq_some_iff.mp recorded
  rw [Datum.ofEntries_eq] at whole
  obtain rfl := Datum.map.inj whole
  rw [Keyed.lookup_ofList_eq_getLast?, List.nil_append, filter_titled?]

/-- A structure has an entry under each title under which a field was found, and under no other. -/
theorem mem_keys_record_iff {ps : List Plan} {entries : List (String × Datum)}
    (recorded : record doc ps root [] = some (.map entries)) :
    title ∈ entries.map Prod.fst ↔ ∃ p ∈ ps, p.title = title ∧ (p.retrieve doc root).isSome := by
  obtain ⟨-, _, same, -, known, titled⟩ := record_eq_some recorded
  obtain rfl := Datum.map.inj same
  constructor
  · intro member
    obtain ⟨entry, among, rfl⟩ := List.mem_map.mp member
    obtain ⟨p, planned, here⟩ := known entry among
    obtain ⟨value, retrieved, rfl⟩ := Option.map_eq_some_iff.mp here
    exact ⟨p, planned, rfl, by rw [retrieved, Option.isSome_some]⟩
  · rintro ⟨p, planned, rfl, retrieved⟩
    exact titled p planned retrieved

/-- The plans of the fields below a field have their titles and flags, in the order in which the
fields are declared. -/
theorem children_of_compile {f : Definition.Field} {p : Plan} (compiled : compile f = .ok p) :
    List.Forall₂ (fun g c => compile g = .ok c ∧ c.title = g.title ∧ c.field.optional = g.optional)
      f.fields p.children :=
  (compile_eq_ok_iff.mp compiled).2.imp fun g c (below : compile g = .ok c) =>
    have fits : FieldPlan.IsFor g c.field := (compile_eq_ok_iff.mp below).1
    ⟨below, fits.title, fits.optional⟩

/-- A structure is read from a node if and only if each field below it that is not optional has a
value there.  It then is a mapping in the order of keys with an entry for each title of a field that
has a value, and of the values of fields with one title the last counts, in the order in which the
fields are declared.  A structure that may occur more than once is read from each of its nodes, in
document order, and its value is the list of what is read from those that it can be read from. -/
theorem retrieve_structure (f : Definition.Field) (p : Plan) (doc : Document)
    (compiled : compile f = .ok p) (struct : p.field.shape.kind = .struct) :
    List.Forall₂ (fun g c => compile g = .ok c ∧ c.title = g.title ∧ c.field.optional = g.optional)
      f.fields p.children ∧
    (∀ root, (record doc p.children root []).isSome ↔
      ∀ c ∈ p.children, c.field.optional = false → (c.retrieve doc root).isSome) ∧
    (∀ root value, record doc p.children root [] = some value →
      ∃ entries, value = .map entries ∧ Keyed.Sorted entries ∧ ∀ title,
        (title ∈ entries.map Prod.fst ↔
          ∃ c ∈ p.children, c.title = title ∧ (c.retrieve doc root).isSome) ∧
        entries.lookup title = (valuesTitled doc root title p.children).getLast?) ∧
    ∀ place, doc.Holds place → p.field.isMultiple = true →
      doc.IsNodeSet (p.field.roots doc place) ∧
      ∃ items, p.retrieve doc place = some (.list items) ∧
        items.map some =
          ((p.field.roots doc place).map fun root => record doc p.children root []).filter
            Option.isSome := by
  refine ⟨children_of_compile compiled, fun root => isSome_record_iff, fun root value recorded => ?_,
    fun place present multiple => ⟨p.field.roots_isNodeSet present, ?_⟩⟩
  · obtain ⟨-, entries, rfl, sorted, -, -⟩ := record_eq_some recorded
    exact ⟨entries, rfl, sorted, fun title =>
      ⟨mem_keys_record_iff recorded, lookup_record recorded title⟩⟩
  · refine ⟨_, (retrieve_eq doc p place).trans (by rw [if_pos struct, if_pos multiple]), ?_⟩
    exact List.map_filterMap_some_eq_filter_map_isSome

/-- Products with a price each; a label is what is in italics, or else the name of the product. -/
def productsField : Definition.Field :=
  { title := "products", type := "struct", path := ⟨["//li"]⟩, multiple := true, fields := [
      { title := "price", type := "int", path := ⟨["b"]⟩ },
      { title := "label", type := "string", path := ⟨["@id"]⟩, optional := true },
      { title := "label", type := "string", path := ⟨["i"]⟩, optional := true }] }

def pricePlan : Plan :=
  .node ⟨"price", ⟨.int, false⟩, [⟨"b", .path false [.mk .child (.name "b") []]⟩], {}, {},
    false, false, false, false, false⟩ []

def productsPlan : Plan :=
  .node ⟨"products", ⟨.struct, false⟩,
      [⟨"//li", .path true [.mk .descendantOrSelf .node [], .mk .child (.name "li") []]⟩], {}, {},
      false, false, true, false, false⟩
    [pricePlan,
     .node ⟨"label", ⟨.string, false⟩, [⟨"@id", .path false [.mk .attributes (.name "id") []]⟩],
      {}, {}, true, false, false, false, false⟩ [],
     .node ⟨"label", ⟨.string, false⟩, [⟨"i", .path false [.mk .child (.name "i") []]⟩], {}, {},
      true, false, false, false, false⟩ []]

/-- A product with both kinds of labels, one with a name only, and one without a price. -/
def productsDocument : Document :=
  ⟨.node .document
    [.node (.element .html "li" [⟨"id", "m", none⟩])
      [.node (.element .html "b" []) [.node (.text "1") []],
       .node (.element .html "i" []) [.node (.text "x") []]],
     .node (.element .html "li" [⟨"id", "n", none⟩])
      [.node (.element .html "b" []) [.node (.text "2") []]],
     .node (.element .html "li" [⟨"id", "o", none⟩])
      [.node (.element .html "i" []) [.node (.text "y") []]]]⟩

theorem compile_productsField : compile productsField = .ok productsPlan := by
  refine compile_eq_ok_iff.mpr ⟨⟨rfl, by cbv, rfl, rfl, by cbv, rfl, rfl, rfl, rfl, rfl⟩,
    .cons ?_ (.cons ?_ (.cons ?_ .nil))⟩
  · exact compile_eq_ok_iff.mpr
      ⟨⟨rfl, by cbv, rfl, rfl, by cbv, rfl, rfl, rfl, rfl, rfl⟩, .nil⟩
  · exact compile_eq_ok_iff.mpr
      ⟨⟨rfl, by cbv, rfl, rfl, by cbv, rfl, rfl, rfl, rfl, rfl⟩, .nil⟩
  · exact compile_eq_ok_iff.mpr
      ⟨⟨rfl, by cbv, rfl, rfl, by cbv, rfl, rfl, rfl, rfl, rfl⟩, .nil⟩

theorem retrieve_structure_products :
    compile productsField = .ok productsPlan ∧ productsPlan.field.shape.kind = .struct ∧
    productsDocument.Holds .root ∧ productsPlan.field.isMultiple = true ∧
    record productsDocument productsPlan.children (.ofPath [2]) [] = none ∧
    valuesTitled productsDocument (.ofPath [0]) "label" productsPlan.children =
      [.text "m", .text "x"] ∧
    (∀ entries,
      record productsDocument productsPlan.children (.ofPath [0]) [] = some (.map entries) →
        entries.lookup "label" = some (.text "x")) ∧
    productsPlan.retrieve productsDocument .root =
      some (.list [.map [("label", .text "x"), ("price", .int 1)],
        .map [("label", .text "n"), ("price", .int 2)]]) := by
  obtain ⟨-, whole, valued, listed⟩ :=
    retrieve_structure productsField productsPlan productsDocument compile_productsField rfl
  have labels : valuesTitled productsDocument (.ofPath [0]) "label" productsPlan.children =
      [.text "m", .text "x"] := by cbv
  have present : productsDocument.Holds .root := ⟨_, rfl, by simp [Place.root, Place.ofPath]⟩
  refine ⟨compile_productsField, rfl, present, rfl, ?_, labels, fun entries recorded => ?_, ?_⟩
  · have unpriced : pricePlan.retrieve productsDocument (.ofPath [2]) = none := by cbv
    refine Option.not_isSome_iff_eq_none.mp fun recorded => ?_
    have priced := (whole (.ofPath [2])).mp recorded pricePlan (.head _) rfl
    rw [unpriced] at priced
    cases priced
  · obtain ⟨_, same, -, each⟩ := valued _ _ recorded
    obtain rfl := Datum.map.inj same
    rw [(each "label").2, labels]
    rfl
  · obtain ⟨-, items, found, each⟩ := listed .root present rfl
    have instances : ((productsPlan.field.roots productsDocument .root).map fun root =>
        record productsDocument productsPlan.children root []).filter Option.isSome =
          [.map [("label", .text "x"), ("price", .int 1)],
            .map [("label", .text "n"), ("price", .int 2)]].map some := by cbv
    rw [found, List.map_injective_iff.mpr (Option.some_injective Datum) (each.trans instances)]

end Plan

end Harvest
