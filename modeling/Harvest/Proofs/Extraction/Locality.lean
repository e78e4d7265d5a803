import Mathlib
import Harvest.Proofs.Document.WorkingCopy
import Harvest.Proofs.Extraction.Markup
import Harvest.Proofs.Extraction.Record
import Harvest.Proofs.Plan.Compilation
import Harvest.Proofs.XPath.Downward

/-!
# What is found in a subtree

A plan with downward queries only reads an element without looking at anything outside of it.  Its
value at the element is what it is where the subtree of the element is the whole document, so two
elements with the same subtree have the same value, in whatever documents they stand.
-/

namespace Harvest

variable {doc : Document} {n : Path} {t : Tree}

namespace NodeFilter

/-- Whether all queries of a filter are downward. -/
structure IsDownward (f : NodeFilter) : Prop where
  includes : ∀ q ∈ f.includes, q.IsDownward
  excludes : ∀ q ∈ f.excludes, q.IsDownward
  removes : ∀ q ∈ f.removes, q.IsDownward

variable {f : NodeFilter}

theorem any_holds_below (here : doc.HasSubtree n t) {queries : List XPath.Query}
    (down : ∀ q ∈ queries, q.IsDownward) (p : Place) :
    (queries.any fun q => q.holds doc (p.below n)) = queries.any fun q => q.holds ⟨t⟩ p := by
  induction queries with
  | nil => rfl
  | cons q queries ih =>
      rw [List.any_cons, List.any_cons, q.holds_below here (down q (.head queries)),
        ih fun other member => down other (.tail q member)]

theorem accepts_below (here : doc.HasSubtree n t) (down : f.IsDownward) (p : Place) :
    f.accepts doc (p.below n) = f.accepts ⟨t⟩ p := by
  rw [accepts, accepts, any_holds_below here down.includes, any_holds_below here down.excludes]

/-- The same nodes of the subtree are taken out, apart from the one at the top: this can be taken
out unless it is the root of the document. -/
theorem mem_removals_below (here : doc.HasSubtree n t) (down : f.IsDownward) (p : Place)
    {path : Path} (inside : path ≠ []) :
    n ++ path ∈ f.removals doc (p.below n) ↔ path ∈ f.removals ⟨t⟩ p := by
  simp only [mem_removals, target?_eq_some_iff]
  constructor
  · rintro ⟨q, remove, place, selected, rfl, -⟩
    rw [q.select_below here (down.removes q remove)] at selected
    obtain ⟨⟨own, index⟩, found, same⟩ := List.mem_map.mp selected
    obtain ⟨addresses, rfl⟩ := Place.mk.inj same
    obtain rfl : own = path := List.append_cancel_left addresses
    exact ⟨q, remove, .ofPath own, found, rfl, inside⟩
  · rintro ⟨q, remove, place, selected, rfl, -⟩
    refine ⟨q, remove, .ofPath (n ++ path), ?_, rfl, by simp [inside]⟩
    rw [q.select_below here (down.removes q remove)]
    exact List.mem_map_of_mem selected

end NodeFilter

namespace FieldPlan

/-- Whether all queries of a field are downward. -/
structure IsDownward (f : FieldPlan) : Prop where
  candidates : ∀ q ∈ f.candidates, q.IsDownward
  nodeFilter : f.nodeFilter.IsDownward

variable {f : FieldPlan} {q : XPath.Query}

theorem texts_below (here : doc.HasSubtree n t) (down : q.IsDownward) (p : Place) :
    texts q doc (p.below n) = texts q ⟨t⟩ p := by
  rw [texts, texts, XPath.Query.evaluate, XPath.Query.evaluate, q.value_below here down]
  cases q.value ⟨t⟩ p with
  | nodes places => simp [XPath.Value.below, here.stringValue]
  | boolean b => rfl
  | number x => rfl
  | string s => rfl

theorem text?_below (here : doc.HasSubtree n t) (down : q.IsDownward) (p : Place) :
    f.text? doc (p.below n) q = f.text? ⟨t⟩ p q := by
  rw [text?, text?, texts_below here down]

theorem textList_below (here : doc.HasSubtree n t) (down : q.IsDownward) (p : Place) :
    f.textList doc (p.below n) q = f.textList ⟨t⟩ p q := by
  rw [textList, textList, texts_below here down]

variable (element : t.content.element?.isSome)

include element

theorem markup_below (here : doc.HasSubtree n t) (down : f.IsDownward) (p : Place) :
    f.markup doc (p.below n) = f.markup ⟨t⟩ p :=
  here.markup_without element
    (fun _ inside => NodeFilter.mem_removals_below here down.nodeFilter p inside) f.serializer p

theorem markup?_below (here : doc.HasSubtree n t) (down : f.IsDownward) (query : q.IsDownward)
    (p : Place) : f.markup? doc (p.below n) q = f.markup? ⟨t⟩ p q := by
  rw [markup?, markup?, XPath.Query.select?, XPath.Query.select?, q.select_below here query]
  cases q.select ⟨t⟩ p with
  | nil => rfl
  | cons target targets =>
      simp only [List.map_cons, List.head?_cons, NodeFilter.accepts_below here down.nodeFilter,
        markup_below element here down]

theorem markupList_below (here : doc.HasSubtree n t) (down : f.IsDownward) (query : q.IsDownward)
    (p : Place) : f.markupList doc (p.below n) q = f.markupList ⟨t⟩ p q := by
  have accepts : f.nodeFilter.accepts doc ∘ Place.below n = f.nodeFilter.accepts ⟨t⟩ :=
    funext (NodeFilter.accepts_below here down.nodeFilter)
  rw [markupList_eq, markupList_eq, q.select_below here query, List.filter_map, accepts,
    List.map_map]
  refine congrArg f.collect (List.map_congr_left fun target _ => ?_)
  rw [Function.comp_apply, markup_below element here down]

theorem candidate?_below (here : doc.HasSubtree n t) (down : f.IsDownward)
    (query : q.IsDownward) (p : Place) :
    f.candidate? doc (p.below n) q = f.candidate? ⟨t⟩ p q := by
  rw [candidate?, candidate?, markupList_below element here down query,
    textList_below here query, markup?_below element here down query, text?_below here query]

theorem leaf?_below (here : doc.HasSubtree n t) (down : f.IsDownward) (p : Place) :
    f.leaf? doc (p.below n) = f.leaf? ⟨t⟩ p := by
  have each (queries : List XPath.Query) (known : ∀ q ∈ queries, q.IsDownward) :
      queries.findSome? (f.candidate? doc (p.below n)) =
        queries.findSome? (f.candidate? ⟨t⟩ p) := by
    induction queries with
    | nil => rfl
    | cons q queries ih =>
        rw [List.findSome?_cons, List.findSome?_cons,
          candidate?_below element here down (known q (.head queries)),
          ih fun other member => known other (.tail q member)]
  exact each f.candidates down.candidates

omit element in
theorem roots_below (here : doc.HasSubtree n t) (down : f.IsDownward) (p : Place) :
    f.roots doc (p.below n) = (f.roots ⟨t⟩ p).map (Place.below n) := by
  rw [roots, roots]
  cases first : f.candidates with
  | nil => rfl
  | cons q queries => exact q.select_below here (down.candidates q (first ▸ .head queries)) p

end FieldPlan

namespace Plan

mutual

/-- Whether all queries of a field and of the fields below it are downward. -/
def IsDownward : Plan → Prop
  | node field children => field.IsDownward ∧ AllDownward children

def AllDownward : List Plan → Prop
  | [] => True
  | p :: ps => p.IsDownward ∧ AllDownward ps

end

mutual

/-- The value at a place of a subtree is the value in the subtree alone. -/
theorem retrieve_below (here : doc.HasSubtree n t) (element : t.content.element?.isSome) (p : Plan)
    (down : p.IsDownward) (place : Place) :
    p.retrieve doc (place.below n) = p.retrieve ⟨t⟩ place :=
  match p with
  | .node field children => by
      obtain ⟨own, below⟩ := down
      have recorded (root : Place) : record doc children (root.below n) [] =
          record ⟨t⟩ children root [] := record_below here element children below root []
      rw [retrieve_eq, retrieve_eq, Plan.field, Plan.children, field.roots_below here own,
        field.leaf?_below element here own, List.filterMap_map, List.head?_map, Option.bind_map]
      simp only [Function.comp_def, recorded]

theorem record_below (here : doc.HasSubtree n t) (element : t.content.element?.isSome)
    (ps : List Plan) (down : AllDownward ps) (place : Place) (found : List (String × Datum)) :
    record doc ps (place.below n) found = record ⟨t⟩ ps place found :=
  match ps with
  | [] => by rw [record, record]
  | p :: ps => by
      obtain ⟨first, rest⟩ := down
      have later (found : List (String × Datum)) :=
        record_below here element ps rest place found
      simp only [record, retrieve_below here element p first, later]

end

/-- What a plan with downward queries finds at an element depends on the subtree of the element
only. -/
theorem retrieve_eq_of_subtree (p : Plan) (down : p.IsDownward) (doc₁ doc₂ : Document)
    (n₁ n₂ : Path) (t : Tree) (element : t.content.element?.isSome)
    (first : doc₁.node? n₁ = some t) (second : doc₂.node? n₂ = some t) :
    p.retrieve doc₁ (.ofPath n₁) = p.retrieve doc₂ (.ofPath n₂) := by
  have inFirst := retrieve_below (n := n₁) first element p down .root
  have inSecond := retrieve_below (n := n₂) second element p down .root
  rw [Place.below_root] at inFirst inSecond
  rw [inFirst, inSecond]

/-- The items of a list, without what is bold in them. -/
def itemsField : Definition.Field :=
  { title := "items", type := "[]html", path := ⟨["li"]⟩, xdata := some { removes := ⟨["b"]⟩ } }

def itemsPlan : Plan :=
  .node ⟨"items", ⟨.html, true⟩, [⟨"li", .path false [.mk .child (.name "li") []]⟩], {},
    { removes := [⟨"b", .path false [.mk .child (.name "b") []]⟩] },
    false, false, false, false, false⟩ []

def itemsList : Tree :=
  .node (.element .html "ul" [])
    [.node (.element .html "li" []) [.node (.text "x") [],
      .node (.element .html "b" []) [.node (.text "y") []]]]

/-- A document that is nothing but the list. -/
def plainDocument : Document := ⟨.node .document [itemsList]⟩

/-- A document with the list deeper inside. -/
def framedDocument : Document :=
  ⟨.node .document [.node (.comment "z") [],
    .node (.element .html "li" []) [.node (.text "b") [], itemsList]]⟩

theorem compile_itemsField : compile itemsField = .ok itemsPlan :=
  compile_eq_ok_iff.mpr ⟨⟨rfl, by cbv, rfl, by cbv, by cbv, rfl, rfl, rfl, rfl, rfl⟩, .nil⟩

theorem isDownward_itemsPlan : itemsPlan.IsDownward := by
  refine ⟨⟨?_, ⟨nofun, nofun, ?_⟩⟩, trivial⟩
  · decide
  · decide

theorem retrieve_eq_of_subtree_items :
    compile itemsField = .ok itemsPlan ∧
    itemsPlan.retrieve plainDocument (.ofPath [0]) = some (.list [.text "<li>x</li>"]) ∧
    itemsPlan.retrieve plainDocument (.ofPath [0]) =
      itemsPlan.retrieve framedDocument (.ofPath [1, 1]) := by
  have found : itemsPlan.retrieve plainDocument (.ofPath [0]) =
      some (.list [.text "<li>x</li>"]) := by cbv
  exact ⟨compile_itemsField, found, retrieve_eq_of_subtree itemsPlan isDownward_itemsPlan
    plainDocument framedDocument [0] [1, 1] itemsList rfl rfl rfl⟩

end Plan

end Harvest
