import Mathlib
import Harvest.Proofs.Document.Pruning
import Harvest.Proofs.Extraction.Markup
import Harvest.Proofs.Plan.Compilation
import Harvest.Proofs.XPath.NodeSet

/-!
# Cleaning

What is left of a node in a cleaned copy is the node with its subtree pruned, as if the rest of the
document had never been there.  Only the set of nodes that are taken away counts, so the removes of
a filter may be written in any order and more than once.  A list of markup is therefore the same
whether nodes share their copies or have each a copy of its own.
-/

namespace Harvest

/-! ## What is left of a node -/

namespace Document

variable {doc : Document} {targets : List Path} {path : Path} {t : Tree}

theorem node?_nil (t : Tree) : (⟨t⟩ : Document).node? [] = some t := Tree.at?_nil t

/-- What is left of an element or of the root is written like a document that holds nothing else. -/
theorem markup_without_eq (here : doc.node? path = some t)
    (top : t.content.element?.isSome ∨ path = []) (serializer : Serializer) :
    (doc.without targets).markup serializer (.ofPath path) =
      (⟨t.prune fun p => targets.contains (path ++ p)⟩ : Document).markup serializer .root := by
  simp only [WorkingCopy.markup, Document.markup, Place.root, Place.ofPath, node?_without, here,
    node?_nil, Option.map_some, Option.getD_some]
  rcases top with element | rfl
  · have same := (Tree.content_prune (fun p => targets.contains (path ++ p)) t).symm
    exact Tree.markup_of_element (same ▸ element) serializer _ _
  · have outside : (doc.without targets).inRawText [] = false := by
      rw [inRawText_without]
      exact Bool.and_false _
    rw [outside]
    rfl

theorem stringValue_without_eq (here : doc.node? path = some t) :
    (doc.without targets).stringValue (.ofPath path) =
      (⟨t.prune fun p => targets.contains (path ++ p)⟩ : Document).stringValue .root := by
  simp only [WorkingCopy.stringValue, Document.stringValue, Place.root, Place.ofPath,
    node?_without, here, node?_nil, Option.map_some]

end Document

namespace NodeFilter

variable {rules : Definition.NodeRules} {f g : NodeFilter} {lines : Lines}

/-- Filters with the same removes clean alike. -/
theorem clean_congr (same : ∀ q, q ∈ g.removes ↔ q ∈ f.removes) (doc : Document) (place : Place) :
    g.clean doc place = f.clean doc place :=
  Document.without_congr fun path => by simp only [mem_removals, same]

/-- Rules with the same lines of removes compile to filters that clean alike. -/
theorem exists_compile_removes (compiled : compile (some rules) = .ok f)
    (same : ∀ line, line ∈ lines.toList ↔ line ∈ rules.removes.toList) :
    ∃ g, compile (some { rules with removes := lines }) = .ok g ∧
      ∀ q, q ∈ g.removes ↔ q ∈ f.removes := by
  obtain ⟨includes, excludes, removes⟩ := compile_some_eq_ok_iff.mp compiled
  obtain ⟨queries, compiled', known⟩ := XPath.Query.exists_compileLines removes same
  exact ⟨{ f with removes := queries },
    compile_some_eq_ok_iff.mpr ⟨includes, excludes, compiled'⟩, known⟩

end NodeFilter

/-- Cleaning prunes and does nothing else.  Take any nodes away from a document, in any order, some
of them maybe inside others or more than once: what is left of an element or of the root, which may
be one of those that were taken, is written like its subtree without the nodes below it that were
taken and without everything below these, and has the string-value of that subtree.  So rules with
the same lines of removes clean alike, whatever the order of the lines and however often each of
them is written. -/
theorem Document.without_prunes (doc : Document) (targets : List Path) (path : Path) (t : Tree)
    (here : doc.node? path = some t) (top : t.content.element?.isSome ∨ path = []) :
    let left := t.prune fun p => targets.contains (path ++ p)
    Tree.outline left.nodes =
      Tree.outline (t.nodes.filter fun n => Tree.stays (fun p => targets.contains (path ++ p)) n.1) ∧
    (∀ serializer, (doc.without targets).markup serializer (.ofPath path) =
      (⟨left⟩ : Document).markup serializer .root) ∧
    (doc.without targets).stringValue (.ofPath path) = (⟨left⟩ : Document).stringValue .root ∧
    ∀ (rules : Definition.NodeRules) (f : NodeFilter) (lines : Lines),
      NodeFilter.compile (some rules) = .ok f →
      (∀ line, line ∈ lines.toList ↔ line ∈ rules.removes.toList) →
      ∃ g, NodeFilter.compile (some { rules with removes := lines }) = .ok g ∧
        ∀ place, g.clean doc place = f.clean doc place := by
  refine ⟨Tree.outline_prune _ t, markup_without_eq here top, stringValue_without_eq here,
    fun rules f lines compiled same => ?_⟩
  obtain ⟨g, compiled', known⟩ := NodeFilter.exists_compile_removes compiled same
  exact ⟨g, compiled', NodeFilter.clean_congr known doc⟩

/-- A list with something bold in an item, and in italics inside it, before a script. -/
def nestedList : Tree :=
  .node (.element .html "ul" [])
    [.node (.element .html "li" [])
      [.node (.text "x&") [], .node (.element .html "b" [])
        [.node (.text "y") [], .node (.element .html "i" []) [.node (.text "z") []]]],
     .node (.element .html "script" []) [.node (.text "a<b") []]]

/-- What is in italics, what is bold, the list itself, and what is bold once more. -/
def nestedTargets : List Path := [[0, 0, 1, 1], [0, 0, 1], [0], [0, 0, 1]]

/-- Rules that take away what is bold and what is in italics. -/
def plainRules : Definition.NodeRules := { removes := ⟨["//b\n//i"]⟩ }

def plainFilter : NodeFilter :=
  { removes := ["b", "i"].map fun name =>
      ⟨"//" ++ name, .path true [.mk .descendantOrSelf .node [], .mk .child (.name name) []]⟩ }

theorem Document.without_prunes_nested :
    (⟨.node .document [nestedList]⟩ : Document).node? [0] = some nestedList ∧
    ((⟨.node .document [nestedList]⟩ : Document).without nestedTargets).markup .raw
      (.ofPath [0]) = "<ul><li>x&amp;</li><script>a<b</script></ul>" ∧
    ((⟨.node .document [nestedList]⟩ : Document).without nestedTargets).stringValue
      (.ofPath [0]) = "x&a<b" ∧
    NodeFilter.compile (some plainRules) = .ok plainFilter ∧
    ∃ g, NodeFilter.compile (some { plainRules with removes := ⟨["//i", "//b\n//i"]⟩ }) = .ok g ∧
      ∀ place, g.clean ⟨.node .document [nestedList]⟩ place =
        plainFilter.clean ⟨.node .document [nestedList]⟩ place := by
  have compiled : NodeFilter.compile (some plainRules) = .ok plainFilter := by cbv
  have lines : (⟨["//i", "//b\n//i"]⟩ : Lines).toList = ["//i", "//b", "//i"] := by cbv
  have own : plainRules.removes.toList = ["//b", "//i"] := by cbv
  obtain ⟨-, written, valued, unordered⟩ :=
    without_prunes ⟨.node .document [nestedList]⟩ nestedTargets [0] nestedList rfl (.inl rfl)
  refine ⟨rfl, (written .raw).trans (by cbv), valued.trans (by cbv), compiled,
    unordered plainRules plainFilter ⟨["//i", "//b\n//i"]⟩ compiled fun line => ?_⟩
  rw [lines, own]
  simp only [List.mem_cons, List.not_mem_nil, or_false]
  exact ⟨by rintro (rfl | rfl | rfl) <;> simp, by rintro (rfl | rfl) <;> simp⟩

/-! ## Copies that are shared -/

/-- A field with lists of markup for values takes the nodes that a query selects in document order,
passes over those that its filter does not accept, and writes each of the others as it is left in a
copy that was cleaned for this node alone; of equal values it drops all but the first, if it wants
each once.  That the copies are shared does not show. -/
theorem FieldPlan.candidate?_plain (f : FieldPlan) (q : XPath.Query) (doc : Document) (place : Place)
    (html : f.shape.kind = .html) (multiple : f.isMultiple = true) (present : doc.Holds place) :
    let plain : List Datum :=
      ((q.select doc place).filter fun target => f.nodeFilter.accepts doc target).map fun target =>
        .text ((f.nodeFilter.clean doc target).markup f.serializer target)
    doc.IsNodeSet (q.select doc place) ∧
    f.candidate? doc place q = some (.list (if f.unique then plain.eraseDups else plain)) := by
  refine ⟨q.select_isNodeSet present, ?_⟩
  rw [candidate?, if_pos multiple, if_pos html, markupList_eq, collect_eq]
  rfl

def partsQuery : XPath.Query := ⟨"li", .path false [.mk .child (.name "li") []]⟩

/-- Parts of a list, each without what is bold in those after it. -/
def partsField : FieldPlan :=
  ⟨"parts", ⟨.html, true⟩, [partsQuery], {},
    { excludes := [⟨"@id", .path false [.mk .attributes (.name "id") []]⟩],
      removes := [⟨"following-sibling::li/b",
        .path false [.mk .followingSibling (.name "li") [], .mk .child (.name "b") []]⟩] },
    false, false, false, true, false⟩

/-- A list in which the part that is bold stands behind the one that it is taken away for. -/
def partsDocument : Document :=
  ⟨.node .document [.node (.element .html "ul" [])
    [.node (.element .html "li" []) [.node (.text "x") []],
     .node (.element .html "li" []) [.node (.element .html "b" []) [.node (.text "y") []]],
     .node (.element .html "li" [⟨"id", "m", none⟩]) [],
     .node (.element .html "li" []) [.node (.text "x") []]]]⟩

theorem FieldPlan.candidate?_plain_parts :
    partsDocument.Holds (.ofPath [0]) ∧
    (partsQuery.select partsDocument (.ofPath [0])).map
      (partsField.nodeFilter.removals partsDocument) = [[[0, 1, 0]], [], [], []] ∧
    partsField.candidate? partsDocument (.ofPath [0]) partsQuery =
      some (.list [.text "<li>x</li>", .text "<li><b>y</b></li>"]) := by
  have present : partsDocument.Holds (.ofPath [0]) := ⟨_, rfl, by simp [Place.ofPath]⟩
  obtain ⟨-, found⟩ :=
    candidate?_plain partsField partsQuery partsDocument (.ofPath [0]) rfl rfl present
  exact ⟨present, by cbv, found.trans (by cbv)⟩

end Harvest
