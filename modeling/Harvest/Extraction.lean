import Harvest.Datum
import Harvest.Plan

/-!
# Extraction

What a plan finds in a document.  Nothing here fails: a node that is missing, a text that the rules
refuse and a value that does not fit its type all mean that a field has no value, and a structure has
none unless every field in it has that is not optional.  A field that may occur more than once always
has a value, which is a list.
-/

namespace Harvest

namespace FieldPlan

/-- Adds a value to a list, unless values are unique and it is there already. -/
def push (f : FieldPlan) (found : List Datum) (value : Datum) : List Datum :=
  if f.unique && found.contains value then found else found ++ [value]

/-- The values added to the list one after the other. -/
def collect (f : FieldPlan) (values : List Datum) : List Datum := values.foldl f.push []

/-- The texts that a query selects. -/
def texts (q : XPath.Query) (doc : Document) (place : Place) : List String :=
  match q.evaluate doc place with
  | .nodes places => places.map doc.stringValue
  | .scalar s => [s]

/-- The value of the first text that a query selects. -/
def text? (f : FieldPlan) (doc : Document) (place : Place) (q : XPath.Query) : Option Datum :=
  match texts q doc place with
  | [] => none
  | text :: _ =>
      let bytes := Bytes.ofString text
      if f.textFilter.accepts bytes then
        f.shape.coerce (f.textFilter.first (f.textFilter.clean bytes))
      else none

/-- The values of a text. -/
def textValues (f : FieldPlan) (text : String) : List Datum :=
  let bytes := Bytes.ofString text
  if f.textFilter.accepts bytes then
    (f.textFilter.all (f.textFilter.clean bytes)).filterMap f.shape.coerce
  else []

/-- The values of all texts that a query selects. -/
def textList (f : FieldPlan) (doc : Document) (place : Place) (q : XPath.Query) : List Datum :=
  f.collect ((texts q doc place).flatMap f.textValues)

/-- The markup of a place in a working copy of its own. -/
def markup (f : FieldPlan) (doc : Document) (place : Place) : String :=
  (f.nodeFilter.clean doc place).markup f.serializer place

/-- The markup of the first node that a query selects. -/
def markup? (f : FieldPlan) (doc : Document) (place : Place) (q : XPath.Query) : Option Datum :=
  match q.select? doc place with
  | none => none
  | some target =>
      if f.nodeFilter.accepts doc target then some (.text (f.markup doc target)) else none

/-- The markup of some nodes.  Nodes that follow each other and have the same removals share a
working copy, `shared` with the removals that it was made for. -/
def markupFrom (f : FieldPlan) (doc : Document) (shared : Option (List Path × WorkingCopy)) :
    List Place → List Datum
  | [] => []
  | target :: targets =>
      if f.nodeFilter.accepts doc target then
        let removals := f.nodeFilter.removals doc target
        let copy := match shared with
          | some (paths, copy) => if paths = removals then copy else doc.without removals
          | none => doc.without removals
        .text (copy.markup f.serializer target) ::
          markupFrom f doc (some (removals, copy)) targets
      else markupFrom f doc shared targets

/-- The markup of all nodes that a query selects. -/
def markupList (f : FieldPlan) (doc : Document) (place : Place) (q : XPath.Query) : List Datum :=
  f.collect (f.markupFrom doc none (q.select doc place))

/-- The value that a query finds for a field that is no structure. -/
def candidate? (f : FieldPlan) (doc : Document) (place : Place) (q : XPath.Query) :
    Option Datum :=
  if f.isMultiple then
    some (.list (if f.shape.kind = .html then f.markupList doc place q
      else f.textList doc place q))
  else if f.shape.kind = .html then f.markup? doc place q
  else f.text? doc place q

/-- The value of a field that is no structure: that of the first of its queries that finds one. -/
def leaf? (f : FieldPlan) (doc : Document) (place : Place) : Option Datum :=
  f.candidates.findSome? (f.candidate? doc place)

/-- The nodes that a structure is read from: what its first query selects, or the node that it is
asked for without one. -/
def roots (f : FieldPlan) (doc : Document) (place : Place) : List Place :=
  match f.candidates with
  | [] => [place]
  | q :: _ => q.select doc place

end FieldPlan

namespace Plan

mutual

/-- The value of a plan at a node. -/
def retrieve (doc : Document) : Plan → Place → Option Datum
  | node f children, place =>
      if f.shape.kind = .struct then
        if f.isMultiple then
          some (.list ((f.roots doc place).filterMap fun root => record doc children root []))
        else
          match f.roots doc place with
          | [] => none
          | root :: _ => record doc children root []
      else f.leaf? doc place

/-- The values of the fields of a structure, added to those found before; none if a field that is
not optional has none. -/
def record (doc : Document) : List Plan → Place → List (String × Datum) → Option Datum
  | [], _, found => some (Datum.ofEntries found)
  | p :: ps, place, found =>
      match retrieve doc p place with
      | some value => record doc ps place (found ++ [(p.title, value)])
      | none => if p.field.optional then record doc ps place found else none

end

end Plan

end Harvest
