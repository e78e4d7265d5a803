import Harvest.Definition.Defect
import Harvest.Definition.Basic
import Harvest.Document.WorkingCopy
import Harvest.XPath.Evaluation

/-!
# Node filters

Compiled rules for nodes.  A node is accepted if one of the includes holds at it, or there are none,
and none of the excludes does.  The removes select what is taken out of a working copy before the
node is written as markup.
-/

namespace Harvest

/-- Compiles the queries of a rule, up to the first that is malformed. -/
def XPath.Query.compileLines (rule : Rule) (lines : Lines) : Except Defect (List XPath.Query) :=
  lines.toList.mapM fun line =>
    match XPath.Query.compile line with
    | .ok q => .ok q
    | .error e => .error (.badQuery rule line e)

/-- Compiled rules for nodes. -/
structure NodeFilter where
  includes : List XPath.Query := []
  excludes : List XPath.Query := []
  removes : List XPath.Query := []
  deriving Repr

namespace NodeFilter

def compileRules (rules : Definition.NodeRules) : Except Defect NodeFilter := do
  let includes ← XPath.Query.compileLines .includes rules.includes
  let excludes ← XPath.Query.compileLines .excludes rules.excludes
  let removes ← XPath.Query.compileLines .removes rules.removes
  return { includes, excludes, removes }

/-- The filter of rules; without rules everything is accepted and kept. -/
def compile : Option Definition.NodeRules → Except Defect NodeFilter
  | none => .ok {}
  | some rules => compileRules rules

def isEmpty (f : NodeFilter) : Bool :=
  f.includes.isEmpty && f.excludes.isEmpty && f.removes.isEmpty

/-- Whether a node is accepted. -/
def accepts (f : NodeFilter) (doc : Document) (place : Place) : Bool :=
  (f.includes.isEmpty || f.includes.any fun q => q.holds doc place) &&
    !(f.excludes.any fun q => q.holds doc place)

/-- The address of a place that can be taken out: attributes cannot, and the root stays. -/
def target? (place : Place) : Option Path :=
  if place.index.isNone && !place.path.isEmpty then some place.path else none

/-- The addresses of what the removes select from a node, in the order of the removes and each
address once. -/
def removals (f : NodeFilter) (doc : Document) (place : Place) : List Path :=
  f.removes.foldl (fun found q =>
    ((q.select doc place).filterMap target?).foldl
      (fun found path => if found.contains path then found else found ++ [path]) found) []

/-- The working copy of a document without what the removes select from a node. -/
def clean (f : NodeFilter) (doc : Document) (place : Place) : WorkingCopy :=
  doc.without (f.removals doc place)

end NodeFilter

end Harvest
