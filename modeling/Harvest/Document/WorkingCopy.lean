import Harvest.Document.Markup

/-!
# Working copies

A copy of a document from which nodes are taken away.  A node that is taken away keeps its address
and everything below it; only its parent no longer has it.  So what is left below a node does not
depend on what happened to the node itself, nor on the order in which nodes are taken.
-/

namespace Harvest

/-- A node of a working copy; it is attached while its parent has it. -/
inductive WorkingTree where
  | node (content : Content) (attached : Bool) (children : List WorkingTree)
  deriving Repr

namespace WorkingTree

def attached : WorkingTree → Bool
  | node _ attached _ => attached

mutual

/-- A copy from which nothing has been taken. -/
def ofTree : Tree → WorkingTree
  | .node content children => .node content true (ofTrees children)

def ofTrees : List Tree → List WorkingTree
  | [] => []
  | t :: ts => ofTree t :: ofTrees ts

end

/-- The node at an address below this one. -/
def at? : WorkingTree → Path → Option WorkingTree
  | t, [] => some t
  | node _ _ children, i :: path =>
      match children[i]? with
      | some child => child.at? path
      | none => none

/-- The copy with the node at an address taken away. -/
def detach : Path → WorkingTree → WorkingTree
  | [], node content _ children => node content false children
  | i :: path, node content attached children =>
      node content attached (children.modify i (detach path))

mutual

/-- What is left of a node: the node with those below it that are attached. -/
def kept : WorkingTree → Tree
  | node content _ children => .node content (keptAll children)

def keptAll : List WorkingTree → List Tree
  | [] => []
  | t :: ts => if t.attached then t.kept :: keptAll ts else keptAll ts

end

end WorkingTree

/-- A document from which nodes have been taken away. -/
structure WorkingCopy where
  source : Document
  root : WorkingTree
  deriving Repr

/-- The copy of a document without the nodes at some addresses. -/
def Document.without (doc : Document) (targets : List Path) : WorkingCopy :=
  ⟨doc, targets.foldl (fun root path => root.detach path) (.ofTree doc.root)⟩

namespace WorkingCopy

/-- What is left of the node at an address. -/
def node? (copy : WorkingCopy) (path : Path) : Option Tree :=
  (copy.root.at? path).map WorkingTree.kept

/-- Whether the node at an address still stands in an element whose text is raw. -/
def inRawText (copy : WorkingCopy) (path : Path) : Bool :=
  ((copy.root.at? path).map WorkingTree.attached).getD false && copy.source.inRawText path

/-- The markup of what is left of a place. -/
def markup (copy : WorkingCopy) (serializer : Serializer) (place : Place) : String :=
  match place.index with
  | some _ => copy.source.stringValue place
  | none =>
      ((copy.node? place.path).map
        (Tree.markup serializer (copy.inRawText place.path))).getD ""

/-- The string-value of what is left of a place. -/
def stringValue (copy : WorkingCopy) (place : Place) : String :=
  match place.index with
  | some _ => copy.source.stringValue place
  | none => ((copy.node? place.path).map Tree.stringValue).getD ""

end WorkingCopy

end Harvest
