import Harvest.Document.Basic

/-!
# Axes

The directions in which a query leaves a node, and the nodes that lie in each.  Walks down the
tree carry the address of the node they are at; walks to the side follow the address of the
starting node down from the root and collect what they pass.
-/

namespace Harvest

/-- A direction from a node. -/
inductive Axis where
  | child
  | descendant
  | descendantOrSelf
  | self
  | parent
  | ancestor
  | ancestorOrSelf
  | followingSibling
  | precedingSibling
  | following
  | preceding
  | attributes
  deriving DecidableEq, Repr

namespace Axis

/-- Whether the nodes of the axis are counted against document order. -/
def isReverse : Axis → Bool
  | ancestor | ancestorOrSelf | precedingSibling | preceding => true
  | _ => false

/-- The name of the axis in expressions. -/
def name : Axis → String
  | child => "child"
  | descendant => "descendant"
  | descendantOrSelf => "descendant-or-self"
  | self => "self"
  | parent => "parent"
  | ancestor => "ancestor"
  | ancestorOrSelf => "ancestor-or-self"
  | followingSibling => "following-sibling"
  | precedingSibling => "preceding-sibling"
  | following => "following"
  | preceding => "preceding"
  | attributes => "attribute"

def all : List Axis :=
  [child, descendant, descendantOrSelf, self, parent, ancestor, ancestorOrSelf, followingSibling,
    precedingSibling, following, preceding, attributes]

/-- The axis with a name. -/
def ofName? (name : String) : Option Axis := all.find? (·.name == name)

end Axis

namespace Tree

mutual

/-- The addresses of a node at `here` and of all nodes below it, in document order. -/
def paths (here : Path) : Tree → List Path
  | node _ children => here :: pathsFrom here 0 children

/-- The addresses of the nodes in siblings below `here`, the first of which has index `i`. -/
def pathsFrom (here : Path) (i : Nat) : List Tree → List Path
  | [] => []
  | t :: ts => t.paths (here ++ [i]) ++ pathsFrom here (i + 1) ts

end

/-- The nodes after the one that the address leads to, other than those below it, in document
order; the walk is at `here`. -/
def after (here : Path) : Tree → Path → List Path
  | _, [] => []
  | node _ children, i :: rest =>
      match children[i]? with
      | some child =>
          child.after (here ++ [i]) rest ++ pathsFrom here (i + 1) (children.drop (i + 1))
      | none => []

/-- The nodes before the one that the address leads to, other than those above it, in document
order; the walk is at `here`. -/
def before (here : Path) : Tree → Path → List Path
  | _, [] => []
  | node _ children, i :: rest =>
      match children[i]? with
      | some child =>
          pathsFrom here 0 (children.take i) ++ child.before (here ++ [i]) rest
      | none => []

end Tree

/-- The addresses above a node, the root first. -/
def Path.above : Path → List Path
  | [] => []
  | i :: path => [] :: (Path.above path).map (i :: ·)

/-- The address of the parent, if there is one. -/
def Path.parent? (path : Path) : Option Path :=
  if path.isEmpty then none else some path.dropLast

namespace Document

/-- The addresses of the nodes at and below an address. -/
def subtree (doc : Document) (path : Path) : List Path :=
  ((doc.node? path).map (Tree.paths path)).getD []

/-- The addresses of the nodes below an address. -/
def below (doc : Document) (path : Path) : List Path := (doc.subtree path).drop 1

/-- The addresses of the children of a node. -/
def childPaths (doc : Document) (path : Path) : List Path :=
  let count := ((doc.node? path).map fun t => t.children.length).getD 0
  (List.range count).map fun i => path ++ [i]

/-- The addresses of the siblings of a node whose index satisfies `p`, given the node's own. -/
def siblings (doc : Document) (path : Path) (p : Nat → Nat → Bool) : List Path :=
  match path.getLast? with
  | none => []
  | some own => (doc.childPaths path.dropLast).filter fun q => p own (q.getLastD 0)

/-- The nodes that lie along an axis from a place. -/
def along (doc : Document) (place : Place) : Axis → List Place
  | .self => [place]
  | .attributes =>
      match place.index with
      | some _ => []
      | none =>
          (List.range (doc.attributes place.path).length).map fun i => ⟨place.path, some i⟩
  | .child =>
      if place.index.isSome then [] else (doc.childPaths place.path).map .ofPath
  | .descendant =>
      if place.index.isSome then [] else (doc.below place.path).map .ofPath
  | .descendantOrSelf =>
      if place.index.isSome then [place] else (doc.subtree place.path).map .ofPath
  | .parent =>
      if place.index.isSome then [.ofPath place.path]
      else (Path.parent? place.path).toList.map .ofPath
  | .ancestor => ancestors place
  | .ancestorOrSelf => ancestors place ++ [place]
  | .followingSibling =>
      if place.index.isSome then []
      else (doc.siblings place.path fun own i => own < i).map .ofPath
  | .precedingSibling =>
      if place.index.isSome then []
      else (doc.siblings place.path fun own i => i < own).map .ofPath
  | .following =>
      -- what is inside an element follows its attributes
      (if place.index.isSome then doc.below place.path else []).map .ofPath ++
        (doc.root.after [] place.path).map .ofPath
  | .preceding => (doc.root.before [] place.path).map .ofPath
where
  /-- The nodes above a place; an attribute is below its element. -/
  ancestors (place : Place) : List Place :=
    (Path.above place.path ++ if place.index.isSome then [place.path] else []).map .ofPath

end Document

end Harvest
