import Harvest.Document.Basic

/-!
# Drafts

A document while it is being built.  The nodes are numbered as they come, so that a node keeps its
number when it moves; node 0 is the root.  A finished draft is read off as a tree.
-/

namespace Harvest.Html

namespace Draft

/-- A node with the numbers of the nodes around it. -/
structure Node where
  content : Content
  parent : Option Nat
  children : Array Nat
  deriving Repr

end Draft

/-- The nodes of a document being built. -/
structure Draft where
  nodes : Array Draft.Node
  deriving Repr

namespace Draft

/-- A draft that holds its root only. -/
def ofRoot (content : Content) : Draft := ⟨#[⟨content, none, #[]⟩]⟩

def children (draft : Draft) (id : Nat) : Array Nat :=
  match draft.nodes[id]? with
  | some node => node.children
  | none => #[]

def parent? (draft : Draft) (id : Nat) : Option Nat := draft.nodes[id]?.bind Node.parent

def update (draft : Draft) (id : Nat) (f : Node → Node) : Draft := ⟨draft.nodes.modify id f⟩

/-- Adds a node that stands nowhere yet, and gives its number. -/
def add (draft : Draft) (content : Content) : Nat × Draft :=
  (draft.nodes.size, ⟨draft.nodes.push ⟨content, none, #[]⟩⟩)

/-- Takes a node away from its parent. -/
def detach (draft : Draft) (id : Nat) : Draft :=
  match draft.parent? id with
  | none => draft
  | some parent =>
      (draft.update parent fun node => { node with children := node.children.filter (· ≠ id) })
        |>.update id fun node => { node with parent := none }

/-- Makes a node the last child of another. -/
def append (draft : Draft) (parent id : Nat) : Draft :=
  ((draft.detach id).update parent fun node => { node with children := node.children.push id })
    |>.update id fun node => { node with parent := some parent }

/-- Puts a node in front of another, which has a parent. -/
def insertBefore (draft : Draft) (sibling id : Nat) : Draft :=
  let draft := draft.detach id
  match draft.parent? sibling with
  | none => draft
  | some parent =>
      (draft.update parent fun node =>
          { node with
            children := (node.children.toList.flatMap fun child =>
              if child = sibling then [id, child] else [child]).toArray })
        |>.update id fun node => { node with parent := some parent }

/-- The number of the text node among `before`, the last of its siblings so far. -/
def lastText? (draft : Draft) (before : List Nat) : Option Nat :=
  match before.getLast? with
  | none => none
  | some id =>
      match draft.nodes[id]? with
      | some node => if node.content.isText then some id else none
      | none => none

/-- Adds a character to a text node. -/
def pushChar (draft : Draft) (id : Nat) (c : Char) : Draft :=
  draft.update id fun node =>
    match node with
    | ⟨.text s, parent, children⟩ => ⟨.text (s.push c), parent, children⟩
    | node => node

/-- Adds a character at the end of a node, to the text that stands there or as a new one. -/
def appendChar (draft : Draft) (parent : Nat) (c : Char) : Draft :=
  let texts := match (draft.children parent).back? with
    | some id => [id]
    | none => []
  match draft.lastText? texts with
  | some id => draft.pushChar id c
  | none =>
      let (id, draft) := draft.add (.text c.toString)
      draft.append parent id

/-- Adds a character in front of a node, to the text that stands there or as a new one. -/
def insertCharBefore (draft : Draft) (sibling : Nat) (c : Char) : Draft :=
  let siblings := match draft.parent? sibling with
    | some parent => (draft.children parent).toList
    | none => []
  match draft.lastText? (siblings.takeWhile (· ≠ sibling)) with
  | some id => draft.pushChar id c
  | none =>
      let (id, draft) := draft.add (.text c.toString)
      draft.insertBefore sibling id

/-- Moves the children of a node behind those of another. -/
def moveChildren (draft : Draft) (source target : Nat) : Draft :=
  (draft.children source).foldl (fun draft id => draft.append target id) draft

/-- Adds the attributes that an element does not have yet. -/
def addAttributes (draft : Draft) (id : Nat) (attributes : List Attribute) : Draft :=
  draft.update id fun node =>
    match node.content with
    | .element vocabulary name old =>
        let new := attributes.filter fun a => !old.any (·.name = a.name)
        { node with content := .element vocabulary name (Attribute.sort (old ++ new)) }
    | _ => node

/-- The tree below a node; `fuel` bounds its height. -/
def treeAt (draft : Draft) : Nat → Nat → Tree
  | 0, _ => default
  | fuel + 1, id =>
      match draft.nodes[id]? with
      | some node => .node node.content (node.children.toList.map (treeAt draft fuel))
      | none => default

/-- The document that has been built. -/
def toDocument (draft : Draft) : Document := ⟨draft.treeAt draft.nodes.size 0⟩

end Draft

end Harvest.Html
