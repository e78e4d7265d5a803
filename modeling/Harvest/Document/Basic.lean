/-!
# Documents

A document is a tree of nodes.  A node is addressed by the path of child indices that leads to it
from the root, so an address needs no store to look it up in, and copies of a document share the
addresses of the nodes that they have in common.  `Place` adds the attributes of elements, which
queries treat as nodes.
-/

namespace Harvest

/-- A name with its value on an element.  A name that belongs to another vocabulary than its
element has a qualifier, which is no part of the name; the qualifier of `xmlns` itself is empty. -/
structure Attribute where
  name : String
  value : String
  qualifier : Option String := none
  deriving DecidableEq, Repr

namespace Attribute

/-- Whether an attribute stands before another: those without a qualifier come first, then they
are in the order of their qualifiers, and with the same qualifier in the order of their names. -/
def precedes (a b : Attribute) : Bool :=
  match a.qualifier, b.qualifier with
  | none, none => a.name < b.name
  | none, some _ => true
  | some _, none => false
  | some p, some q => p < q || (p == q && a.name < b.name)

/-- Attributes in their order. -/
def sort (attributes : List Attribute) : List Attribute :=
  attributes.mergeSort fun a b => !b.precedes a

end Attribute

/-- The vocabulary that the name of an element is taken from. -/
inductive Vocabulary where
  | html
  | math
  | svg
  deriving DecidableEq, Repr

/-- What a node is.  The attributes of an element are sorted. -/
inductive Content where
  | document
  | fragment
  | element (vocabulary : Vocabulary) (name : String) (attributes : List Attribute)
  | text (value : String)
  | comment (value : String)
  | doctype (name : String)
  | instruction (target data : String)
  deriving DecidableEq, Repr

/-- A node with everything below it. -/
inductive Tree where
  | node (content : Content) (children : List Tree)
  deriving Repr

instance : Inhabited Tree := ⟨.node .document []⟩

/-- The child indices on the way down to a node. -/
abbrev Path := List Nat

namespace Content

def attributes : Content → List Attribute
  | element _ _ attributes => attributes
  | _ => []

/-- The name of an element. -/
def element? : Content → Option String
  | element _ name _ => some name
  | _ => none

def isText : Content → Bool
  | text _ => true
  | _ => false

def isComment : Content → Bool
  | comment _ => true
  | _ => false

end Content

namespace Tree

def content : Tree → Content
  | node content _ => content

def children : Tree → List Tree
  | node _ children => children

/-- The node at an address below this one. -/
def at? : Tree → Path → Option Tree
  | t, [] => some t
  | node _ children, i :: path =>
      match children[i]? with
      | some child => child.at? path
      | none => none

mutual

/-- The texts of the text nodes here and below, in document order. -/
def texts : Tree → List String
  | node (.text s) children => s :: textsOfAll children
  | node _ children => textsOfAll children

def textsOfAll : List Tree → List String
  | [] => []
  | t :: ts => t.texts ++ textsOfAll ts

end

/-- The string-value of a node: its own text for texts and comments, all text below for elements
and roots, and nothing for the rest. -/
def stringValue : Tree → String
  | node (.text s) _ => s
  | node (.comment s) _ => s
  | node (.doctype _) _ => ""
  | node (.instruction _ _) _ => ""
  | t => String.join t.texts

end Tree

/-- A whole document, or a fragment of one. -/
structure Document where
  root : Tree
  deriving Repr, Inhabited

/-- A node that a query can select: a node of the tree, or an attribute of one by its index. -/
structure Place where
  path : Path
  index : Option Nat
  deriving DecidableEq, Repr

namespace Place

/-- The place of a node of the tree. -/
def ofPath (path : Path) : Place := ⟨path, none⟩

/-- The place of the root. -/
def root : Place := ofPath []

end Place

namespace Document

def node? (doc : Document) (path : Path) : Option Tree := doc.root.at? path

/-- The content of the node at an address. -/
def content? (doc : Document) (path : Path) : Option Content :=
  (doc.node? path).map Tree.content

/-- The attributes of the node at an address. -/
def attributes (doc : Document) (path : Path) : List Attribute :=
  ((doc.content? path).map Content.attributes).getD []

/-- An attribute by its index among those of its element. -/
def attribute? (doc : Document) (owner : Path) (index : Nat) : Option Attribute :=
  (doc.attributes owner)[index]?

/-- The string-value of a node: for an attribute its value. -/
def stringValue (doc : Document) (place : Place) : String :=
  match place.index with
  | some i => ((doc.attribute? place.path i).map Attribute.value).getD ""
  | none => ((doc.node? place.path).map Tree.stringValue).getD ""

/-- The name of an element or attribute, and the empty name for other nodes. -/
def name (doc : Document) (place : Place) : String :=
  match place.index with
  | some i => ((doc.attribute? place.path i).map Attribute.name).getD ""
  | none => ((doc.content? place.path).bind Content.element?).getD ""

end Document

end Harvest
