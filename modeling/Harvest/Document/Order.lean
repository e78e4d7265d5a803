import Harvest.Document.Basic

/-!
# Document order

A node comes before what is below it and after what is below its earlier siblings; the attributes
of an element come after it, in the order of their names, and before its children.  On addresses
this is the lexicographic order.
-/

namespace Harvest

/-- The order of the nodes at two addresses. -/
def Path.compare : Path → Path → Ordering
  | [], [] => .eq
  | [], _ :: _ => .lt
  | _ :: _, [] => .gt
  | i :: p, j :: q =>
      match Ord.compare i j with
      | .eq => Path.compare p q
      | order => order

namespace Place

/-- A node before its attributes, and these by index. -/
def compareIndex : Option Nat → Option Nat → Ordering
  | none, none => .eq
  | none, some _ => .lt
  | some _, none => .gt
  | some i, some j => Ord.compare i j

/-- Document order. -/
def compare (a b : Place) : Ordering :=
  match Path.compare a.path b.path with
  | .eq => compareIndex a.index b.index
  | order => order

/-- Whether `a` is `b` or comes before it. -/
def le (a b : Place) : Bool := (compare a b).isLE

/-- The places in document order, each once. -/
def sort (places : List Place) : List Place :=
  (places.mergeSort le).eraseReps

end Place

end Harvest
