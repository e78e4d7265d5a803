import Mathlib
import Harvest.Proofs.Document.Places
import Harvest.Document.Axis

/-!
# Subtrees as documents

A node of a document with everything below it is a document of its own.  Its places are places of
the whole document once the address of the node is put in front of them, and everything that is read
off a place without leaving the subtree is the same there: contents, names, string-values, the nodes
along the axes that lead downwards, and the order of them all.
-/

namespace Harvest

theorem Path.compare_append (n p q : Path) : Path.compare (n ++ p) (n ++ q) = Path.compare p q := by
  induction n with
  | nil => rfl
  | cons i n ih => simp [Path.compare, ih]

namespace Place

/-- The place in a document of a place in the subtree at `n`. -/
def below (n : Path) (p : Place) : Place := ⟨n ++ p.path, p.index⟩

variable {n : Path}

@[simp] theorem below_path (p : Place) : (below n p).path = n ++ p.path := rfl

@[simp] theorem below_index (p : Place) : (below n p).index = p.index := rfl

@[simp] theorem below_ofPath (p : Path) : below n (.ofPath p) = .ofPath (n ++ p) := rfl

theorem below_root : below n root = .ofPath n := by
  rw [root, below_ofPath, List.append_nil]

theorem compare_below (p q : Place) : compare (below n p) (below n q) = compare p q := by
  simp [compare, Path.compare_append]

theorem before_below_iff {p q : Place} : Before (below n p) (below n q) ↔ Before p q := by
  rw [Before, Before, compare_below]

/-- Putting an address in front of places does not change their order. -/
theorem sort_map_below (places : List Place) :
    sort (places.map (below n)) = (sort places).map (below n) := by
  have sorted : ((sort places).map (below n)).Pairwise Before :=
    List.pairwise_map.mpr ((pairwise_sort places).imp before_below_iff.mpr)
  refine eq_of_mem_iff (pairwise_sort _) sorted fun p => ?_
  simp only [mem_sort, List.mem_map]

end Place

namespace Tree

mutual

theorem paths_append (n here : Path) (t : Tree) :
    t.paths (n ++ here) = (t.paths here).map (n ++ ·) :=
  match t with
  | node content children => by
      rw [paths, paths, List.map_cons, pathsFrom_append]

theorem pathsFrom_append (n here : Path) (i : Nat) (ts : List Tree) :
    pathsFrom (n ++ here) i ts = (pathsFrom here i ts).map (n ++ ·) :=
  match ts with
  | [] => rfl
  | t :: ts => by
      rw [pathsFrom, pathsFrom, List.map_append, List.append_assoc, paths_append,
        pathsFrom_append n here (i + 1) ts]

end

end Tree

/-- Whether a direction never leaves the subtree of the node that it starts from. -/
def Axis.isDownward : Axis → Bool
  | child | descendant | descendantOrSelf | self | attributes => true
  | _ => false

namespace Document

/-- Whether the node at `n` is `t`, with everything below it. -/
def HasSubtree (doc : Document) (n : Path) (t : Tree) : Prop := doc.node? n = some t

namespace HasSubtree

variable {doc : Document} {n : Path} {t : Tree}

theorem node? (here : doc.HasSubtree n t) (p : Path) :
    doc.node? (n ++ p) = (⟨t⟩ : Document).node? p := by
  have found : doc.root.at? n = some t := here
  rw [Document.node?, Tree.at?_append, found, Option.bind_some, Document.node?]

theorem content? (here : doc.HasSubtree n t) (p : Path) :
    doc.content? (n ++ p) = (⟨t⟩ : Document).content? p := by
  rw [Document.content?, here.node?, Document.content?]

theorem attributes (here : doc.HasSubtree n t) (p : Path) :
    doc.attributes (n ++ p) = (⟨t⟩ : Document).attributes p := by
  rw [Document.attributes, here.content?, Document.attributes]

theorem attribute? (here : doc.HasSubtree n t) (p : Path) (i : Nat) :
    doc.attribute? (n ++ p) i = (⟨t⟩ : Document).attribute? p i := by
  rw [Document.attribute?, here.attributes, Document.attribute?]

theorem stringValue (here : doc.HasSubtree n t) (p : Place) :
    doc.stringValue (p.below n) = (⟨t⟩ : Document).stringValue p := by
  obtain ⟨path, index⟩ := p
  cases index with
  | none => simp [Document.stringValue, here.node?]
  | some i => simp [Document.stringValue, here.attribute?]

theorem name (here : doc.HasSubtree n t) (p : Place) :
    doc.name (p.below n) = (⟨t⟩ : Document).name p := by
  obtain ⟨path, index⟩ := p
  cases index with
  | none => simp [Document.name, here.content?]
  | some i => simp [Document.name, here.attribute?]

theorem childPaths (here : doc.HasSubtree n t) (p : Path) :
    doc.childPaths (n ++ p) = ((⟨t⟩ : Document).childPaths p).map (n ++ ·) := by
  simp [Document.childPaths, here.node?]

theorem subtree (here : doc.HasSubtree n t) (p : Path) :
    doc.subtree (n ++ p) = ((⟨t⟩ : Document).subtree p).map (n ++ ·) := by
  rw [Document.subtree, Document.subtree, here.node?]
  cases (⟨t⟩ : Document).node? p with
  | none => rfl
  | some u => exact u.paths_append n p

theorem below (here : doc.HasSubtree n t) (p : Path) :
    doc.below (n ++ p) = ((⟨t⟩ : Document).below p).map (n ++ ·) := by
  rw [Document.below, Document.below, here.subtree, List.map_drop]

theorem map_ofPath (paths : List Path) :
    (paths.map (n ++ ·)).map Place.ofPath = (paths.map Place.ofPath).map (Place.below n) := by
  rw [List.map_map, List.map_map]
  rfl

/-- Downward axes lead to the same places. -/
theorem along (here : doc.HasSubtree n t) (p : Place) {axis : Axis} (down : axis.isDownward) :
    doc.along (p.below n) axis = ((⟨t⟩ : Document).along p axis).map (Place.below n) := by
  obtain ⟨path, index⟩ := p
  cases axis with
  | self => rfl
  | attributes =>
      cases index with
      | some i => rfl
      | none =>
          simp only [Document.along, Place.below_index, Place.below_path, here.attributes,
            List.map_map]
          rfl
  | child =>
      cases index with
      | some i => rfl
      | none =>
          have children := here.childPaths path
          simp only [Document.along, Place.below_index, Place.below_path, children]
          exact map_ofPath _
  | descendant =>
      cases index with
      | some i => rfl
      | none =>
          have nodes := here.below path
          simp only [Document.along, Place.below_index, Place.below_path, nodes]
          exact map_ofPath _
  | descendantOrSelf =>
      cases index with
      | some i => rfl
      | none =>
          have nodes := here.subtree path
          simp only [Document.along, Place.below_index, Place.below_path, nodes]
          exact map_ofPath _
  | parent => cases down
  | ancestor => cases down
  | ancestorOrSelf => cases down
  | followingSibling => cases down
  | precedingSibling => cases down
  | following => cases down
  | preceding => cases down

end HasSubtree

end Document

end Harvest
