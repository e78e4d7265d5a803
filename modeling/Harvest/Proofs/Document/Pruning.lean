import Mathlib
import Harvest.Proofs.Document.WorkingCopy

/-!
# Pruned trees

A tree is known by its outline, which tells of each node in document order how deep it stands and
what it is.  Pruning crosses out of the outline the nodes that are to go and those that stand below
one of them, and leaves the other lines as they are.  A working copy is a document in which every
subtree has been pruned, so it does not matter in which order nodes were taken away, nor how often.
-/

namespace Harvest

namespace Tree

mutual

/-- The nodes of a tree in document order, each with its address and its content. -/
def nodes : Tree → List (Path × Content)
  | node content children => ([], content) :: nodesFrom 0 children

/-- The nodes of siblings, the first of which has index `i`. -/
def nodesFrom (i : Nat) : List Tree → List (Path × Content)
  | [] => []
  | t :: ts => t.nodes.map (fun n => (i :: n.1, n.2)) ++ nodesFrom (i + 1) ts

end

/-- The outline of some nodes: how deep each of them stands, and what it is. -/
def outline (nodes : List (Path × Content)) : List (Nat × Content) :=
  nodes.map fun n => (n.1.length, n.2)

/-- Whether a node stays when nodes are taken away: neither the node nor one above it is to go.  The
node at the top stays in any case. -/
def stays (gone : Path → Bool) (path : Path) : Bool := path.inits.tail.all fun p => !gone p

theorem stays_nil (gone : Path → Bool) : stays gone [] = true := rfl

theorem stays_cons (gone : Path → Bool) (i : Nat) (path : Path) :
    stays gone (i :: path) = (!gone [i] && stays (fun p => gone (i :: p)) path) := by
  cases path <;> simp [stays, Function.comp_def]

@[simp] theorem outline_append (first second : List (Path × Content)) :
    outline (first ++ second) = outline first ++ outline second := List.map_append

/-- One level further down the outline is the same but for the depth. -/
theorem outline_map_cons (i : Nat) (nodes : List (Path × Content)) :
    outline (nodes.map fun n => (i :: n.1, n.2)) =
      (outline nodes).map fun line => (line.1 + 1, line.2) := by
  simp [outline, Function.comp_def]

mutual

/-- Pruning keeps the nodes that stay, in their order and at their depth, and no others. -/
theorem outline_prune (gone : Path → Bool) (t : Tree) :
    outline (t.prune gone).nodes = outline (t.nodes.filter fun n => stays gone n.1) :=
  match t with
  | node content children => by
      have top : (node content children).nodes.filter (fun n => stays gone n.1) =
          ([], content) :: (nodesFrom 0 children).filter fun n => stays gone n.1 :=
        List.filter_cons_of_pos (stays_nil gone)
      rw [prune, nodes, top]
      exact congrArg ((0, content) :: ·) (outline_pruneAll gone 0 0 children)

/-- The nodes that stay move up among their siblings, which the outline does not show. -/
theorem outline_pruneAll (gone : Path → Bool) (i j : Nat) (ts : List Tree) :
    outline (nodesFrom j (pruneAll gone i ts)) =
      outline ((nodesFrom i ts).filter fun n => stays gone n.1) :=
  match ts with
  | [] => rfl
  | t :: ts => by
      rw [pruneAll, nodesFrom, List.filter_append, outline_append, List.filter_map]
      cases here : gone [i] with
      | true =>
          have none : t.nodes.filter
              ((fun n => stays gone n.1) ∘ fun n : Path × Content => (i :: n.1, n.2)) = [] :=
            List.filter_eq_nil_iff.mpr fun n _ => by simp [stays_cons, here]
          rw [if_pos rfl, none, outline_pruneAll gone (i + 1) j ts]
          rfl
      | false =>
          have inside : (fun n => stays gone n.1) ∘ (fun n : Path × Content => (i :: n.1, n.2)) =
              fun n => stays (fun p => gone (i :: p)) n.1 :=
            funext fun n => by simp [stays_cons, here]
          rw [if_neg Bool.false_ne_true, nodesFrom, outline_append, outline_map_cons,
            outline_prune, outline_pruneAll gone (i + 1) (j + 1) ts, inside, outline_map_cons]

end

end Tree

namespace Document

variable {doc : Document} {targets others : List Path}

theorem without_eq (doc : Document) (targets : List Path) :
    doc.without targets = ⟨doc, WorkingTree.marked (targets.contains ·) doc.root⟩ :=
  congrArg (WorkingCopy.mk doc) (root_without doc targets)

/-- A copy depends on which nodes are taken away only. -/
theorem without_congr (same : ∀ path, path ∈ targets ↔ path ∈ others) :
    doc.without targets = doc.without others := by
  have taken : (targets.contains ·) = (others.contains ·) :=
    funext fun path => Bool.eq_iff_iff.mpr (by simpa using same path)
  rw [without_eq, without_eq, taken]

end Document

end Harvest
