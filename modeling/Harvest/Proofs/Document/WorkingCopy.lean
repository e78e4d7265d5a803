import Mathlib
import Harvest.Document.WorkingCopy
import Harvest.Proofs.Document.Subtree

/-!
# What is left in a working copy

Taking nodes away one after the other marks them in the copy, and what is left of a node is the node
without the marked ones below it.  So a working copy is determined by the set of addresses that were
taken, whatever their order and however often they were taken, and the node that is looked at may
have been taken itself.
-/

namespace Harvest

namespace Tree

mutual

/-- The tree without the nodes at the addresses for which `gone` holds; the node at the top
stays. -/
def prune (gone : Path → Bool) : Tree → Tree
  | node content children => node content (pruneAll gone 0 children)

/-- Siblings without the nodes at the addresses for which `gone` holds, where the first has index
`i`. -/
def pruneAll (gone : Path → Bool) (i : Nat) : List Tree → List Tree
  | [] => []
  | t :: ts =>
      if gone [i] then pruneAll gone (i + 1) ts
      else prune (fun p => gone (i :: p)) t :: pruneAll gone (i + 1) ts

end

theorem content_prune (gone : Path → Bool) (t : Tree) : (t.prune gone).content = t.content := by
  cases t
  rfl

mutual

/-- Whether the node at the top is to go does not count. -/
theorem prune_congr {gone gone' : Path → Bool} (same : ∀ p ≠ [], gone p = gone' p) (t : Tree) :
    t.prune gone = t.prune gone' :=
  match t with
  | node content children => by
      rw [prune, prune, pruneAll_congr same 0 children]

theorem pruneAll_congr {gone gone' : Path → Bool} (same : ∀ p ≠ [], gone p = gone' p) (i : Nat)
    (ts : List Tree) : pruneAll gone i ts = pruneAll gone' i ts :=
  match ts with
  | [] => rfl
  | t :: ts => by
      have inside : t.prune (fun p => gone (i :: p)) = t.prune fun p => gone' (i :: p) :=
        prune_congr (fun p _ => same (i :: p) (List.cons_ne_nil i p)) t
      rw [pruneAll, pruneAll, same [i] (List.cons_ne_nil i []), inside,
        pruneAll_congr same (i + 1) ts]

end

end Tree

namespace WorkingTree

mutual

/-- The copy of a tree from which the nodes at the addresses for which `gone` holds are taken. -/
def marked (gone : Path → Bool) : Tree → WorkingTree
  | .node content children => node content (!gone []) (markedAll gone 0 children)

/-- The copies of siblings, the first of which has index `i`. -/
def markedAll (gone : Path → Bool) (i : Nat) : List Tree → List WorkingTree
  | [] => []
  | t :: ts => marked (fun p => gone (i :: p)) t :: markedAll gone (i + 1) ts

end

variable {gone : Path → Bool}

theorem attached_marked (t : Tree) : (marked gone t).attached = !gone [] := by
  cases t
  rfl

theorem getElem?_markedAll (ts : List Tree) (i j : Nat) :
    (markedAll gone i ts)[j]? = ts[j]?.map (marked fun p => gone ((i + j) :: p)) := by
  induction ts generalizing i j with
  | nil => rfl
  | cons t ts ih =>
      rw [markedAll]
      cases j with
      | zero => rfl
      | succ j =>
          rw [List.getElem?_cons_succ, List.getElem?_cons_succ, ih, Nat.add_right_comm]
          rfl

theorem at?_marked (t : Tree) (path : Path) :
    (marked gone t).at? path = (t.at? path).map (marked fun p => gone (path ++ p)) := by
  induction path generalizing t gone with
  | nil =>
      cases t
      rfl
  | cons i path ih =>
      cases t with
      | node content children =>
          rw [marked, at?, getElem?_markedAll, Tree.at?_cons, Nat.zero_add]
          cases children[i]? with
          | none => rfl
          | some child => exact ih child

mutual

/-- A copy from which nothing has been taken. -/
theorem ofTree_eq (t : Tree) : ofTree t = marked (fun _ => false) t :=
  match t with
  | .node content children => by
      rw [ofTree, marked, ofTrees_eq 0 children, Bool.not_false]

theorem ofTrees_eq (i : Nat) (ts : List Tree) : ofTrees ts = markedAll (fun _ => false) i ts :=
  match ts with
  | [] => rfl
  | t :: ts => by rw [ofTrees, markedAll, ofTree_eq t, ofTrees_eq (i + 1) ts]

end

mutual

/-- What is left of a copy. -/
theorem kept_marked (gone : Path → Bool) (t : Tree) : (marked gone t).kept = t.prune gone :=
  match t with
  | .node content children => by
      rw [marked, kept, Tree.prune, keptAll_markedAll gone 0 children]

theorem keptAll_markedAll (gone : Path → Bool) (i : Nat) (ts : List Tree) :
    keptAll (markedAll gone i ts) = Tree.pruneAll gone i ts :=
  match ts with
  | [] => rfl
  | t :: ts => by
      rw [markedAll, keptAll, Tree.pruneAll, attached_marked, kept_marked _ t,
        keptAll_markedAll gone (i + 1) ts]
      cases gone [i] <;> rfl

end

/-- Taking a node away marks it and nothing else. -/
theorem detach_marked (t : Tree) (path : Path) :
    (marked gone t).detach path = marked (fun p => gone p || p == path) t := by
  induction path generalizing t gone with
  | nil =>
      cases t with
      | node content children =>
          have others (i : Nat) : markedAll (fun p => gone p || p == []) i children =
              markedAll gone i children := by
            refine List.ext_getElem? fun j => ?_
            simp [getElem?_markedAll]
          rw [marked, marked, detach, others]
          simp
  | cons i path ih =>
      cases t with
      | node content children =>
          have below : (markedAll gone 0 children).modify i (detach path) =
              markedAll (fun p => gone p || p == i :: path) 0 children := by
            refine List.ext_getElem? fun j => ?_
            rw [List.getElem?_modify, getElem?_markedAll, getElem?_markedAll, Nat.zero_add]
            by_cases here : i = j
            · subst here
              simp [ih, Function.comp_def]
            · have apart : (j == i) = false := beq_false_of_ne (Ne.symm here)
              simp [here, apart]
          rw [marked, marked, detach, below]
          simp

theorem foldl_detach_marked (targets : List Path) (t : Tree) :
    targets.foldl (fun root path => root.detach path) (marked gone t) =
      marked (fun p => gone p || targets.contains p) t := by
  induction targets generalizing gone with
  | nil => simp
  | cons path targets ih =>
      rw [List.foldl_cons, detach_marked, ih]
      simp only [List.contains_cons, Bool.or_assoc]

end WorkingTree

namespace Document

variable {doc : Document} {targets : List Path}

theorem root_without (doc : Document) (targets : List Path) :
    (doc.without targets).root = WorkingTree.marked (targets.contains ·) doc.root := by
  rw [without, WorkingTree.ofTree_eq, WorkingTree.foldl_detach_marked]
  simp only [Bool.false_or]

theorem node?_without (path : Path) :
    (doc.without targets).node? path =
      (doc.node? path).map (Tree.prune fun p => targets.contains (path ++ p)) := by
  rw [WorkingCopy.node?, root_without, WorkingTree.at?_marked, Option.map_map, node?]
  exact congrArg (Option.map · _) (funext fun t => WorkingTree.kept_marked _ t)

theorem inRawText_without (path : Path) :
    (doc.without targets).inRawText path =
      ((doc.node? path).isSome && !targets.contains path && doc.inRawText path) := by
  rw [WorkingCopy.inRawText, root_without, WorkingTree.at?_marked, node?]
  cases doc.root.at? path with
  | none => rfl
  | some t => simp [WorkingTree.attached_marked, without]

end Document

/-! ## Markup -/

/-- An element is written in the same way wherever it stands. -/
theorem Tree.markup_of_element {t : Tree} (element : t.content.element?.isSome)
    (serializer : Serializer) (inRaw inRaw' : Bool) :
    t.markup serializer inRaw = t.markup serializer inRaw' := by
  obtain ⟨content, children⟩ := t
  cases content with
  | element vocabulary name attributes => cases serializer <;> rfl
  | document => cases element
  | fragment => cases element
  | text s => cases element
  | comment s => cases element
  | doctype name => cases element
  | instruction target data => cases element

namespace Document.HasSubtree

variable {doc : Document} {n : Path} {t : Tree}

theorem inRawText (here : doc.HasSubtree n t) {p : Path} (inside : p ≠ []) :
    doc.inRawText (n ++ p) = (⟨t⟩ : Document).inRawText p := by
  have filled : (n ++ p).isEmpty = p.isEmpty := by
    rw [List.isEmpty_eq_false_iff.mpr inside,
      List.isEmpty_eq_false_iff.mpr (List.append_ne_nil_of_right_ne_nil n inside)]
  rw [Document.inRawText, Document.inRawText, List.dropLast_append_of_ne_nil inside,
    here.content?, filled]

/-- The markup of what is left depends on what is taken from the subtree only. -/
theorem markup_without (here : doc.HasSubtree n t) (element : t.content.element?.isSome)
    {targets targets' : List Path} (same : ∀ p ≠ [], n ++ p ∈ targets ↔ p ∈ targets')
    (serializer : Serializer) (p : Place) :
    (doc.without targets).markup serializer (p.below n) =
      ((⟨t⟩ : Document).without targets').markup serializer p := by
  obtain ⟨path, index⟩ := p
  cases index with
  | some i => exact here.stringValue ⟨path, some i⟩
  | none =>
      have left : (doc.without targets).node? (n ++ path) =
          ((⟨t⟩ : Document).without targets').node? path := by
        rw [node?_without, node?_without, here.node?]
        refine congrArg (Option.map · _) (funext fun u => Tree.prune_congr (fun p inside => ?_) u)
        have nonempty : path ++ p ≠ [] := by simp [inside]
        exact Bool.eq_iff_iff.mpr (by simpa using same (path ++ p) nonempty)
      simp only [WorkingCopy.markup, Place.below_index, Place.below_path, left]
      by_cases top : path = []
      · subst top
        have written : ((⟨t⟩ : Document).without targets').node? [] =
            some (t.prune fun p => targets'.contains p) := by
          rw [node?_without, Document.node?, Tree.at?_nil]
          rfl
        rw [written, Option.map_some, Option.map_some]
        refine congrArg (Option.getD · _) (congrArg some ?_)
        exact Tree.markup_of_element (by rwa [Tree.content_prune]) serializer _ _
      · have raw : (doc.without targets).inRawText (n ++ path) =
            ((⟨t⟩ : Document).without targets').inRawText path := by
          have gone : targets.contains (n ++ path) = targets'.contains path :=
            Bool.eq_iff_iff.mpr (by simpa using same path top)
          rw [inRawText_without, inRawText_without, here.node?, here.inRawText top, gone]
        rw [raw]

end Document.HasSubtree

end Harvest
