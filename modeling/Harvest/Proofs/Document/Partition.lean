import Mathlib
import Harvest.Proofs.Document.Axis

/-!
# The axes divide the document

Seen from a node, every other node is above it, below it, to the left of it or to the right.  Which
of these it is can be read off the two addresses: one continues the other, or they part at some node
and go on to different children of it.  So the axes that lead to each of these meet every node of
the document once, and looking back along an axis one sees the node that one started from.
-/

namespace Harvest

/-- Whether an address leads further to the left than another: where the two part, it goes on to an
earlier child. -/
def Path.LeftOf : Path → Path → Prop
  | i :: p, j :: q => i < j ∨ i = j ∧ LeftOf p q
  | _, _ => False

namespace Tree

variable {t u : Tree} {here path q : Path}

/-! ## Each address once -/

/-- The walk over siblings meets what lies in each of them. -/
theorem mem_pathsFrom_iff {i : Nat} {ts : List Tree} :
    q ∈ pathsFrom here i ts ↔
      ∃ j r, q = here ++ (i + j) :: r ∧ ∃ u, ts[j]? = some u ∧ (u.at? r).isSome := by
  rw [mem_pathsFrom]
  constructor
  · rintro ⟨j, u, child, inside⟩
    obtain ⟨r, rfl, found⟩ := mem_paths.mp inside
    exact ⟨j, r, by simp, u, child, found⟩
  · rintro ⟨j, r, rfl, u, child, found⟩
    exact ⟨j, u, child, mem_paths.mpr ⟨r, by simp, found⟩⟩

theorem nodup_pathsFrom {ts : List Tree} (each : ∀ t ∈ ts, ∀ here, (t.paths here).Nodup) (i : Nat) :
    (pathsFrom here i ts).Nodup := by
  induction ts generalizing i with
  | nil => exact .nil
  | cons t ts ih =>
      rw [pathsFrom, List.nodup_append]
      refine ⟨each t (.head ts) _, ih (fun u member => each u (.tail t member)) (i + 1), ?_⟩
      rintro p first q second rfl
      obtain ⟨r, rfl, -⟩ := mem_paths.mp first
      obtain ⟨j, s, same, -⟩ := mem_pathsFrom_iff.mp second
      rw [List.append_assoc, List.append_cancel_left_eq] at same
      obtain ⟨index, -⟩ := List.cons.inj same
      omega

/-- The walk down meets no node twice. -/
theorem nodup_paths (t : Tree) (here : Path) : (t.paths here).Nodup := by
  induction t using inductionOn generalizing here with
  | node content children ih =>
      refine List.nodup_cons.mpr ⟨fun below => ?_, nodup_pathsFrom ih 0⟩
      obtain ⟨j, r, same, -⟩ := mem_pathsFrom_iff.mp below
      simp at same

/-! ## Parts of a walk -/

theorem pathsFrom_concat (here : Path) (i : Nat) (ts us : List Tree) :
    pathsFrom here i (ts ++ us) = pathsFrom here i ts ++ pathsFrom here (i + ts.length) us := by
  induction ts generalizing i with
  | nil => rfl
  | cons t ts ih =>
      rw [List.cons_append, pathsFrom, pathsFrom, ih, List.append_assoc, List.length_cons,
        Nat.add_right_comm, Nat.add_assoc i]

/-- The walk over the children of a node, cut up around one of them. -/
theorem pathsFrom_split {i : Nat} {children : List Tree} (child : children[i]? = some u) :
    pathsFrom here 0 children =
      pathsFrom here 0 (children.take i) ++
        (u.paths (here ++ [i]) ++ pathsFrom here (i + 1) (children.drop (i + 1))) := by
  obtain ⟨inside, own⟩ := List.getElem?_eq_some_iff.mp child
  have length : (children.take i).length = i := List.length_take_of_le inside.le
  calc
    pathsFrom here 0 children = pathsFrom here 0 (children.take i ++ children.drop i) := by
      rw [List.take_append_drop]
    _ = pathsFrom here 0 (children.take i) ++ pathsFrom here i (children.drop i) := by
      rw [pathsFrom_concat, length, Nat.zero_add]
    _ = _ := by rw [List.drop_eq_getElem_cons inside, own, pathsFrom]

/-- The walk down from `here` meets the nodes above a node, those to the left of it, the node itself
with those below it, and those to the right of it. -/
theorem paths_perm (found : t.at? path = some u) :
    (t.paths here).Perm ((Path.above path).map (here ++ ·) ++ t.before here path ++
      (u.paths (here ++ path) ++ t.after here path)) := by
  induction path generalizing t here with
  | nil =>
      obtain rfl : t = u := by simpa using found
      simp [Path.above, before, after]
  | cons i path ih =>
      obtain ⟨content, children⟩ := t
      rw [at?_cons, Option.bind_eq_some_iff] at found
      obtain ⟨v, child, found⟩ := found
      have inside : (v.paths (here ++ [i])).Perm _ := ih found
      rw [← List.append_cons] at inside
      have above : (Path.above (i :: path)).map (here ++ ·) =
          here :: (Path.above path).map (here ++ [i] ++ ·) := by
        simp [Path.above, Function.comp_def]
      rw [paths, pathsFrom_split child, above, before, after, child]
      generalize (Path.above path).map (here ++ [i] ++ ·) = inner at *
      generalize pathsFrom here 0 (children.take i) = left
      generalize pathsFrom here (i + 1) (children.drop (i + 1)) = right
      -- those above the node, other than the one at the top, stand behind what is left of the child
      calc
        (here :: (left ++ (v.paths (here ++ [i]) ++ right))).Perm
            (here :: (left ++ (inner ++ v.before (here ++ [i]) path ++
              (u.paths (here ++ i :: path) ++ v.after (here ++ [i]) path) ++ right))) :=
          ((inside.append_right right).append_left left).cons here
        _ = here :: (left ++ inner ++ (v.before (here ++ [i]) path ++
              (u.paths (here ++ i :: path) ++ (v.after (here ++ [i]) path ++ right)))) := by
          simp only [List.append_assoc]
        List.Perm _ (here :: (inner ++ left ++ (v.before (here ++ [i]) path ++
              (u.paths (here ++ i :: path) ++ (v.after (here ++ [i]) path ++ right))))) :=
          (List.perm_append_comm.append_right _).cons here
        _ = _ := by simp only [List.append_assoc, List.cons_append]

/-! ## To the left and to the right -/

theorem append_mem_pathsFrom_iff {i : Nat} {ts : List Tree} :
    here ++ q ∈ pathsFrom here i ts ↔
      ∃ j r, q = (i + j) :: r ∧ ∃ u, ts[j]? = some u ∧ (u.at? r).isSome := by
  simp only [mem_pathsFrom_iff, List.append_cancel_left_eq]

/-- What comes after a node, other than what is below it, is what the node is to the left of. -/
theorem mem_after_iff (found : (t.at? path).isSome) :
    here ++ q ∈ t.after here path ↔ path.LeftOf q ∧ (t.at? q).isSome := by
  induction path generalizing t here q with
  | nil => simp [after, Path.LeftOf]
  | cons i path ih =>
      obtain ⟨content, children⟩ := t
      rw [at?_cons, Option.isSome_bind, Option.any_eq_true] at found
      obtain ⟨v, child, found⟩ := found
      have within (r : Path) : here ++ i :: r ∈ v.after (here ++ [i]) path ↔
          Path.LeftOf path r ∧ (v.at? r).isSome := by
        rw [List.append_cons here i r, ih found]
      rw [after, child]
      dsimp only
      rw [List.mem_append, append_mem_pathsFrom_iff]
      constructor
      · rintro (inside | ⟨j, r, rfl, u, later, present⟩)
        · obtain ⟨r, same, present⟩ := isSome_at?_of_mem_after inside
          obtain rfl : q = i :: r := by simpa using same
          exact ⟨.inr ⟨rfl, ((within r).mp inside).1⟩, by simpa [child] using present⟩
        · rw [List.getElem?_drop] at later
          exact ⟨.inl (by omega), by simpa [later] using present⟩
      · rintro ⟨left, present⟩
        cases q with
        | nil => cases left
        | cons j r =>
            rcases left with less | ⟨rfl, left⟩
            · obtain ⟨k, rfl⟩ := Nat.exists_eq_add_of_le less
              rw [at?_cons, Option.isSome_bind, Option.any_eq_true] at present
              obtain ⟨u, later, present⟩ := present
              exact .inr ⟨k, r, rfl, u, by rwa [List.getElem?_drop], present⟩
            · exact .inl ((within r).mpr ⟨left, by simpa [child] using present⟩)

/-- What comes before a node, other than what is above it, is what is to the left of the node. -/
theorem mem_before_iff (found : (t.at? path).isSome) :
    here ++ q ∈ t.before here path ↔ q.LeftOf path ∧ (t.at? q).isSome := by
  induction path generalizing t here q with
  | nil => cases q <;> simp [before, Path.LeftOf]
  | cons i path ih =>
      obtain ⟨content, children⟩ := t
      rw [at?_cons, Option.isSome_bind, Option.any_eq_true] at found
      obtain ⟨v, child, found⟩ := found
      have within (r : Path) : here ++ i :: r ∈ v.before (here ++ [i]) path ↔
          Path.LeftOf r path ∧ (v.at? r).isSome := by
        rw [List.append_cons here i r, ih found]
      rw [before, child]
      dsimp only
      rw [List.mem_append, append_mem_pathsFrom_iff]
      constructor
      · rintro (⟨j, r, rfl, u, earlier, present⟩ | inside)
        · rw [List.getElem?_take, Option.ite_none_right_eq_some] at earlier
          exact ⟨.inl (by omega), by simpa [earlier.2] using present⟩
        · obtain ⟨r, same, present⟩ := isSome_at?_of_mem_before inside
          obtain rfl : q = i :: r := by simpa using same
          exact ⟨.inr ⟨rfl, ((within r).mp inside).1⟩, by simpa [child] using present⟩
      · rintro ⟨left, present⟩
        cases q with
        | nil => cases left
        | cons j r =>
            rcases left with less | ⟨rfl, left⟩
            · rw [at?_cons, Option.isSome_bind, Option.any_eq_true] at present
              obtain ⟨u, earlier, present⟩ := present
              refine .inl ⟨j, r, by rw [Nat.zero_add], u, ?_, present⟩
              rwa [List.getElem?_take, if_pos less]
            · exact .inr ((within r).mpr ⟨left, by simpa [child] using present⟩)

end Tree

/-! ## Axes -/

namespace Document

variable {doc : Document} {n m : Path}

/-- Whether every node of the document, attributes apart, is in one of some lists, and in one only,
and there once. -/
structure IsPartition (doc : Document) (parts : List (List Place)) : Prop where
  once : ∀ part ∈ parts, part.Nodup
  apart : parts.Pairwise List.Disjoint
  whole : ∀ p, (∃ part ∈ parts, p ∈ part) ↔ p.index = none ∧ doc.Holds p

/-- Lists are a partition of the document if they are made of the walk through the whole of it. -/
theorem isPartition_of_perm {parts : List (List Path)}
    (perm : (doc.root.paths []).Perm parts.flatten) :
    doc.IsPartition (parts.map (List.map .ofPath)) := by
  have injective : Function.Injective Place.ofPath := fun p q same => (Place.mk.inj same).1
  have distinct : (parts.map (List.map Place.ofPath)).flatten.Nodup := by
    rw [← List.map_flatten]
    exact ((perm.nodup_iff.mp (doc.root.nodup_paths [])).map injective)
  obtain ⟨once, apart⟩ := List.nodup_flatten.mp distinct
  refine ⟨once, apart, fun p => ?_⟩
  rw [← List.mem_flatten, ← List.map_flatten, List.mem_map]
  constructor
  · rintro ⟨q, member, rfl⟩
    obtain ⟨r, rfl, found⟩ := Tree.mem_paths.mp (perm.mem_iff.mpr member)
    exact ⟨rfl, holds_ofPath.mpr found⟩
  · rintro ⟨none, present⟩
    obtain ⟨path, index⟩ := p
    obtain rfl : index = Option.none := none
    exact ⟨path, perm.mem_iff.mp (Tree.mem_paths.mpr ⟨path, rfl, holds_ofPath.mp present⟩), rfl⟩

theorem paths_eq_cons_below {u : Tree} (here : doc.node? n = some u) :
    u.paths n = n :: doc.below n := by
  obtain ⟨content, children⟩ := u
  rw [below, subtree, here, Option.map_some, Option.getD_some, Tree.paths, List.drop_one,
    List.tail_cons]

theorem mem_below_iff : m ∈ doc.below n ↔ (doc.node? m).isSome ∧ ∃ i r, m = n ++ i :: r := by
  rw [node?]
  cases here : doc.root.at? n with
  | none =>
      have nothing : doc.below n = [] := by rw [below, subtree, node?, here]; rfl
      rw [nothing]
      refine ⟨fun member => absurd member List.not_mem_nil, ?_⟩
      rintro ⟨present, i, r, rfl⟩
      rw [Tree.at?_append, here] at present
      cases present
  | some u =>
      obtain ⟨content, children⟩ := u
      have below : doc.below n = Tree.pathsFrom n 0 children := by
        rw [below, subtree, node?, here]
        rfl
      rw [below, Tree.mem_pathsFrom_iff]
      constructor
      · rintro ⟨j, r, rfl, u, child, found⟩
        refine ⟨?_, 0 + j, r, rfl⟩
        simpa [Tree.at?_append, here, child] using found
      · rintro ⟨present, i, r, rfl⟩
        rw [Tree.at?_append, here, Option.bind_some, Tree.at?_cons, Option.isSome_bind,
          Option.any_eq_true] at present
        obtain ⟨u, child, found⟩ := present
        exact ⟨i, r, by rw [Nat.zero_add], u, child, found⟩

theorem mem_subtree_iff : m ∈ doc.subtree n ↔ (doc.node? m).isSome ∧ ∃ r, m = n ++ r := by
  rw [subtree, node?, node?]
  cases here : doc.root.at? n with
  | none =>
      refine ⟨fun member => absurd member List.not_mem_nil, ?_⟩
      rintro ⟨present, r, rfl⟩
      rw [Tree.at?_append, here] at present
      cases present
  | some u =>
      rw [Option.map_some, Option.getD_some, Tree.mem_paths]
      constructor
      · rintro ⟨r, rfl, found⟩
        exact ⟨by rwa [Tree.at?_append, here], r, rfl⟩
      · rintro ⟨present, r, rfl⟩
        rw [Tree.at?_append, here] at present
        exact ⟨r, rfl, present⟩

theorem mem_childPaths_iff :
    m ∈ doc.childPaths n ↔ (doc.node? m).isSome ∧ ∃ i, m = n ++ [i] := by
  constructor
  · intro member
    obtain ⟨i, -, same⟩ := List.mem_map.mp member
    exact ⟨isSome_node?_of_mem_childPaths member, i, same.symm⟩
  · rintro ⟨present, i, rfl⟩
    rw [node?, Tree.at?_append] at present
    cases here : doc.root.at? n with
    | none =>
        rw [here] at present
        cases present
    | some u =>
        obtain ⟨content, children⟩ := u
        have inside : i < children.length := by simpa [here] using present
        rw [childPaths, node?, here]
        exact List.mem_map.mpr ⟨i, List.mem_range.mpr inside, rfl⟩

/-- What is below a node are the children of the node and of what is below it. -/
theorem mem_below_iff_exists_childPaths :
    m ∈ doc.below n ↔ ∃ q ∈ doc.subtree n, m ∈ doc.childPaths q := by
  simp only [mem_below_iff, mem_subtree_iff, mem_childPaths_iff]
  constructor
  · rintro ⟨present, i, r, rfl⟩
    obtain ⟨front, last, same⟩ : ∃ front last, i :: r = front ++ [last] :=
      ⟨_, _, (List.dropLast_append_getLast (List.cons_ne_nil i r)).symm⟩
    rw [same, ← List.append_assoc] at present ⊢
    exact ⟨n ++ front, ⟨isSome_node?_of_append present, front, rfl⟩, present, last, rfl⟩
  · rintro ⟨q, ⟨-, r, rfl⟩, present, i, rfl⟩
    refine ⟨present, ?_⟩
    cases r with
    | nil => exact ⟨i, [], by rw [List.append_nil]⟩
    | cons j r => exact ⟨j, r ++ [i], by rw [List.append_assoc, List.cons_append]⟩

/-- Seen from any place, attributes included, what is below it are the children of the place and of
what is below it. -/
theorem mem_along_descendant_iff {place p : Place} :
    p ∈ doc.along place .descendant ↔
      ∃ q ∈ doc.along place .descendantOrSelf, p ∈ doc.along q .child := by
  obtain ⟨path, index⟩ := place
  cases index with
  | some i => simp [along]
  | none =>
      simp only [along, Option.isSome_none, Bool.false_eq_true, if_false, List.mem_map,
        exists_exists_and_eq_and, Place.ofPath, mem_below_iff_exists_childPaths]
      constructor
      · rintro ⟨m, ⟨q, inside, child⟩, rfl⟩
        exact ⟨q, inside, m, child, rfl⟩
      · rintro ⟨q, inside, m, child, rfl⟩
        exact ⟨m, ⟨q, inside, child⟩, rfl⟩

/-- The document from a node: what is above it and to the left of it, the node and what is below it,
and what is to the right of it. -/
theorem paths_root_perm (present : (doc.node? n).isSome) :
    (doc.root.paths []).Perm (Path.above n ++ doc.root.before [] n ++
      (n :: doc.below n ++ doc.root.after [] n)) := by
  obtain ⟨u, here⟩ := Option.isSome_iff_exists.mp present
  have walk : (doc.root.paths []).Perm _ := Tree.paths_perm here
  simpa [paths_eq_cons_below here] using walk

/-- Lists are a partition of the document if they only arrange anew what there is around a node. -/
theorem isPartition_around {parts : List (List Path)} (present : (doc.node? n).isSome)
    (same : ∀ p, (Path.above n ++ doc.root.before [] n ++
      (n :: doc.below n ++ doc.root.after [] n)).count p = parts.flatten.count p) :
    doc.IsPartition (parts.map (List.map .ofPath)) :=
  isPartition_of_perm ((paths_root_perm present).trans (List.perm_iff_count.mpr same))

/-- Seen from a node, the nodes of the document are the node itself, those above it, those below it,
those before it and those after it: each node is one of these, and one only.  The node is after
those that are before it and below those that are above it.  Seen from an attribute, its element and
what is above that are above, and the same nodes are before as seen from the element; what is below
the element is after the attribute, with what is after the element. -/
theorem along_partition (doc : Document) :
    (∀ n, (doc.node? n).isSome →
      doc.IsPartition ([.self, .ancestor, .descendant, .preceding, .following].map
        (doc.along (.ofPath n)))) ∧
    (∀ n m, (doc.node? n).isSome → (doc.node? m).isSome →
      (.ofPath m ∈ doc.along (.ofPath n) .following ↔
        .ofPath n ∈ doc.along (.ofPath m) .preceding) ∧
      (.ofPath m ∈ doc.along (.ofPath n) .descendant ↔
        .ofPath n ∈ doc.along (.ofPath m) .ancestor)) ∧
    ∀ e i, doc.Holds ⟨e, some i⟩ →
      doc.along ⟨e, some i⟩ .ancestor = doc.along (.ofPath e) .ancestor ++ [.ofPath e] ∧
      doc.along ⟨e, some i⟩ .preceding = doc.along (.ofPath e) .preceding ∧
      doc.along ⟨e, some i⟩ .following =
        doc.along (.ofPath e) .descendant ++ doc.along (.ofPath e) .following ∧
      doc.IsPartition ([.ancestor, .preceding, .following].map (doc.along ⟨e, some i⟩)) := by
  refine ⟨fun n present => ?_, fun n m here there => ⟨?_, ?_⟩, fun e i present =>
    ⟨?_, rfl, ?_, ?_⟩⟩
  · have parts : doc.IsPartition ([[n], Path.above n, doc.below n, doc.root.before [] n,
        doc.root.after [] n].map (List.map .ofPath)) := by
      refine isPartition_around present fun p => ?_
      simp only [List.flatten_cons, List.flatten_nil, List.count_append, List.count_cons,
        List.count_nil]
      omega
    simpa [along, along.ancestors, Place.ofPath] using parts
  · have after : m ∈ doc.root.after [] n ↔ Path.LeftOf n m ∧ (doc.node? m).isSome :=
      Tree.mem_after_iff here
    have before : n ∈ doc.root.before [] m ↔ Path.LeftOf n m ∧ (doc.node? n).isSome :=
      Tree.mem_before_iff there
    simp [along, Place.ofPath, after, before, here, there]
  · have below : m ∈ doc.below n ↔ _ := mem_below_iff
    simp [along, along.ancestors, Place.ofPath, below, Path.mem_above, there]
  · simp [along, along.ancestors, Place.ofPath]
  · simp [along, Place.ofPath]
  · have parts : doc.IsPartition ([Path.above e ++ [e], doc.root.before [] e,
        doc.below e ++ doc.root.after [] e].map (List.map .ofPath)) := by
      -- the element itself is above its attribute, and what is below it comes after
      refine isPartition_around present.isSome_node? fun p => ?_
      simp only [List.flatten_cons, List.flatten_nil, List.count_append, List.count_cons,
        List.count_nil]
      omega
    simpa [along, along.ancestors, Place.ofPath] using parts

/-- A list between two comments, with an attribute and an item that holds a text. -/
def framedDocument : Document :=
  ⟨.node .document
    [.node (.comment "a") [],
     .node (.element .html "ul" [⟨"id", "m", none⟩])
      [.node (.element .html "li" []) [.node (.text "x") []], .node (.text "y") []],
     .node (.comment "b") []]⟩

theorem along_partition_framedDocument :
    (framedDocument.node? [1, 0]).isSome ∧ (framedDocument.node? [2]).isSome ∧
    framedDocument.Holds ⟨[1], some 0⟩ ∧
    [Axis.self, .ancestor, .descendant, .preceding, .following].map
      (framedDocument.along (.ofPath [1, 0])) =
        [[.ofPath [1, 0]], [.ofPath [], .ofPath [1]], [.ofPath [1, 0, 0]], [.ofPath [0]],
          [.ofPath [1, 1], .ofPath [2]]] ∧
    framedDocument.IsPartition ([.self, .ancestor, .descendant, .preceding, .following].map
      (framedDocument.along (.ofPath [1, 0]))) ∧
    (.ofPath [2] ∈ framedDocument.along (.ofPath [1, 0]) .following ↔
      .ofPath [1, 0] ∈ framedDocument.along (.ofPath [2]) .preceding) ∧
    framedDocument.IsPartition ([.ancestor, .preceding, .following].map
      (framedDocument.along ⟨[1], some 0⟩)) := by
  have present : framedDocument.Holds ⟨[1], some 0⟩ :=
    ⟨_, rfl, by simp [Tree.content, Content.attributes]⟩
  obtain ⟨nodes, converse, attributes⟩ := along_partition framedDocument
  exact ⟨rfl, rfl, present, by decide, nodes [1, 0] rfl, (converse [1, 0] [2] rfl rfl).1,
    (attributes [1] 0 present).2.2.2⟩

end Document

end Harvest
