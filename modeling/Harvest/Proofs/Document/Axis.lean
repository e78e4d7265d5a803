import Harvest.Document.Axis
import Harvest.Proofs.Document.Places

/-!
# What lies along an axis

Walks along an axis never leave the document: from a place that exists every axis leads to places
that exist.  The walks down and to the side collect addresses below the one they start at, so each
of them is described by the address that is added.
-/

namespace Harvest

namespace Tree

/-! ## Walks down -/

theorem mem_pathsFrom {here q : Path} {i : Nat} {ts : List Tree} :
    q ∈ pathsFrom here i ts ↔
      ∃ (j : Nat) (u : Tree), ts[j]? = some u ∧ q ∈ u.paths (here ++ [i + j]) := by
  induction ts generalizing i with
  | nil => simp [pathsFrom]
  | cons t ts ih =>
      rw [pathsFrom, List.mem_append, ih]
      constructor
      · rintro (inside | ⟨j, u, child, inside⟩)
        · exact ⟨0, t, rfl, inside⟩
        · exact ⟨j + 1, u, by simpa using child, by rwa [← Nat.add_assoc, Nat.add_right_comm]⟩
      · rintro ⟨j, u, child, inside⟩
        cases j with
        | zero =>
            obtain rfl : t = u := by simpa using child
            exact .inl inside
        | succ j =>
            refine .inr ⟨j, u, by simpa using child, ?_⟩
            rwa [Nat.add_right_comm, Nat.add_assoc]

/-- The walk down from `here` meets exactly the nodes below it. -/
theorem mem_paths {t : Tree} {here q : Path} :
    q ∈ t.paths here ↔ ∃ r, q = here ++ r ∧ (t.at? r).isSome := by
  induction t using inductionOn generalizing here q with
  | node content children ih =>
      rw [paths, List.mem_cons, mem_pathsFrom]
      constructor
      · rintro (rfl | ⟨j, u, child, inside⟩)
        · exact ⟨[], by simp, by simp⟩
        · obtain ⟨r, rfl, found⟩ := (ih u (List.mem_of_getElem? child)).mp inside
          exact ⟨j :: r, by simp, by simpa [child] using found⟩
      · rintro ⟨r, rfl, found⟩
        cases r with
        | nil => exact .inl (by simp)
        | cons j r =>
            cases child : children[j]? with
            | none => simp [child] at found
            | some u =>
                refine .inr ⟨j, u, child, (ih u (List.mem_of_getElem? child)).mpr ⟨r, ?_, ?_⟩⟩
                · simp
                · simpa [child] using found

/-- What lies in siblings that are children of a node lies below that node. -/
theorem isSome_at?_of_mem_pathsFrom {content : Content} {children ts : List Tree}
    {here q : Path} {i : Nat} (among : ∀ (j : Nat) (u : Tree), ts[j]? = some u → children[i + j]? = some u)
    (member : q ∈ pathsFrom here i ts) :
    ∃ r, q = here ++ r ∧ ((node content children).at? r).isSome := by
  obtain ⟨j, u, child, inside⟩ := mem_pathsFrom.mp member
  obtain ⟨r, rfl, found⟩ := mem_paths.mp inside
  exact ⟨(i + j) :: r, by simp, by simpa [among j u child] using found⟩

/-! ## Walks to the side -/

theorem isSome_at?_of_mem_after {t : Tree} {here path q : Path} (member : q ∈ t.after here path) :
    ∃ r, q = here ++ r ∧ (t.at? r).isSome := by
  induction path generalizing t here with
  | nil =>
      rw [after] at member
      cases member
  | cons i path ih =>
      cases t with
      | node content children =>
          rw [after] at member
          cases child : children[i]? with
          | none => simp [child] at member
          | some u =>
              simp only [child, List.mem_append] at member
              rcases member with inside | beside
              · obtain ⟨r, rfl, found⟩ := ih inside
                exact ⟨i :: r, by simp, by simpa [child] using found⟩
              · refine isSome_at?_of_mem_pathsFrom (fun j u later => ?_) beside
                rwa [List.getElem?_drop] at later

theorem isSome_at?_of_mem_before {t : Tree} {here path q : Path}
    (member : q ∈ t.before here path) : ∃ r, q = here ++ r ∧ (t.at? r).isSome := by
  induction path generalizing t here with
  | nil =>
      rw [before] at member
      cases member
  | cons i path ih =>
      cases t with
      | node content children =>
          rw [before] at member
          cases child : children[i]? with
          | none => simp [child] at member
          | some u =>
              simp only [child, List.mem_append] at member
              rcases member with beside | inside
              · refine isSome_at?_of_mem_pathsFrom (fun j u earlier => ?_) beside
                rw [List.getElem?_take, Option.ite_none_right_eq_some] at earlier
                rw [Nat.zero_add]
                exact earlier.2
              · obtain ⟨r, rfl, found⟩ := ih inside
                exact ⟨i :: r, by simp, by simpa [child] using found⟩

end Tree

/-- The addresses above a node are those that its own continues. -/
theorem Path.mem_above {path q : Path} : q ∈ Path.above path ↔ ∃ i r, path = q ++ i :: r := by
  induction path generalizing q with
  | nil => simp [Path.above]
  | cons i path ih =>
      simp only [Path.above, List.mem_cons, List.mem_map, ih]
      constructor
      · rintro (rfl | ⟨q, ⟨j, r, rfl⟩, rfl⟩)
        · exact ⟨i, path, rfl⟩
        · exact ⟨j, r, rfl⟩
      · rintro ⟨j, r, same⟩
        cases q with
        | nil => exact .inl rfl
        | cons k q =>
            obtain ⟨rfl, rfl⟩ : i = k ∧ path = q ++ j :: r := by simpa using same
            exact .inr ⟨q, ⟨j, r, rfl⟩, rfl⟩

theorem Path.parent?_eq_some {path q : Path} (parent : path.parent? = some q) :
    ∃ i, path = q ++ [i] := by
  rw [Path.parent?] at parent
  split at parent
  · cases parent
  · next nonempty =>
      have nonempty : path ≠ [] := by simpa using nonempty
      obtain rfl : path.dropLast = q := by simpa using parent
      exact ⟨path.getLast nonempty, (List.dropLast_append_getLast nonempty).symm⟩

namespace Document

variable {doc : Document} {place : Place} {path q : Path}

theorem holds_ofPath : doc.Holds (.ofPath path) ↔ (doc.node? path).isSome := Tree.holds_ofPath

/-- The element of an attribute exists. -/
theorem Holds.isSome_node? (present : doc.Holds place) : (doc.node? place.path).isSome := by
  obtain ⟨u, found, -⟩ := present
  exact Option.isSome_iff_exists.mpr ⟨u, found⟩

theorem isSome_node?_of_append (found : (doc.node? (path ++ q)).isSome) :
    (doc.node? path).isSome := Tree.isSome_at?_of_append found

theorem isSome_node?_of_mem_subtree (member : q ∈ doc.subtree path) : (doc.node? q).isSome := by
  rw [subtree] at member
  cases found : doc.node? path with
  | none => simp [found] at member
  | some u =>
      obtain ⟨r, rfl, below⟩ := Tree.mem_paths.mp (by simpa [found] using member)
      rw [node?] at found ⊢
      rwa [Tree.at?_append, found]

theorem isSome_node?_of_mem_childPaths (member : q ∈ doc.childPaths path) :
    (doc.node? q).isSome := by
  simp only [childPaths, List.mem_map, List.mem_range] at member
  obtain ⟨i, inside, rfl⟩ := member
  rw [node?] at inside ⊢
  cases found : doc.root.at? path with
  | none => simp [found] at inside
  | some u =>
      cases u with
      | node content children =>
          have bound : i < children.length := by simpa [found, Tree.children] using inside
          simp [Tree.at?_append, found, bound]

theorem holds_map_ofPath {paths : List Path} (each : ∀ q ∈ paths, (doc.node? q).isSome)
    {p : Place} (member : p ∈ paths.map .ofPath) : doc.Holds p := by
  obtain ⟨q, inside, rfl⟩ := List.mem_map.mp member
  exact holds_ofPath.mpr (each q inside)

theorem isSome_node?_of_mem_below (member : q ∈ doc.below path) : (doc.node? q).isSome :=
  isSome_node?_of_mem_subtree (List.mem_of_mem_drop member)

theorem isSome_node?_of_mem_siblings {chosen : Nat → Nat → Bool}
    (member : q ∈ doc.siblings path chosen) : (doc.node? q).isSome := by
  rw [siblings] at member
  cases last : path.getLast? with
  | none => simp [last] at member
  | some own =>
      rw [last] at member
      exact isSome_node?_of_mem_childPaths (List.mem_filter.mp member).1

theorem holds_of_mem_ancestors (present : doc.Holds place) {p : Place}
    (member : p ∈ along.ancestors place) : doc.Holds p := by
  refine holds_map_ofPath (fun q inside => ?_) member
  rcases List.mem_append.mp inside with above | element
  · obtain ⟨i, r, same⟩ := Path.mem_above.mp above
    have found := present.isSome_node?
    rw [same] at found
    exact isSome_node?_of_append found
  · split at element
    · obtain rfl : q = place.path := by simpa using element
      exact present.isSome_node?
    · cases element

/-- Every axis leads from a place of the document to places of the document. -/
theorem holds_of_mem_along (present : doc.Holds place) {axis : Axis} {p : Place}
    (member : p ∈ doc.along place axis) : doc.Holds p := by
  cases axis with
  | child =>
      rw [along] at member
      split at member
      · cases member
      · exact holds_map_ofPath (fun _ => isSome_node?_of_mem_childPaths) member
  | descendant =>
      rw [along] at member
      split at member
      · cases member
      · exact holds_map_ofPath (fun _ => isSome_node?_of_mem_below) member
  | descendantOrSelf =>
      rw [along] at member
      split at member
      · rwa [List.mem_singleton.mp member]
      · exact holds_map_ofPath (fun _ => isSome_node?_of_mem_subtree) member
  | self => rwa [List.mem_singleton.mp member]
  | parent =>
      rw [along] at member
      split at member
      · rw [List.mem_singleton.mp member]
        exact holds_ofPath.mpr present.isSome_node?
      · refine holds_map_ofPath (fun q inside => ?_) member
        obtain ⟨i, same⟩ := Path.parent?_eq_some (Option.mem_toList.mp inside)
        have found := present.isSome_node?
        rw [same] at found
        exact isSome_node?_of_append found
  | ancestor => exact holds_of_mem_ancestors present member
  | ancestorOrSelf =>
      rcases List.mem_append.mp member with above | self
      · exact holds_of_mem_ancestors present above
      · rwa [List.mem_singleton.mp self]
  | followingSibling =>
      rw [along] at member
      split at member
      · cases member
      · exact holds_map_ofPath (fun _ => isSome_node?_of_mem_siblings) member
  | precedingSibling =>
      rw [along] at member
      split at member
      · cases member
      · exact holds_map_ofPath (fun _ => isSome_node?_of_mem_siblings) member
  | following =>
      rcases List.mem_append.mp member with inside | after
      · refine holds_map_ofPath (fun q inside => ?_) inside
        split at inside
        · exact isSome_node?_of_mem_below inside
        · cases inside
      · refine holds_map_ofPath (fun q inside => ?_) after
        obtain ⟨r, rfl, found⟩ := Tree.isSome_at?_of_mem_after inside
        exact found
  | preceding =>
      refine holds_map_ofPath (fun q inside => ?_) member
      obtain ⟨r, rfl, found⟩ := Tree.isSome_at?_of_mem_before inside
      exact found
  | attributes =>
      obtain ⟨path, index⟩ := place
      cases index with
      | some i => cases member
      | none =>
          obtain ⟨i, inside, rfl⟩ := List.mem_map.mp member
          obtain ⟨u, found, -⟩ := present
          refine ⟨u, found, fun j same => ?_⟩
          obtain rfl : i = j := by simpa using same
          have content : doc.content? path = some u.content := by rw [content?, node?, found]; rfl
          simpa [attributes, content] using inside

end Document

end Harvest
