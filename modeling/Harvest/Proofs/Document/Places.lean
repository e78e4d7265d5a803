import Harvest.Proofs.Document.Order

/-!
# The places of a document

`Tree.places` lists the nodes of a tree and their attributes as a reader of the markup meets them:
an element, then its attributes, then what is inside it.  The list holds exactly the places that
exist, and it is strictly increasing in document order.  A node-set is an increasing list of
existing places, which is to say a part of that list.
-/

namespace Harvest

namespace Tree

/-- What holds of a node if it holds of its children holds of all nodes. -/
theorem inductionOn {motive : Tree → Prop} (t : Tree)
    (node : ∀ content children, (∀ c ∈ children, motive c) → motive (node content children)) :
    motive t :=
  match t with
  | .node content children =>
      node content children fun c _ => inductionOn c node

/-! ## Addresses -/

@[simp] theorem at?_nil (t : Tree) : t.at? [] = some t := by
  cases t
  rfl

@[simp] theorem at?_cons (content : Content) (children : List Tree) (i : Nat) (path : Path) :
    (node content children).at? (i :: path) = children[i]?.bind fun c => c.at? path := by
  rw [at?]
  cases children[i]? <;> rfl

theorem at?_append (t : Tree) (p q : Path) : t.at? (p ++ q) = (t.at? p).bind fun u => u.at? q := by
  induction p generalizing t with
  | nil => simp
  | cons i p ih =>
      cases t with
      | node content children =>
          simp only [List.cons_append, at?_cons, Option.bind_assoc, ih]

/-- What stands above an existing node exists. -/
theorem isSome_at?_of_append {t : Tree} {p q : Path} (found : (t.at? (p ++ q)).isSome) :
    (t.at? p).isSome := by
  rw [at?_append] at found
  cases above : t.at? p with
  | none => simp [above] at found
  | some u => rfl

/-- Whether there is a node at the address of a place and, if the place is an attribute, whether
the node has so many. -/
def Holds (t : Tree) (p : Place) : Prop :=
  ∃ u, t.at? p.path = some u ∧ ∀ i ∈ p.index, i < u.content.attributes.length

theorem holds_ofPath {t : Tree} {path : Path} : t.Holds (.ofPath path) ↔ (t.at? path).isSome := by
  simp [Holds, Place.ofPath, Option.isSome_iff_exists]

end Tree

namespace Place

/-- The place whose address goes through the child with index `i` first. -/
def under (i : Nat) (p : Place) : Place := ⟨i :: p.path, p.index⟩

theorem before_under_iff {i : Nat} {p q : Place} :
    Before (under i p) (under i q) ↔ Before p q := by
  simp [Before, compare, under, Path.compare]

theorem before_under_of_lt {i j : Nat} (less : i < j) (p q : Place) :
    Before (under i p) (under j q) := by
  have order : Ord.compare i j = .lt := Nat.compare_eq_lt.mpr less
  simp [Before, compare, under, Path.compare, order]

theorem root_before_attribute (i : Nat) : Before root ⟨[], some i⟩ := rfl

theorem attribute_before_attribute {i j : Nat} (less : i < j) :
    Before ⟨[], some i⟩ ⟨[], some j⟩ := by
  simpa [Before, compare, Path.compare, compareIndex] using Nat.compare_eq_lt.mpr less

theorem before_under (index : Option Nat) (i : Nat) (p : Place) :
    Before ⟨[], index⟩ (under i p) := rfl

end Place

/-! ## The list of places -/

namespace Tree

/-- The places of the attributes of the node at the top. -/
def attributePlaces (content : Content) : List Place :=
  (List.range content.attributes.length).map fun i => ⟨[], some i⟩

mutual

/-- The places of a tree: the node, its attributes, and the places of its children. -/
def places : Tree → List Place
  | node content children => .root :: (attributePlaces content ++ placesFrom 0 children)

/-- The places of siblings, the first of which has index `i`. -/
def placesFrom (i : Nat) : List Tree → List Place
  | [] => []
  | t :: ts => t.places.map (Place.under i) ++ placesFrom (i + 1) ts

end

theorem mem_attributePlaces {content : Content} {p : Place} :
    p ∈ attributePlaces content ↔
      p.path = [] ∧ ∃ i, p.index = some i ∧ i < content.attributes.length := by
  simp only [attributePlaces, List.mem_map, List.mem_range]
  constructor
  · rintro ⟨i, inside, rfl⟩
    exact ⟨rfl, i, rfl, inside⟩
  · rintro ⟨top, i, index, inside⟩
    refine ⟨i, inside, ?_⟩
    rw [← top, ← index]

theorem mem_placesFrom {i : Nat} {ts : List Tree} {p : Place} :
    p ∈ placesFrom i ts ↔ ∃ j u q, ts[j]? = some u ∧ q ∈ u.places ∧ p = .under (i + j) q := by
  induction ts generalizing i with
  | nil => simp [placesFrom]
  | cons t ts ih =>
      rw [placesFrom, List.mem_append, List.mem_map, ih]
      constructor
      · rintro (⟨q, inside, rfl⟩ | ⟨j, u, q, child, inside, rfl⟩)
        · exact ⟨0, t, q, rfl, inside, rfl⟩
        · exact ⟨j + 1, u, q, by simpa using child, inside, by rw [Nat.add_right_comm]; rfl⟩
      · rintro ⟨j, u, q, child, inside, rfl⟩
        cases j with
        | zero =>
            obtain rfl : t = u := by simpa using child
            exact .inl ⟨q, inside, rfl⟩
        | succ j =>
            exact .inr ⟨j, u, q, by simpa using child, inside, by rw [Nat.add_right_comm]; rfl⟩

/-- The list of places holds exactly the places that exist. -/
theorem mem_places {t : Tree} {p : Place} : p ∈ t.places ↔ t.Holds p := by
  obtain ⟨path, index⟩ := p
  induction path generalizing t with
  | nil =>
      cases t with
      | node content children =>
          have notBelow : (⟨[], index⟩ : Place) ∉ placesFrom 0 children := by
            simp [mem_placesFrom, Place.under]
          cases index with
          | none => simp [places, Place.root, Place.ofPath, Holds]
          | some i =>
              simp [places, notBelow, mem_attributePlaces, Place.root, Place.ofPath, Holds,
                Tree.content]
  | cons i path ih =>
      cases t with
      | node content children =>
          have notTop : (⟨i :: path, index⟩ : Place) ∉ attributePlaces content := by
            simp [mem_attributePlaces]
          have below : (⟨i :: path, index⟩ : Place) ∈ (node content children).places ↔
              ∃ u, children[i]? = some u ∧ ⟨path, index⟩ ∈ u.places := by
            simp only [places, List.mem_cons, List.mem_append, notTop, mem_placesFrom, Place.under]
            constructor
            · rintro (top | impossible | ⟨j, u, q, child, inside, same⟩)
              · cases top
              · exact impossible.elim
              · obtain ⟨⟨rfl, rfl⟩, rfl⟩ : (i = 0 + j ∧ path = q.path) ∧ index = q.index := by
                  simpa using same
                exact ⟨u, by simpa using child, inside⟩
            · rintro ⟨u, child, inside⟩
              exact .inr (.inr ⟨i, u, ⟨path, index⟩, child, inside, by simp⟩)
          rw [below]
          simp only [Holds, at?_cons, Option.bind_eq_some_iff]
          constructor
          · rintro ⟨u, child, inside⟩
            obtain ⟨v, found, few⟩ := ih.mp inside
            exact ⟨v, ⟨u, child, found⟩, few⟩
          · rintro ⟨v, ⟨u, child, found⟩, few⟩
            exact ⟨u, child, ih.mpr ⟨v, found, few⟩⟩

theorem pairwise_attributePlaces (content : Content) :
    (attributePlaces content).Pairwise Place.Before :=
  List.pairwise_map.mpr (List.pairwise_lt_range.imp Place.attribute_before_attribute)

theorem pairwise_placesFrom {ts : List Tree} (each : ∀ t ∈ ts, t.places.Pairwise Place.Before)
    (i : Nat) : (placesFrom i ts).Pairwise Place.Before := by
  induction ts generalizing i with
  | nil => exact .nil
  | cons t ts ih =>
      rw [placesFrom, List.pairwise_append]
      refine ⟨?_, ih (fun u member => each u (.tail t member)) (i + 1), ?_⟩
      · exact List.pairwise_map.mpr
          ((each t (.head ts)).imp Place.before_under_iff.mpr)
      · intro p first q second
        obtain ⟨p, -, rfl⟩ := List.mem_map.mp first
        obtain ⟨j, u, q, -, -, rfl⟩ := mem_placesFrom.mp second
        exact Place.before_under_of_lt (by omega) p q

/-- The list of places is in document order. -/
theorem pairwise_places (t : Tree) : t.places.Pairwise Place.Before := by
  induction t using inductionOn with
  | node content children ih =>
      rw [places, List.pairwise_cons, List.pairwise_append]
      refine ⟨?_, pairwise_attributePlaces content, pairwise_placesFrom ih 0, ?_⟩
      · intro p member
        rcases List.mem_append.mp member with own | below
        · obtain ⟨i, -, rfl⟩ := List.mem_map.mp own
          exact Place.root_before_attribute i
        · obtain ⟨j, u, q, -, -, rfl⟩ := mem_placesFrom.mp below
          exact Place.before_under none _ q
      · intro p own q below
        obtain ⟨i, -, rfl⟩ := List.mem_map.mp own
        obtain ⟨j, u, q, -, -, rfl⟩ := mem_placesFrom.mp below
        exact Place.before_under (some i) _ q

end Tree

/-! ## Node-sets -/

namespace Document

/-- The places of a document in document order. -/
def places (doc : Document) : List Place := doc.root.places

/-- Whether a place exists in a document. -/
def Holds (doc : Document) (p : Place) : Prop := doc.root.Holds p

theorem mem_places {doc : Document} {p : Place} : p ∈ doc.places ↔ doc.Holds p := Tree.mem_places

theorem pairwise_places (doc : Document) : doc.places.Pairwise Place.Before :=
  doc.root.pairwise_places

/-- A list of nodes as queries select it: in document order, each node once, and all of them nodes
of the document. -/
structure IsNodeSet (doc : Document) (ps : List Place) : Prop where
  increasing : ps.Pairwise Place.Before
  present : ∀ p ∈ ps, doc.Holds p

/-- A node-set is what is left of the places of the document when some are crossed out. -/
theorem isNodeSet_iff_sublist {doc : Document} {ps : List Place} :
    doc.IsNodeSet ps ↔ ps.Sublist doc.places := by
  constructor
  · intro set
    exact Place.sublist_of_subset set.increasing doc.pairwise_places
      fun p member => mem_places.mpr (set.present p member)
  · intro part
    exact ⟨doc.pairwise_places.sublist part, fun p member => mem_places.mp (part.mem member)⟩

namespace IsNodeSet

variable {doc : Document} {ps qs : List Place}

theorem nil : doc.IsNodeSet [] := ⟨.nil, by simp⟩

theorem singleton {p : Place} (present : doc.Holds p) : doc.IsNodeSet [p] :=
  ⟨List.pairwise_singleton _ p, by simpa using present⟩

theorem sublist (set : doc.IsNodeSet qs) (part : ps.Sublist qs) : doc.IsNodeSet ps :=
  ⟨set.increasing.sublist part, fun p member => set.present p (part.mem member)⟩

theorem sort (present : ∀ p ∈ ps, doc.Holds p) : doc.IsNodeSet (Place.sort ps) :=
  ⟨Place.pairwise_sort ps, fun p member => present p (Place.mem_sort.mp member)⟩

end IsNodeSet

end Document

end Harvest
