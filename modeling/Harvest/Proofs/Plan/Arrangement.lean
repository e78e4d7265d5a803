import Mathlib
import Harvest.Proofs.Definition.Address
import Harvest.Proofs.Plan.Filling

/-!
# The arrangement of a table

The table of a definition that compiles has a row for each field of the definition, in the order of
addresses.  What a row says of its children and of its parent is what their addresses say, so the
way from a row to its parent, and on from there, is the way up in the definition.
-/

namespace Harvest.Plan

open Definition (Field)

variable {f g h : Field} {p q c : Plan} {row : Row} {address : List Nat} {id above j k : Nat}

/-! ## Numbers and addresses -/

theorem length_addresses_of_compile (compiled : compile f = .ok p) :
    f.addresses.length = p.size := by
  induction f using Field.inductionOn generalizing p with
  | field f ih =>
      have siblings (k : Nat) (fs : List Field) (ps : List Plan) (each : ∀ g ∈ fs, g ∈ f.fields)
          (compiled : List.Forall₂ (fun g c => compile g = .ok c) fs ps) :
          (Field.addressesFrom k fs).length = sizeAll ps := by
        induction compiled generalizing k with
        | nil => rfl
        | @cons g c fs ps own _ below =>
            rw [Field.addressesFrom, List.length_append, List.length_map,
              ih g (each g (.head fs)) own, below (k + 1) fun h member => each h (.tail g member),
              sizeAll]
      rw [Field.addresses_eq, List.length_cons, size_eq, Nat.add_comm,
        siblings 0 f.fields p.children (fun _ member => member) (compile_eq_ok_iff.mp compiled).2]

/-- There are as many fields in a plan as in the definition. -/
theorem length_flatten_of_compile (compiled : compile f = .ok p) : f.flatten.length = p.size :=
  f.length_addresses ▸ length_addresses_of_compile compiled

/-- The addresses of one field among others are listed where the number of its plan says. -/
theorem addresses_prefix_of_all {whole : List (List Nat)} {start i : Nat} {fs : List Field}
    {ps : List Plan} (compiled : List.Forall₂ (fun g c => compile g = .ok c) fs ps)
    (stand : (Field.addressesFrom i fs).map (address ++ ·) <+: whole.drop start)
    (beside : ps[k]? = some c) :
    ∃ g, fs[k]? = some g ∧ compile g = .ok c ∧
      g.addresses.map (address ++ [i + k] ++ ·) <+: whole.drop (numberOf start ps k) := by
  induction compiled generalizing start i k with
  | nil => cases beside
  | @cons g p fs ps own _ ih =>
      rw [Field.addressesFrom, List.map_append, List.map_map] at stand
      cases k with
      | zero =>
          obtain rfl : p = c := by simpa using beside
          refine ⟨g, rfl, own, ?_⟩
          simpa [Function.comp_def, numberOf, sizeAll] using (List.prefix_append _ _).trans stand
      | succ k =>
          have later := prefix_drop_of_append stand
          rw [List.length_map, length_addresses_of_compile own] at later
          obtain ⟨g, beside', own', part⟩ := ih later beside
          exact ⟨g, beside', own', by rwa [numberOf_cons_succ, ← Nat.add_assoc,
            Nat.add_right_comm]⟩

/-- Whether a field of a definition is what a plan with a number was compiled from: where the number
stands in the list of addresses, those of the field and of the fields below it are listed. -/
structure Placed (f : Field) (id : Nat) (q : Plan) (address : List Nat) (g : Field) : Prop where
  compiled : compile g = .ok q
  found : f.at? address = some g
  part : g.addresses.map (address ++ ·) <+: f.addresses.drop id

theorem Placed.getElem?_addresses (placed : Placed f id q address g) :
    f.addresses[id]? = some address := by
  have part := placed.part
  rw [Field.addresses_eq, List.map_cons, List.append_nil] at part
  exact getElem?_of_cons_prefix part

theorem Placed.getElem?_flatten (placed : Placed f id q address g) : f.flatten[id]? = some g :=
  (Field.getElem?_flatten placed.getElem?_addresses).trans placed.found

theorem Placed.below (placed : Placed f id q address g) (below : q.children[k]? = some c) :
    ∃ h, g.fields[k]? = some h ∧
      Placed f (numberOf (id + 1) q.children k) c (address ++ [k]) h := by
  have part := placed.part
  rw [Field.addresses_eq, List.map_cons] at part
  obtain ⟨h, beside, compiled, part⟩ :=
    addresses_prefix_of_all (compile_eq_ok_iff.mp placed.compiled).2 (prefix_drop_of_cons part)
      below
  refine ⟨h, beside, compiled, ?_, by simpa only [Nat.zero_add] using part⟩
  rw [Field.at?_append, placed.found, Option.bind_some, Field.at?, beside]
  rfl

/-- Each plan in that of a definition was compiled from a field of the definition. -/
theorem Numbered.exists_placed (compiled : compile f = .ok p) (numbered : p.Numbered id q) :
    ∃ address g, Placed f id q address g := by
  induction numbered with
  | root => exact ⟨[], f, compiled, rfl, by simp⟩
  | child _ below ih =>
      obtain ⟨address, g, placed⟩ := ih
      obtain ⟨h, -, placed'⟩ := placed.below below
      exact ⟨_, h, placed'⟩

/-- The children of a row are at the addresses of the fields below its own, in the order in which
these are declared. -/
theorem Placed.children (placed : Placed f id q address g) :
    (siblingIds (id + 1) q.children).map (f.addresses[·]?) =
      (List.range g.fields.length).map fun k => some (address ++ [k]) := by
  have length := (compile_eq_ok_iff.mp placed.compiled).2.length_eq
  refine List.ext_getElem? fun k => ?_
  rw [List.getElem?_map, List.getElem?_map, length]
  cases below : q.children[k]? with
  | none =>
      have outside : q.children.length ≤ k := List.getElem?_eq_none_iff.mp below
      rw [List.getElem?_eq_none (by rwa [length_siblingIds]),
        List.getElem?_eq_none (by rwa [List.length_range])]
      rfl
  | some c =>
      obtain ⟨inside, -⟩ := List.getElem?_eq_some_iff.mp below
      obtain ⟨h, -, placed'⟩ := placed.below below
      rw [getElem?_siblingIds below, List.getElem?_range inside, Option.map_some, Option.map_some,
        placed'.getElem?_addresses]

/-- The field that a row stands for. -/
theorem exists_placed_of_row (compiled : compile f = .ok p) (found : p.rows[id]? = some row) :
    ∃ q address g, p.Numbered id q ∧ Placed f id q address g ∧ row.field = q.field ∧
      row.children = siblingIds (id + 1) q.children := by
  obtain ⟨q, numbered, stands⟩ := exists_stands found
  obtain ⟨address, g, placed⟩ := numbered.exists_placed compiled
  have own := Option.some.inj (found.symm.trans stands.getElem?_rows)
  exact ⟨q, address, g, numbered, placed, congrArg Row.field own, congrArg Row.children own⟩

/-- A number stands for a row if and only if it stands for a field. -/
theorem exists_row_of_address (compiled : compile f = .ok p)
    (numbered : f.addresses[id]? = some address) : ∃ row, p.rows[id]? = some row := by
  obtain ⟨inside, -⟩ := List.getElem?_eq_some_iff.mp numbered
  rw [length_addresses_of_compile compiled, ← length_rows] at inside
  exact ⟨_, List.getElem?_eq_getElem inside⟩

/-! ## The way up -/

/-- The parent of a row has the address without its last step. -/
theorem exists_parent_of_address (compiled : compile f = .ok p) (found : p.rows[id]? = some row)
    (numbered : f.addresses[id]? = some (address ++ [k])) :
    ∃ above, row.parent = some above ∧ f.addresses[above]? = some address := by
  cases parent : row.parent with
  | none =>
      obtain rfl := (parent_eq_none_iff found).mp parent
      simp [Field.addresses_eq] at numbered
  | some above =>
      obtain ⟨other, found', listed⟩ := (parent_eq_some_iff found).mp parent
      obtain ⟨q, address', g, -, placed, -, children⟩ := exists_placed_of_row compiled found'
      have member : f.addresses[id]? ∈ (List.range g.fields.length).map fun k =>
          some (address' ++ [k]) := by
        rw [← placed.children, ← children]
        exact List.mem_map_of_mem listed
      obtain ⟨k', -, same⟩ := List.mem_map.mp member
      rw [numbered] at same
      obtain ⟨rfl, -⟩ := List.append_inj' (Option.some.inj same) rfl
      exact ⟨above, rfl, placed.getElem?_addresses⟩

/-- From a row to its parent, and from no row to none. -/
def ascend (rows : List Row) (id : Option Nat) : Option Nat :=
  id.bind fun id => rows[id]?.bind Row.parent

/-- The way up from a row reaches the root after as many steps as its address has. -/
theorem iterate_ascend (compiled : compile f = .ok p) (numbered : f.addresses[id]? = some address) :
    (ascend p.rows)^[address.length] (some id) = some 0 := by
  induction address using List.reverseRecOn generalizing id with
  | nil =>
      obtain rfl : id = 0 := Field.eq_of_getElem?_addresses numbered f.getElem?_addresses_zero
      rfl
  | append_singleton address k ih =>
      obtain ⟨row, found⟩ := exists_row_of_address compiled numbered
      obtain ⟨above, parent, numbered'⟩ := exists_parent_of_address compiled found numbered
      have step : ascend p.rows (some id) = some above := by
        rw [ascend, Option.bind_some, found, Option.bind_some, parent]
      rw [List.length_append, List.length_singleton, Function.iterate_succ_apply, step,
        ih numbered']

/-- The titles on the way up from a row are those on the way down to its address. -/
theorem titles_of_address (compiled : compile f = .ok p)
    (numbered : f.addresses[id]? = some address) :
    titles p.rows (id + 1) id = f.titlesTo address := by
  induction address using List.reverseRecOn generalizing id with
  | nil =>
      obtain rfl : id = 0 := Field.eq_of_getElem?_addresses numbered f.getElem?_addresses_zero
      have title : p.title = f.title := (compile_eq_ok_iff.mp compiled).1.title
      rw [titles_zero, title, Field.titlesTo_nil]
  | append_singleton address k ih =>
      obtain ⟨row, found⟩ := exists_row_of_address compiled numbered
      obtain ⟨above, parent, numbered'⟩ := exists_parent_of_address compiled found numbered
      obtain ⟨q, address', g, -, placed, carried, -⟩ := exists_placed_of_row compiled found
      obtain rfl : address' = address ++ [k] :=
        Option.some.inj (placed.getElem?_addresses.symm.trans numbered)
      have title : row.field.title = g.title :=
        carried ▸ (compile_eq_ok_iff.mp placed.compiled).1.title
      rw [titles_of_parent found parent, ih numbered', title, Field.titlesTo_concat placed.found]

/-! ## The whole table -/

/-- Whether a table is that of a definition: what its rows carry, whom they list as children and
whom they have as their parent. -/
structure Arranged (f : Field) (rows : List Row) : Prop where
  length_eq : rows.length = f.flatten.length
  carried {id : Nat} {row : Row} (found : rows[id]? = some row) :
    ∃ g, f.flatten[id]? = some g ∧ FieldPlan.IsFor g row.field
  increasing {id : Nat} {row : Row} (found : rows[id]? = some row) :
    row.children.Pairwise (· < ·) ∧ ∀ child ∈ row.children, id < child
  declared {id : Nat} {row : Row} {address : List Nat} {g : Field} (found : rows[id]? = some row)
      (numbered : f.addresses[id]? = some address) (listed : f.flatten[id]? = some g) :
    row.children.map (f.addresses[·]?) =
      (List.range g.fields.length).map fun k => some (address ++ [k])
  contiguous {id : Nat} {g : Field} (listed : f.flatten[id]? = some g) (j : Nat) :
    Relation.ReflTransGen (IsChild rows) id j ↔ id ≤ j ∧ j < id + g.flatten.length
  root {id : Nat} {row : Row} (found : rows[id]? = some row) : row.parent = none ↔ id = 0
  parent {id above : Nat} {row : Row} (found : rows[id]? = some row) :
    row.parent = some above ↔ IsChild rows above id
  earlier {id above : Nat} {row : Row} (found : rows[id]? = some row)
      (parent : row.parent = some above) :
    above < id
  ending {id : Nat} {address : List Nat} (numbered : f.addresses[id]? = some address) :
    (ascend rows)^[address.length] (some id) = some 0 ∧
    (ascend rows)^[address.length + 1] (some id) = none

/-- What stands at a number of the list of fields is what the row with this number stands for. -/
theorem exists_numbered_placed (compiled : compile f = .ok p) (listed : f.flatten[id]? = some g) :
    ∃ q address, p.Numbered id q ∧ Placed f id q address g := by
  obtain ⟨inside, -⟩ := List.getElem?_eq_some_iff.mp listed
  rw [length_flatten_of_compile compiled, ← length_rows] at inside
  obtain ⟨q, numbered⟩ := exists_numbered inside
  obtain ⟨address, h, placed⟩ := numbered.exists_placed compiled
  obtain rfl : g = h := Option.some.inj (listed.symm.trans placed.getElem?_flatten)
  exact ⟨q, address, numbered, placed⟩

theorem arranged_of_compile (compiled : compile f = .ok p) : Arranged f p.rows where
  length_eq := (length_rows p).trans (length_flatten_of_compile compiled).symm
  carried found := by
    obtain ⟨q, address, g, -, placed, carried, -⟩ := exists_placed_of_row compiled found
    exact ⟨g, placed.getElem?_flatten, carried ▸ (compile_eq_ok_iff.mp placed.compiled).1⟩
  increasing found := children_of_row found
  declared found numbered listed := by
    obtain ⟨q, address', g', -, placed, -, children⟩ := exists_placed_of_row compiled found
    obtain rfl := Option.some.inj (numbered.symm.trans placed.getElem?_addresses)
    obtain rfl := Option.some.inj (listed.symm.trans placed.getElem?_flatten)
    rw [children, placed.children]
  contiguous listed j := by
    obtain ⟨q, address, numbered, placed⟩ := exists_numbered_placed compiled listed
    rw [numbered.reflTransGen_iff, length_flatten_of_compile placed.compiled]
  root found := parent_eq_none_iff found
  parent found := parent_eq_some_iff found
  earlier found parent := lt_of_parent found parent
  ending numbered := by
    have top := iterate_ascend compiled numbered
    refine ⟨top, ?_⟩
    rw [Function.iterate_succ_apply', top, ascend, Option.bind_some, getElem?_rows_zero]
    rfl

/-- A definition that compiles has a table with a row for each of its fields, in the order of their
addresses: the row has what was compiled from the field, it lists the numbers of the fields below
in the order in which they are declared, all of them after its own, and with what is below these
they take up the numbers from its own on without a gap.  The root alone has no parent, the parent of
any other row is the one that lists it, and comes before it, so the way up from a row ends at the
root, and its titles, from the root down, make the path of the field.  Filling a table row by row
and connecting the rows afterwards gives the same table. -/
theorem compile_arranged (f : Field) (p : Plan) (compiled : compile f = .ok p) :
    (f.addresses.Pairwise (· < ·) ∧
      (∀ address, address ∈ f.addresses ↔ (f.at? address).isSome) ∧
      List.Forall₂ (fun address g => f.at? address = some g) f.addresses f.flatten) ∧
    fill f = .ok p.rows ∧
    Arranged f p.rows ∧
    ∀ id address, f.addresses[id]? = some address →
      p.relativePath id = ".".intercalate (f.titlesTo address) := by
  refine ⟨⟨f.pairwise_addresses, fun _ => Field.mem_addresses_iff, f.forall₂_addresses⟩, ?_,
    arranged_of_compile compiled, fun id address numbered => ?_⟩
  · rw [fill_eq, compiled]
    rfl
  · rw [relativePath, titles_of_address compiled numbered]

/-- A link, with its address. -/
def linkField : Field :=
  { title := "link", type := "struct", fields := [{ title := "href", type := "string" }] }

/-- An item with two links that are written alike, and a price. -/
def itemField : Field :=
  { title := "item", type := "struct", fields := [linkField, linkField,
      { title := "price", type := "int", optional := true, transient := true }] }

def linkPlan : Plan :=
  .node ⟨"link", ⟨.struct, false⟩, [], {}, {}, false, false, false, false, false⟩
    [.node ⟨"href", ⟨.string, false⟩, [], {}, {}, false, false, false, false, false⟩ []]

def itemPlan : Plan :=
  .node ⟨"item", ⟨.struct, false⟩, [], {}, {}, false, false, false, false, false⟩
    [linkPlan, linkPlan,
     .node ⟨"price", ⟨.int, false⟩, [], {}, {}, true, true, false, false, false⟩ []]

theorem compile_itemField : compile itemField = .ok itemPlan := by
  have link : compile linkField = .ok linkPlan :=
    compile_eq_ok_iff.mpr ⟨⟨rfl, rfl, rfl, rfl, by cbv, rfl, rfl, rfl, rfl, rfl⟩, .cons
      (compile_eq_ok_iff.mpr ⟨⟨rfl, rfl, rfl, rfl, by cbv, rfl, rfl, rfl, rfl, rfl⟩, .nil⟩) .nil⟩
  refine compile_eq_ok_iff.mpr ⟨⟨rfl, rfl, rfl, rfl, by cbv, rfl, rfl, rfl, rfl, rfl⟩,
    .cons link (.cons link (.cons ?_ .nil))⟩
  exact compile_eq_ok_iff.mpr ⟨⟨rfl, rfl, rfl, rfl, by cbv, rfl, rfl, rfl, rfl, rfl⟩, .nil⟩

theorem compile_arranged_item :
    compile itemField = .ok itemPlan ∧
    itemField.addresses = [[], [0], [0, 0], [1], [1, 0], [2]] ∧
    (itemPlan.rows.map fun row => (row.parent, row.children)) =
      [(none, [1, 3, 5]), (some 0, [2]), (some 1, []), (some 0, [4]), (some 3, []), (some 0, [])] ∧
    (fill itemField).toOption = some itemPlan.rows ∧
    (∀ j, Relation.ReflTransGen (IsChild itemPlan.rows) 3 j ↔ 3 ≤ j ∧ j < 5) ∧
    itemPlan.relativePath 4 = "item.link.href" := by
  obtain ⟨-, filled, arranged, paths⟩ := compile_arranged itemField itemPlan compile_itemField
  have addresses : itemField.addresses = [[], [0], [0, 0], [1], [1, 0], [2]] := by decide
  have second : itemField.flatten[3]? = some linkField := rfl
  refine ⟨compile_itemField, addresses, by decide, by rw [filled]; rfl,
    arranged.contiguous second, ?_⟩
  rw [paths 4 [1, 0] (by rw [addresses]; rfl)]
  decide

end Harvest.Plan
