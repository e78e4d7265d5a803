import Mathlib
import Harvest.Plan

/-!
# The table of a plan

In the table of a plan the rows of a field and of all fields below it stand together, beginning with
that of the field itself.  So the numbers of the fields below a field follow from how many fields
there are in the plans before them, and what the rows say of children and of parents is the same.
-/

namespace Harvest

/-! ## Parts of a list -/

section Parts

variable {α : Type} {whole first second : List α} {a : α} {i : Nat}

theorem getElem?_of_cons_prefix (part : a :: first <+: whole.drop i) : whole[i]? = some a := by
  obtain ⟨after, split⟩ := part
  rw [← Nat.add_zero i, ← List.getElem?_drop, ← split]
  rfl

theorem prefix_drop_of_cons (part : a :: first <+: whole.drop i) :
    first <+: whole.drop (i + 1) := by
  obtain ⟨after, split⟩ := part
  exact ⟨after, by rw [← List.drop_drop, ← split]; rfl⟩

theorem prefix_drop_of_append (part : first ++ second <+: whole.drop i) :
    second <+: whole.drop (i + first.length) := by
  obtain ⟨after, split⟩ := part
  exact ⟨after, by rw [← List.drop_drop, ← split, List.append_assoc, List.drop_left]⟩

end Parts

namespace Plan

variable {p q c : Plan} {ps : List Plan} {rows : List Row} {row : Row} {parent : Option Nat}
  {id start child above j k : Nat}

/-- What holds of a plan if it holds of the plans below it holds of all plans. -/
theorem inductionOn {motive : Plan → Prop} (p : Plan)
    (node : ∀ field children, (∀ c ∈ children, motive c) → motive (node field children)) :
    motive p :=
  match p with
  | .node field children => node field children fun c _ => inductionOn c node

/-! ## Numbers -/

theorem size_eq (p : Plan) : p.size = 1 + sizeAll p.children := by
  cases p
  rfl

/-- The number of the plan in some place among plans, the first of which has the number `start`. -/
def numberOf (start : Nat) (ps : List Plan) (k : Nat) : Nat := start + sizeAll (ps.take k)

theorem numberOf_cons_succ :
    numberOf start (p :: ps) (k + 1) = numberOf (start + p.size) ps k := by
  rw [numberOf, List.take_succ_cons, sizeAll, numberOf, Nat.add_assoc]

theorem getElem?_siblingIds (beside : ps[k]? = some c) :
    (siblingIds start ps)[k]? = some (numberOf start ps k) := by
  induction ps generalizing start k with
  | nil => cases beside
  | cons p ps ih =>
      cases k with
      | zero => rfl
      | succ k => rw [siblingIds, List.getElem?_cons_succ, ih beside, numberOf_cons_succ]

theorem length_siblingIds (start : Nat) (ps : List Plan) :
    (siblingIds start ps).length = ps.length := by
  induction ps generalizing start with
  | nil => rfl
  | cons p ps ih => rw [siblingIds, List.length_cons, ih, List.length_cons]

/-- The numbers of siblings are those of the plans in each place. -/
theorem mem_siblingIds_iff :
    child ∈ siblingIds start ps ↔ ∃ k c, ps[k]? = some c ∧ child = numberOf start ps k := by
  rw [List.mem_iff_getElem?]
  constructor
  · rintro ⟨k, own⟩
    obtain ⟨inside, -⟩ := List.getElem?_eq_some_iff.mp own
    obtain ⟨c, beside⟩ : ∃ c, ps[k]? = some c :=
      ⟨_, List.getElem?_eq_getElem (length_siblingIds start ps ▸ inside)⟩
    exact ⟨k, c, beside, Option.some.inj (own.symm.trans (getElem?_siblingIds beside))⟩
  · rintro ⟨k, c, beside, rfl⟩
    exact ⟨k, getElem?_siblingIds beside⟩

/-- The fields of a plan among others have numbers between those of the first and of the last. -/
theorem numberOf_add_size_le (start : Nat) (beside : ps[k]? = some c) :
    numberOf start ps k + c.size ≤ start + sizeAll ps := by
  induction ps generalizing start k with
  | nil => cases beside
  | cons p ps ih =>
      cases k with
      | zero =>
          obtain rfl : p = c := by simpa using beside
          simp [numberOf, sizeAll]
      | succ k =>
          have later := ih (start + p.size) beside
          rw [numberOf_cons_succ, sizeAll]
          omega

/-- Each of the numbers that plans take up together is taken up by one of them. -/
theorem exists_numberOf_le (first : start ≤ j) (last : j < start + sizeAll ps) :
    ∃ k c, ps[k]? = some c ∧ numberOf start ps k ≤ j ∧ j < numberOf start ps k + c.size := by
  induction ps generalizing start with
  | nil => simp [sizeAll] at last; omega
  | cons p ps ih =>
      rw [sizeAll] at last
      by_cases own : j < start + p.size
      · exact ⟨0, p, rfl, first, own⟩
      · have later : start + p.size ≤ j := by omega
        obtain ⟨k, c, beside, low, high⟩ := ih later (by omega)
        exact ⟨k + 1, c, beside, by rwa [numberOf_cons_succ], by rwa [numberOf_cons_succ]⟩

theorem pairwise_siblingIds (start : Nat) (ps : List Plan) :
    (siblingIds start ps).Pairwise (· < ·) := by
  induction ps generalizing start with
  | nil => exact .nil
  | cons p ps ih =>
      refine List.pairwise_cons.mpr ⟨fun child later => ?_, ih (start + p.size)⟩
      obtain ⟨k, c, -, rfl⟩ := mem_siblingIds_iff.mp later
      have filled := p.size_eq
      rw [numberOf]
      omega

/-- Whether a plan is that of the field with a number: the numbers of the plans below a field begin
with the one after its own. -/
inductive Numbered (p : Plan) : Nat → Plan → Prop where
  | root : Numbered p 0 p
  | child {id k : Nat} {q c : Plan} (above : Numbered p id q) (below : q.children[k]? = some c) :
      Numbered p (numberOf (id + 1) q.children k) c

/-- The numbers from that of a field on are those of the fields below it. -/
theorem Numbered.exists_of_lt (numbered : p.Numbered id q) (first : id ≤ j)
    (last : j < id + q.size) : ∃ r, p.Numbered j r := by
  induction q using inductionOn generalizing id with
  | node field children ih =>
      rcases first.eq_or_lt with rfl | below
      · exact ⟨_, numbered⟩
      · rw [size_eq, ← Nat.add_assoc] at last
        obtain ⟨k, c, beside, low, high⟩ := exists_numberOf_le below last
        exact ih c (List.mem_of_getElem? beside) (.child numbered beside) low high

mutual

theorem length_rowsFrom (id : Nat) (parent : Option Nat) : ∀ p : Plan,
    (rowsFrom id parent p).length = p.size
  | node field children => by
      rw [rowsFrom, List.length_cons, length_rowsFromAll, size, Nat.add_comm]

theorem length_rowsFromAll (start above : Nat) : ∀ ps : List Plan,
    (rowsFromAll start above ps).length = sizeAll ps
  | [] => rfl
  | p :: ps => by
      rw [rowsFromAll, List.length_append, length_rowsFrom, length_rowsFromAll, sizeAll]

end

theorem length_rows (p : Plan) : p.rows.length = p.size := length_rowsFrom 0 none p

/-- Each number in a table is that of a field. -/
theorem exists_numbered (inside : id < p.rows.length) : ∃ q, p.Numbered id q :=
  Numbered.root.exists_of_lt (Nat.zero_le id) (by rwa [Nat.zero_add, ← length_rows])

/-! ## Rows -/

theorem rowsFrom_eq (id : Nat) (parent : Option Nat) (p : Plan) :
    rowsFrom id parent p =
      ⟨p.field, parent, siblingIds (id + 1) p.children⟩ :: rowsFromAll (id + 1) id p.children := by
  cases p
  rfl

/-- The rows of one plan among others stand where its number says. -/
theorem rowsFrom_prefix_of_all (stand : rowsFromAll start above ps <+: rows.drop start)
    (beside : ps[k]? = some c) :
    rowsFrom (numberOf start ps k) (some above) c <+: rows.drop (numberOf start ps k) := by
  induction ps generalizing start k with
  | nil => cases beside
  | cons p ps ih =>
      rw [rowsFromAll] at stand
      cases k with
      | zero =>
          obtain rfl : p = c := by simpa using beside
          exact (List.prefix_append _ _).trans stand
      | succ k =>
          have later := prefix_drop_of_append stand
          rw [length_rowsFrom] at later
          rw [numberOf_cons_succ]
          exact ih later beside

/-- Whether a row lists a number among its children. -/
def IsChild (rows : List Row) (above child : Nat) : Prop :=
  ∃ row, rows[above]? = some row ∧ child ∈ row.children

/-- What stands in the table at the number of a field, and how the field is connected. -/
structure Stands (rows : List Row) (id : Nat) (parent : Option Nat) (q : Plan) : Prop where
  part : rowsFrom id parent q <+: rows.drop id
  root : parent = none ↔ id = 0
  above : ∀ above ∈ parent, IsChild rows above id ∧ above < id

theorem Stands.getElem?_rows (stands : Stands rows id parent q) :
    rows[id]? = some ⟨q.field, parent, siblingIds (id + 1) q.children⟩ :=
  getElem?_of_cons_prefix (rowsFrom_eq id parent q ▸ stands.part)

theorem Stands.below (stands : Stands rows id parent q) (below : q.children[k]? = some c) :
    Stands rows (numberOf (id + 1) q.children k) (some id) c := by
  have part := stands.part
  rw [rowsFrom_eq] at part
  have later : id < numberOf (id + 1) q.children k := by
    rw [numberOf]
    omega
  have listed : IsChild rows id (numberOf (id + 1) q.children k) :=
    ⟨_, stands.getElem?_rows, List.mem_of_getElem? (getElem?_siblingIds below)⟩
  refine ⟨rowsFrom_prefix_of_all (prefix_drop_of_cons part) below, ?_, ?_⟩
  · simp only [reduceCtorEq, false_iff]
    omega
  · rintro above ⟨⟩
    exact ⟨listed, later⟩

/-- A field stands in the table where its number says. -/
theorem Numbered.stands (numbered : p.Numbered id q) :
    ∃ parent, Stands p.rows id parent q := by
  induction numbered with
  | root => exact ⟨none, List.prefix_rfl, by simp, by simp⟩
  | @child id k q c above below ih =>
      obtain ⟨parent, stands⟩ := ih
      exact ⟨some id, stands.below below⟩

theorem exists_stands (found : p.rows[id]? = some row) :
    ∃ q, p.Numbered id q ∧ Stands p.rows id row.parent q := by
  obtain ⟨inside, -⟩ := List.getElem?_eq_some_iff.mp found
  obtain ⟨q, numbered⟩ := exists_numbered inside
  obtain ⟨parent, stands⟩ := numbered.stands
  obtain rfl : row = _ := Option.some.inj (found.symm.trans stands.getElem?_rows)
  exact ⟨q, numbered, stands⟩

theorem Numbered.getElem?_rows (numbered : p.Numbered id q) :
    ∃ parent, p.rows[id]? = some ⟨q.field, parent, siblingIds (id + 1) q.children⟩ := by
  obtain ⟨parent, stands⟩ := numbered.stands
  exact ⟨parent, stands.getElem?_rows⟩

/-- The children of a field are the plans below it. -/
theorem Numbered.isChild_iff (numbered : p.Numbered id q) : IsChild p.rows id child ↔
    ∃ k c, q.children[k]? = some c ∧ child = numberOf (id + 1) q.children k := by
  obtain ⟨parent, row⟩ := numbered.getElem?_rows
  rw [IsChild, row, ← mem_siblingIds_iff]
  simp

/-! ## Children and parents -/

/-- The children of a row are listed in increasing order, and all after the row itself. -/
theorem children_of_row (found : p.rows[id]? = some row) :
    row.children.Pairwise (· < ·) ∧ ∀ child ∈ row.children, id < child := by
  obtain ⟨q, -, stands⟩ := exists_stands found
  have own : row.children = siblingIds (id + 1) q.children :=
    congrArg Row.children (Option.some.inj (found.symm.trans stands.getElem?_rows))
  rw [own]
  refine ⟨pairwise_siblingIds _ _, fun child member => ?_⟩
  obtain ⟨k, c, -, rfl⟩ := mem_siblingIds_iff.mp member
  rw [numberOf]
  omega

/-- What a row lists as a child has a row, with the first as its parent. -/
theorem parent_of_isChild (listed : IsChild p.rows above child) :
    ∃ row, p.rows[child]? = some row ∧ row.parent = some above := by
  have ⟨row, found, _⟩ := listed
  obtain ⟨q, numbered, stands⟩ := exists_stands found
  obtain ⟨k, c, below, rfl⟩ := numbered.isChild_iff.mp listed
  exact ⟨_, (stands.below below).getElem?_rows, rfl⟩

/-- A row has another as its parent if and only if that one lists it as a child. -/
theorem parent_eq_some_iff (found : p.rows[id]? = some row) :
    row.parent = some above ↔ IsChild p.rows above id := by
  constructor
  · intro parent
    obtain ⟨q, -, stands⟩ := exists_stands found
    exact (stands.above above parent).1
  · intro listed
    obtain ⟨other, found', parent⟩ := parent_of_isChild listed
    obtain rfl : row = other := Option.some.inj (found.symm.trans found')
    exact parent

theorem lt_of_parent (found : p.rows[id]? = some row) (parent : row.parent = some above) :
    above < id := by
  obtain ⟨q, -, stands⟩ := exists_stands found
  exact (stands.above above parent).2

/-- Only the root has no parent. -/
theorem parent_eq_none_iff (found : p.rows[id]? = some row) : row.parent = none ↔ id = 0 := by
  obtain ⟨q, -, stands⟩ := exists_stands found
  exact stands.root

/-- A field and those below it have as many numbers in succession as there are of them. -/
theorem Numbered.reflTransGen_iff (numbered : p.Numbered id q) :
    Relation.ReflTransGen (IsChild p.rows) id j ↔ id ≤ j ∧ j < id + q.size := by
  induction q using inductionOn generalizing id with
  | node field children ih =>
      have filled := (node field children).size_eq
      constructor
      · intro reached
        rcases reached.cases_head with rfl | ⟨child, listed, reached⟩
        · omega
        · obtain ⟨k, c, below, rfl⟩ := numbered.isChild_iff.mp listed
          have range := (ih c (List.mem_of_getElem? below) (.child numbered below)).mp reached
          have last := numberOf_add_size_le (id + 1) below
          rw [numberOf] at range last
          omega
      · rintro ⟨first, last⟩
        rcases first.eq_or_lt with rfl | later
        · exact .refl
        · rw [filled, ← Nat.add_assoc] at last
          obtain ⟨k, c, below, range⟩ := exists_numberOf_le later last
          refine .head (numbered.isChild_iff.mpr ⟨k, c, below, rfl⟩) ?_
          exact (ih c (List.mem_of_getElem? below) (.child numbered below)).mpr range

/-! ## Titles -/

theorem titles_succ_of_parent {fuel : Nat} (found : rows[id]? = some row)
    (parent : row.parent = some above) :
    titles rows (fuel + 1) id = titles rows fuel above ++ [row.field.title] := by
  simp only [titles, found, parent]

theorem titles_succ_of_root {fuel : Nat} (found : rows[id]? = some row)
    (root : row.parent = none) : titles rows (fuel + 1) id = [row.field.title] := by
  simp only [titles, found, root]

/-- The way up from a field is at most as long as its number. -/
theorem titles_of_lt {fuel : Nat} (enough : id < fuel) :
    titles p.rows fuel id = titles p.rows (id + 1) id := by
  induction id using Nat.strongRecOn generalizing fuel with
  | ind id ih =>
      obtain ⟨fuel, rfl⟩ := Nat.exists_eq_add_of_lt enough
      cases found : p.rows[id]? with
      | none => simp only [titles, found]
      | some row =>
          cases parent : row.parent with
          | none => rw [titles_succ_of_root found parent, titles_succ_of_root found parent]
          | some above =>
              have less : above < id := lt_of_parent found parent
              rw [titles_succ_of_parent found parent, titles_succ_of_parent found parent,
                ih above less less, ih above less (Nat.lt_add_right fuel less)]

/-- The way to a field goes through its parent. -/
theorem titles_of_parent (found : p.rows[id]? = some row) (parent : row.parent = some above) :
    titles p.rows (id + 1) id = titles p.rows (above + 1) above ++ [row.field.title] := by
  rw [titles_succ_of_parent found parent, titles_of_lt (lt_of_parent found parent)]

theorem getElem?_rows_zero (p : Plan) :
    p.rows[0]? = some ⟨p.field, none, siblingIds 1 p.children⟩ := by
  rw [rows, rowsFrom_eq]
  rfl

theorem titles_zero (p : Plan) : titles p.rows (0 + 1) 0 = [p.title] :=
  titles_succ_of_root p.getElem?_rows_zero rfl

end Plan

end Harvest
