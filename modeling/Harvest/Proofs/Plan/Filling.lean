import Mathlib
import Harvest.Proofs.Plan.Table

/-!
# Filling a table

A table can also be filled while the fields of a definition are compiled one after the other: a row
is put at the end of the table for each of them, the numbers of its children are put into the row
when all fields below it have been entered, and the parents are put in at the very end.  This finds
the same defects as compiling, and what results is the table of the plan.
-/

namespace Harvest.Plan

variable {row : Row} {id above j : Nat}

mutual

/-- Enters a field and those below it at the end of a table.  The result is the table, and the
number that the field has there. -/
def enter (rows : List Row) : Definition.Field → Except Defect (List Row × Nat)
  | f@⟨_, _, _, _, _, _, _, _, _, _, fields⟩ => do
      let field ← FieldPlan.compile f
      let (entered, children) ← enterAll (rows ++ [⟨field, none, []⟩]) fields
      -- the row of the field stands where the table ended before
      return (entered.modify rows.length fun row => { row with children }, rows.length)

def enterAll (rows : List Row) : List Definition.Field → Except Defect (List Row × List Nat)
  | [] => return (rows, [])
  | f :: fs => do
      let (entered, id) ← enter rows f
      let (entered, ids) ← enterAll entered fs
      return (entered, id :: ids)

end

/-- A row with its parent put in. -/
def Row.under (above : Nat) (row : Row) : Row := { row with parent := some above }

/-- Makes a row the parent of those that it lists as its children. -/
def adopt (rows : List Row) (id : Nat) : List Row :=
  ((rows[id]?.map Row.children).getD []).foldl
    (fun rows child => rows.modify child (Row.under id)) rows

/-- The table of a definition, filled row by row and then connected row by row. -/
def fill (f : Definition.Field) : Except Defect (List Row) := do
  let (rows, _) ← enter [] f
  return (List.range rows.length).foldl adopt rows

/-! ## Rows without parents -/

/-- A row before its parent is known. -/
def Row.loose (row : Row) : Row := { row with parent := none }

theorem Row.loose_of_root (root : row.parent = none) : row.loose = row := by
  cases row
  simpa [loose] using root.symm

theorem Row.under_of_parent (known : row.parent = some above) : row.under above = row := by
  cases row
  simpa [under] using known.symm

theorem Row.under_loose (row : Row) (above : Nat) : row.loose.under above = row.under above := rfl

theorem Row.under_under (row : Row) (above : Nat) :
    (row.under above).under above = row.under above := rfl

theorem map_loose_rowsFrom (id : Nat) (parent : Option Nat) (p : Plan) :
    (rowsFrom id parent p).map Row.loose = (rowsFrom id none p).map Row.loose := by
  rw [rowsFrom_eq, rowsFrom_eq]
  rfl

theorem modify_length_append {α : Type} (before after : List α) (a : α) (change : α → α) :
    (before ++ a :: after).modify before.length change = before ++ change a :: after := by
  induction before with
  | nil => rfl
  | cons b before ih => rw [List.cons_append, List.length_cons, List.modify_succ_cons, ih,
      List.cons_append]

mutual

/-- What is entered are the rows of the plan, still without their parents. -/
theorem enter_eq (rows : List Row) : ∀ f : Definition.Field, enter rows f =
    (compile f).map fun p => (rows ++ (rowsFrom rows.length none p).map Row.loose, rows.length)
  | ⟨title, type, path, data, xdata, optional, transient, multiple, unique, standard, fields⟩ => by
      rw [enter, compile]
      cases FieldPlan.compile ⟨title, type, path, data, xdata, optional, transient, multiple,
          unique, standard, fields⟩ with
      | error defect => rfl
      | ok field =>
          have below := enterAll_eq (rows ++ [⟨field, none, []⟩]) rows.length fields
          simp only [bind, Except.bind, below]
          cases compileAll fields with
          | error defect => rfl
          | ok children =>
              simp only [Except.map, pure, Except.pure, List.append_assoc, List.singleton_append,
                modify_length_append, List.length_append, List.length_singleton]
              rfl

theorem enterAll_eq (rows : List Row) (above : Nat) : ∀ fs : List Definition.Field,
    enterAll rows fs = (compileAll fs).map fun ps =>
      (rows ++ (rowsFromAll rows.length above ps).map Row.loose, siblingIds rows.length ps)
  | [] => by simp [enterAll, compileAll, rowsFromAll, siblingIds, pure, Except.pure, Except.map]
  | f :: fs => by
      rw [enterAll, compileAll, enter_eq rows f]
      cases compile f with
      | error defect => rfl
      | ok p =>
          have later := enterAll_eq (rows ++ (rowsFrom rows.length none p).map Row.loose) above fs
          simp only [bind, Except.bind, Except.map, later]
          cases compileAll fs with
          | error defect => rfl
          | ok ps =>
              simp only [pure, Except.pure, rowsFromAll, siblingIds, List.length_append,
                List.length_map, length_rowsFrom, List.map_append, List.append_assoc,
                map_loose_rowsFrom rows.length (some above)]

end

/-! ## Parents -/

theorem getElem?_foldl_modify {α : Type} {change : α → α} (once : ∀ a, change (change a) = change a)
    (places : List Nat) (as : List α) (j : Nat) :
    (places.foldl (fun as place => as.modify place change) as)[j]? =
      as[j]?.map fun a => if j ∈ places then change a else a := by
  induction places generalizing as with
  | nil => simp
  | cons place places ih =>
      rw [List.foldl_cons, ih, List.getElem?_modify]
      cases as[j]? with
      | none => rfl
      | some a =>
          by_cases here : place = j
          · simp [here, once]
          · simp [here, Ne.symm here]

theorem getElem?_adopt {rows : List Row} : (adopt rows id)[j]? = rows[j]?.map fun row =>
    if j ∈ (rows[id]?.map Row.children).getD [] then row.under id else row :=
  getElem?_foldl_modify (fun row => row.under_under id) _ rows j

/-- After some of the rows have adopted their children, those with a parent among them are as they
are in the table of the plan. -/
theorem getElem?_foldl_adopt (p : Plan) (ids : List Nat) (j : Nat) :
    (ids.foldl adopt (p.rows.map Row.loose))[j]? = p.rows[j]?.map fun row =>
      if ∃ above ∈ ids, row.parent = some above then row else row.loose := by
  induction ids using List.reverseRecOn generalizing j with
  | nil => simp
  | append_singleton ids id ih =>
      -- whatever parents are known by now, the children are those of the plan
      have children : ((ids.foldl adopt (p.rows.map Row.loose))[id]?.map Row.children).getD [] =
          (p.rows[id]?.map Row.children).getD [] := by
        rw [ih, Option.map_map]
        congr 2
        funext row
        by_cases known : ∃ above ∈ ids, row.parent = some above
        · simp [known]
        · simp [known, Row.loose]
      rw [List.foldl_concat, getElem?_adopt, children, ih, Option.map_map]
      cases found : p.rows[j]? with
      | none => rfl
      | some row =>
          have listed : j ∈ (p.rows[id]?.map Row.children).getD [] ↔ row.parent = some id := by
            rw [parent_eq_some_iff found, IsChild]
            cases p.rows[id]? with
            | none => simp
            | some other => simp
          have known : (∃ above ∈ ids ++ [id], row.parent = some above) ↔
              (∃ above ∈ ids, row.parent = some above) ∨ row.parent = some id := by
            simp only [List.mem_append, List.mem_singleton, or_and_right, exists_or,
              exists_eq_left]
          simp only [Option.map_some, Function.comp_apply, listed, known]
          by_cases here : row.parent = some id
          · rw [if_pos here, apply_ite (Row.under id), Row.under_loose, ite_self,
              Row.under_of_parent here, if_pos (Or.inr here)]
          · simp only [here, if_false, or_false]

theorem foldl_adopt (p : Plan) :
    (List.range p.rows.length).foldl adopt (p.rows.map Row.loose) = p.rows := by
  refine List.ext_getElem? fun j => ?_
  rw [getElem?_foldl_adopt]
  cases found : p.rows[j]? with
  | none => rfl
  | some row =>
      rw [Option.map_some]
      cases parent : row.parent with
      | none => simp [Row.loose_of_root parent]
      | some above =>
          have less := lt_of_parent found parent
          obtain ⟨inside, -⟩ := List.getElem?_eq_some_iff.mp found
          rw [if_pos ⟨above, List.mem_range.mpr (less.trans inside), rfl⟩]

/-- Filling a table field by field and compiling to a plan come to the same. -/
theorem fill_eq (f : Definition.Field) : fill f = (compile f).map rows := by
  rw [fill, enter_eq]
  cases compile f with
  | error defect => rfl
  | ok p =>
      simp only [Except.map, bind, Except.bind, pure, Except.pure, List.nil_append,
        List.length_nil, List.length_map]
      rw [← foldl_adopt p]
      rfl

end Harvest.Plan
