import Mathlib
import Harvest.XPath.Evaluation

/-!
# Comparing the other way round

Comparison has a rule for each pair of kinds of values, and a node-set on one side is compared in
another way than a node-set on the other.  All these rules agree with their mirror images: operands
change places if the comparison is turned round with them.
-/

namespace Harvest.XPath.Comparison

/-- The comparison of the operands in the other order. -/
def converse : Comparison → Comparison
  | equal => equal
  | notEqual => notEqual
  | less => greater
  | lessEqual => greaterEqual
  | greater => less
  | greaterEqual => lessEqual

theorem numbers_converse (op : Comparison) (x y : Float) :
    op.converse.numbers y x = op.numbers x y := by
  cases op with
  | equal => exact BEq.comm
  | notEqual => exact congrArg Bool.not BEq.comm
  | less => rfl
  | lessEqual => rfl
  | greater => rfl
  | greaterEqual => rfl

variable {doc : Document}

/-- Which kind of equality is meant does not depend on the order of the operands, and each kind is
symmetric. -/
theorem atoms_converse (op : Comparison) (a b : Value) :
    op.converse.atoms doc b a = op.atoms doc a b := by
  have same :
      (if isBoolean b || isBoolean a then b.truth == a.truth
        else if isNumber b || isNumber a then b.toNumber doc == a.toNumber doc
        else b.text doc == a.text doc) =
      (if isBoolean a || isBoolean b then a.truth == b.truth
        else if isNumber a || isNumber b then a.toNumber doc == b.toNumber doc
        else a.text doc == b.text doc) := by
    rw [Bool.or_comm (isBoolean b), Bool.or_comm (isNumber b), BEq.comm (a := b.truth),
      BEq.comm (a := b.toNumber doc), BEq.comm (a := b.text doc)]
  cases op with
  | equal => exact same
  | notEqual => exact congrArg Bool.not same
  | less => exact numbers_converse .less _ _
  | lessEqual => exact numbers_converse .lessEqual _ _
  | greater => exact numbers_converse .greater _ _
  | greaterEqual => exact numbers_converse .greaterEqual _ _

/-- It does not matter which of two node-sets the first node of a pair is looked for in. -/
theorem any_any_comm {α β : Type} (r : α → β → Bool) (as : List α) (bs : List β) :
    (bs.any fun b => as.any fun a => r a b) = as.any fun a => bs.any fun b => r a b := by
  rw [Bool.eq_iff_iff]
  simp only [List.any_eq_true]
  constructor
  · rintro ⟨b, second, a, first, holds⟩
    exact ⟨a, first, b, second, holds⟩
  · rintro ⟨a, first, b, second, holds⟩
    exact ⟨b, second, a, first, holds⟩

/-- A comparison of any two values is the converse comparison of the values in the other order. -/
theorem values_converse (doc : Document) (op : Comparison) (a b : Value) :
    op.converse.values doc b a = op.values doc a b := by
  have atoms (a b : Value) : op.converse.atoms doc b a = op.atoms doc a b := atoms_converse op a b
  cases a with
  | nodes ps =>
      cases b with
      | nodes qs =>
          simp only [values, atoms]
          exact any_any_comm _ ps qs
      | boolean b => exact atoms _ _
      | number y => simp only [values, atoms]
      | string s => simp only [values, atoms]
  | boolean a =>
      cases b with
      | _ => exact atoms _ _
  | number x =>
      cases b with
      | nodes qs => simp only [values, atoms]
      | _ => exact atoms _ _
  | string r =>
      cases b with
      | nodes qs => simp only [values, atoms]
      | _ => exact atoms _ _

end Harvest.XPath.Comparison
