import Mathlib
import Harvest.Proofs.XPath.Predicates
import Harvest.Proofs.XPath.WholeNumber

/-!
# Positions

A number as a predicate keeps the node at this position.  Behind a step positions are counted in the
order of the axis, away from the context node, so the first of the nodes above it is its parent.
Behind a parenthesis they are counted in document order.  What a step has found is put in document
order only when all its predicates have been applied.
-/

namespace Harvest

/-- The nodes of a set in the order in which an axis counts them, given in document order. -/
def Axis.counted (axis : Axis) (places : List Place) : List Place :=
  if axis ∈ [ancestor, ancestorOrSelf, preceding, precedingSibling] then places.reverse else places

theorem Axis.length_counted (axis : Axis) (places : List Place) :
    (axis.counted places).length = places.length := by
  rw [counted]
  split
  · exact List.length_reverse
  · rfl

theorem Axis.counted_counted (axis : Axis) (places : List Place) :
    axis.counted (axis.counted places) = places := by
  rw [counted, counted]
  split
  · exact List.reverse_reverse places
  · rfl

theorem Axis.mem_counted {axis : Axis} {places : List Place} {p : Place} :
    p ∈ axis.counted places ↔ p ∈ places := by
  rw [counted]
  split
  · exact List.mem_reverse
  · rfl

theorem Axis.counted_sublist (axis : Axis) {ps qs : List Place} (sublist : ps.Sublist qs) :
    (axis.counted ps).Sublist (axis.counted qs) := by
  rw [counted, counted]
  split
  · exact sublist.reverse
  · exact sublist

namespace XPath

variable {doc : Document}

/-! ## The order of a step -/

theorem candidates_eq_counted (doc : Document) (place : Place) (axis : Axis) (test : NodeTest) :
    candidates doc place axis test =
      axis.counted (Place.sort ((doc.along place axis).filter (test.accepts doc))) := by
  cases axis <;> rfl

/-- What a step finds is in the order of its axis. -/
theorem counted_sort_from (doc : Document) (place : Place) (axis : Axis) (test : NodeTest)
    (ps : List Expr) :
    axis.counted (Place.sort ((Step.mk axis test ps).from doc place)) =
      (Step.mk axis test ps).from doc place := by
  have found : ((Step.mk axis test ps).from doc place).Sublist
      (axis.counted (Place.sort ((doc.along place axis).filter (test.accepts doc)))) := by
    rw [Step.from, ← candidates_eq_counted]
    exact sift_sublist ps _
  have ordered := axis.counted_sublist found
  rw [Axis.counted_counted] at ordered
  have sorted := (Place.pairwise_sort _).sublist ordered
  have same : Place.sort ((Step.mk axis test ps).from doc place) =
      axis.counted ((Step.mk axis test ps).from doc place) := by
    rw [← Place.sort_of_pairwise sorted]
    exact Place.sort_congr fun p => Axis.mem_counted.symm
  rw [same, Axis.counted_counted]

/-! ## One position -/

/-- Of the places with positions from `i` on the one at position `k` is kept, if there is one. -/
theorem filterMap_zipIdx_eq_getElem? {kept : Place → Nat → Bool} {k : Nat} {places : List Place}
    {i : Nat} (only : ∀ p j, i ≤ j → j < i + places.length → (kept p j = true ↔ j = k)) :
    ((places.zipIdx i).filterMap fun (p, j) => if kept p j then some p else none) =
      if i ≤ k then places[k - i]?.toList else [] := by
  induction places generalizing i with
  | nil => simp
  | cons p places ih =>
      have here : kept p i = true ↔ i = k := only p i le_rfl (by simp)
      have others := ih (i := i + 1) fun q j low high => only q j (by omega) (by simp; omega)
      rw [List.zipIdx_cons, List.filterMap_cons]
      dsimp only
      rw [others]
      have dropped (other : i ≠ k) : kept p i = false := by rwa [Bool.eq_false_iff, Ne, here]
      rcases lt_trichotomy i k with before | rfl | behind
      · obtain ⟨d, rfl⟩ : ∃ d, k = i + 1 + d := ⟨k - i - 1, by omega⟩
        have later : i + 1 + d - i = d + 1 := by omega
        simp [dropped before.ne, before.le, later]
      · simp [here]
      · simp [dropped behind.ne', Nat.not_le.mpr behind, Nat.not_le.mpr (Nat.lt_succ_of_lt behind)]

/-- A predicate that is true at one position only keeps the place that stands there. -/
theorem sift_eq_getElem? {p : Expr} {k : Nat} (positive : 0 < k) {places : List Place}
    (only : ∀ place i, 1 ≤ i → i < 1 + places.length →
      (keeps i (p.eval doc ⟨place, i, places.length⟩) = true ↔ i = k)) :
    sift doc [p] places = places[k - 1]?.toList := by
  have one := filterMap_zipIdx_eq_getElem? only
  rw [if_pos (Nat.succ_le_of_lt positive)] at one
  rw [sift, sift]
  exact one

/-- A number keeps the place at its position, as long as positions are told apart. -/
theorem sift_number {k : Nat} (positive : 0 < k) (bounded : k ≤ 2 ^ 53) {places : List Place}
    (apart : k < 2 ^ 53 ∨ places.length ≤ 2 ^ 53) :
    sift doc [.number (Float.ofNat k)] places = places[k - 1]?.toList := by
  refine sift_eq_getElem? positive fun place i low high => ?_
  rw [Expr.eval, keeps, Binary64.ofNat_beq_iff positive low (by omega), eq_comm]

/-- `last()` keeps the last place. -/
theorem sift_last {places : List Place} (apart : places.length ≤ 2 ^ 53) :
    sift doc [.call .last []] places = places.getLast?.toList := by
  rcases places.length.eq_zero_or_pos with none | positive
  · obtain rfl := List.eq_nil_of_length_eq_zero none
    rw [sift, sift]
    rfl
  · rw [List.getLast?_eq_getElem?]
    refine sift_eq_getElem? positive fun place i low high => ?_
    have size : (Expr.call .last []).eval doc ⟨place, i, places.length⟩ =
        .number (Float.ofNat places.length) := by
      rw [Expr.eval, evalAll]
      rfl
    rw [size, keeps, Binary64.ofNat_beq_iff positive low (by omega), eq_comm]

/-! ## Positions in steps -/

/-- The number `k` as it is written in an expression. -/
def numeral (k : Nat) : Expr := .number (Token.numeralValue (Nat.toDigits 10 k))

theorem numeral_eq {k : Nat} (positive : 0 < k) (bounded : k ≤ 2 ^ 53) :
    numeral k = .number (Float.ofNat k) := by
  have short : (Nat.toDigits 10 k).length ≤ 16 := by
    rw [Nat.length_toDigits_le_iff (by decide) (by decide)]
    omega
  exact congrArg Expr.number (Binary64.numeralValue_toDigits positive (short.trans (by decide)))

theorem sort_toList (p : Option Place) : Place.sort p.toList = p.toList := by
  cases p with
  | none => exact Place.sort_of_pairwise .nil
  | some p => exact Place.sort_of_pairwise (List.pairwise_singleton _ p)

/-- The value of a path of one step. -/
theorem eval_step (step : Step) (ctx : Context) :
    (Expr.path false [step]).eval doc ctx = .nodes (Place.sort (step.from doc ctx.place)) := by
  rw [Expr.eval, walk, walk, List.flatMap_singleton]
  rfl

/-- A further predicate is applied to what a step has found in the order of its axis. -/
theorem eval_step_concat (axis : Axis) (test : NodeTest) (ps : List Expr) (q : Expr)
    (ctx : Context) :
    (Expr.path false [.mk axis test (ps ++ [q])]).eval doc ctx =
      .nodes (Place.sort (sift doc [q] ((Step.mk axis test ps).from doc ctx.place))) := by
  rw [eval_step, Step.from, Step.from, sift_append]

/-- What a step with some predicates selects from a node is in document order.  A number behind
these predicates keeps the node at its position in the order of the axis, `last()` the last one in
this order, and a number behind a parenthesis around the step the node at its position in document
order.  Positions are binary64 numbers: up to `2 ^ 53`, more than there are nodes in any memory,
they are told apart, and a smaller position is not taken for any other even in a larger set. -/
theorem eval_position (doc : Document) (ctx : Context) (axis : Axis) (test : NodeTest)
    (ps : List Expr) :
    ∃ selected : List Place,
      (Expr.path false [.mk axis test ps]).eval doc ctx = .nodes selected ∧
      selected.Pairwise Place.Before ∧
      (∀ k, 1 ≤ k → k ≤ 2 ^ 53 → k < 2 ^ 53 ∨ selected.length ≤ 2 ^ 53 →
        (Expr.path false [.mk axis test (ps ++ [numeral k])]).eval doc ctx =
          .nodes (axis.counted selected)[k - 1]?.toList ∧
        (Expr.filter (.path false [.mk axis test ps]) [numeral k] []).eval doc ctx =
          .nodes selected[k - 1]?.toList) ∧
      (selected.length ≤ 2 ^ 53 →
        (Expr.path false [.mk axis test (ps ++ [.call .last []])]).eval doc ctx =
          .nodes (axis.counted selected).getLast?.toList) := by
  have ordered := counted_sort_from doc ctx.place axis test ps
  have length := axis.length_counted (Place.sort ((Step.mk axis test ps).from doc ctx.place))
  refine ⟨_, eval_step _ ctx, Place.pairwise_sort _, fun k positive bounded apart => ⟨?_, ?_⟩,
    fun apart => ?_⟩
  · rw [ordered] at length ⊢
    rw [numeral_eq positive bounded, eval_step_concat,
      sift_number positive bounded (by omega), sort_toList]
  · rw [numeral_eq positive bounded, Expr.eval, eval_step, walk]
    exact congrArg Value.nodes (sift_number positive bounded apart)
  · rw [ordered] at length ⊢
    rw [eval_step_concat, sift_last (by omega), sort_toList]

-- in a larger set the node behind position `2 ^ 53` would be taken for the one at it
example : keeps (2 ^ 53 + 1) (.number (Float.ofNat (2 ^ 53))) := by decide

/-- A list of five items, of which the first, the third and the fourth have a class. -/
def rankedDocument : Document :=
  ⟨.node .document
    [.node (.element .html "ul" [])
      [.node (.element .html "li" [⟨"class", "m", none⟩]) [], .node (.element .html "li" []) [],
       .node (.element .html "li" [⟨"class", "n", none⟩]) [],
       .node (.element .html "li" [⟨"class", "o", none⟩]) [], .node (.element .html "li" []) []]]⟩

theorem eval_position_ranked :
    (Expr.path false [.mk .precedingSibling .any [Slot.hasClass]]).eval rankedDocument
      (.alone ⟨[0, 4], none⟩) = .nodes [⟨[0, 0], none⟩, ⟨[0, 2], none⟩, ⟨[0, 3], none⟩] ∧
    (Expr.path false [.mk .precedingSibling .any [Slot.hasClass, numeral 1]]).eval
      rankedDocument (.alone ⟨[0, 4], none⟩) = .nodes [⟨[0, 3], none⟩] ∧
    (Expr.filter (.path false [.mk .precedingSibling .any [Slot.hasClass]]) [numeral 1] []).eval
      rankedDocument (.alone ⟨[0, 4], none⟩) = .nodes [⟨[0, 0], none⟩] ∧
    (Expr.path false [.mk .precedingSibling .any [Slot.hasClass, numeral 4]]).eval
      rankedDocument (.alone ⟨[0, 4], none⟩) = .nodes [] ∧
    (Expr.path false [.mk .precedingSibling .any [Slot.hasClass, .call .last []]]).eval
      rankedDocument (.alone ⟨[0, 4], none⟩) = .nodes [⟨[0, 0], none⟩] := by
  have value : (Expr.path false [.mk .precedingSibling .any [Slot.hasClass]]).eval rankedDocument
      (.alone ⟨[0, 4], none⟩) = .nodes [⟨[0, 0], none⟩, ⟨[0, 2], none⟩, ⟨[0, 3], none⟩] := by cbv
  obtain ⟨selected, whole, -, positions, last⟩ :=
    eval_position rankedDocument (.alone ⟨[0, 4], none⟩) .precedingSibling .any [Slot.hasClass]
  obtain rfl : selected = [⟨[0, 0], none⟩, ⟨[0, 2], none⟩, ⟨[0, 3], none⟩] :=
    Value.nodes.inj (whole.symm.trans value)
  obtain ⟨first, enclosed⟩ := positions 1 (by decide) (by decide) (.inl (by decide))
  obtain ⟨fourth, -⟩ := positions 4 (by decide) (by decide) (.inl (by decide))
  exact ⟨value, first, enclosed, fourth, last (by decide)⟩

end XPath

end Harvest
