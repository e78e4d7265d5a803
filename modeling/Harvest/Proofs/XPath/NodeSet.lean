import Mathlib
import Harvest.Proofs.Document.Axis
import Harvest.XPath.Evaluation

/-!
# Expressions yield node-sets

Whatever predicates say, they only cross out nodes, so a step leads to existing nodes and sorting
makes a node-set of them.  Evaluation therefore yields node-sets only, and the union of two is the
node-set of all their members.
-/

namespace Harvest.XPath

variable {doc : Document} {ctx : Context}

/-! ## Steps -/

theorem mem_candidates {place p : Place} {axis : Axis} {test : NodeTest} :
    p ∈ candidates doc place axis test ↔ p ∈ doc.along place axis ∧ test.accepts doc p := by
  have unordered : p ∈ Place.sort ((doc.along place axis).filter (test.accepts doc)) ↔
      p ∈ doc.along place axis ∧ test.accepts doc p := by
    rw [Place.mem_sort, List.mem_filter]
  rw [candidates]
  split
  · rw [List.mem_reverse, unordered]
  · exact unordered

/-- One predicate keeps some of the places and their order. -/
theorem filterMap_zipIdx_sublist (kept : Place × Nat → Bool) (places : List Place) (i : Nat) :
    ((places.zipIdx i).filterMap fun (place, j) =>
      if kept (place, j) then some place else none).Sublist places := by
  induction places generalizing i with
  | nil => exact .slnil
  | cons place places ih =>
      rw [List.zipIdx_cons, List.filterMap_cons]
      cases decision : kept (place, i) with
      | true => simpa [decision] using ih (i + 1)
      | false => simpa [decision] using (ih (i + 1)).cons place

/-- Predicates keep some of the places and their order. -/
theorem sift_sublist (predicates : List Expr) (places : List Place) :
    (sift doc predicates places).Sublist places := by
  induction predicates generalizing places with
  | nil => rw [sift]
  | cons predicate predicates ih =>
      rw [sift]
      exact (ih _).trans (filterMap_zipIdx_sublist
        (fun (place, j) => keeps j (predicate.eval doc ⟨place, j, places.length⟩)) places 1)

theorem holds_of_mem_from {step : Step} {place p : Place} (present : doc.Holds place)
    (member : p ∈ step.from doc place) : doc.Holds p := by
  cases step with
  | mk axis test predicates =>
      rw [Step.from] at member
      have candidate := (sift_sublist predicates _).mem member
      exact Document.holds_of_mem_along present (mem_candidates.mp candidate).1

/-- Steps lead from a node-set to a node-set. -/
theorem walk_isNodeSet (steps : List Step) {places : List Place} (set : doc.IsNodeSet places) :
    doc.IsNodeSet (walk doc steps places) := by
  induction steps generalizing places with
  | nil => rwa [walk]
  | cons step steps ih =>
      rw [walk]
      refine ih (.sort fun p member => ?_)
      obtain ⟨place, origin, reached⟩ := List.mem_flatMap.mp member
      exact holds_of_mem_from (set.present place origin) reached

/-! ## Expressions -/

/-- No function yields nodes. -/
theorem result?_places {f : Function} {args : List Value} {value : Value}
    (result : f.result? doc ctx args = some value) : value.places = [] := by
  unfold Function.result? at result
  dsimp only at result
  split at result
  all_goals first
    | cases result; rfl
    | cases result

/-- What an expression selects is a node-set; a value of another kind selects nothing. -/
theorem eval_isNodeSet (present : doc.Holds ctx.place) :
    ∀ e : Expr, doc.IsNodeSet (e.eval doc ctx).places
  | .or _ _ => .nil
  | .and _ _ => .nil
  | .compare _ _ _ => .nil
  | .arith _ _ _ => .nil
  | .negate _ => .nil
  | .literal _ => .nil
  | .number _ => .nil
  | .union left right => by
      have first := eval_isNodeSet present left
      have second := eval_isNodeSet present right
      rw [Expr.eval]
      split
      · next ps qs leftNodes rightNodes =>
          rw [leftNodes] at first
          rw [rightNodes] at second
          exact .sort fun p member =>
            (List.mem_append.mp member).elim (first.present p) (second.present p)
      · exact .nil
  | .path absolute steps => by
      rw [Expr.eval]
      refine walk_isNodeSet steps (.singleton ?_)
      cases absolute with
      | true => exact ⟨doc.root, Tree.at?_nil doc.root, by simp [Place.root, Place.ofPath]⟩
      | false => exact present
  | .filter primary predicates steps => by
      rw [Expr.eval]
      exact walk_isNodeSet steps
        ((eval_isNodeSet present primary).sublist (sift_sublist predicates _))
  | .call f args => by
      rw [Expr.eval]
      cases result : f.result? doc ctx (evalAll doc args ctx) with
      | none => exact .nil
      | some value =>
          rw [Option.getD_some, result?_places result]
          exact .nil

theorem isNodeSet_of_eval (present : doc.Holds ctx.place) {e : Expr} {ps : List Place}
    (value : e.eval doc ctx = .nodes ps) : doc.IsNodeSet ps := by
  have set := eval_isNodeSet present e
  rwa [value] at set

/-- The nodes that a query selects are in document order, each once. -/
theorem Query.select_isNodeSet (q : Query) {place : Place} (present : doc.Holds place) :
    doc.IsNodeSet (q.select doc place) :=
  eval_isNodeSet present q.expr

/-! ## Unions -/

theorem eval_union {left right : Expr} {ps qs : List Place}
    (first : left.eval doc ctx = .nodes ps) (second : right.eval doc ctx = .nodes qs) :
    (Expr.union left right).eval doc ctx = .nodes (Place.sort (ps ++ qs)) := by
  rw [Expr.eval, first, second]

/-- Evaluation yields node-sets: lists in document order without repetition, whose members exist.
The union of node-sets holds the members of both and no others, and is a node-set like them, so
neither the order nor the grouping nor the repetition of its operands counts. -/
theorem eval_nodes (doc : Document) (ctx : Context) (present : doc.Holds ctx.place) :
    (∀ (e : Expr) (ps : List Place), e.eval doc ctx = .nodes ps →
      doc.IsNodeSet ps ∧ ps.Nodup ∧ ps.Sublist doc.places) ∧
    (∀ (e f : Expr) (ps qs : List Place),
      e.eval doc ctx = .nodes ps → f.eval doc ctx = .nodes qs →
      (∃ rs, (Expr.union e f).eval doc ctx = .nodes rs ∧ ∀ p, p ∈ rs ↔ p ∈ ps ∨ p ∈ qs) ∧
      (Expr.union e f).eval doc ctx = (Expr.union f e).eval doc ctx ∧
      (Expr.union e e).eval doc ctx = e.eval doc ctx ∧
      ∀ (g : Expr) (rs : List Place), g.eval doc ctx = .nodes rs →
        (Expr.union (.union e f) g).eval doc ctx = (Expr.union e (.union f g)).eval doc ctx) := by
  constructor
  · intro e ps value
    have set := isNodeSet_of_eval present value
    exact ⟨set, set.increasing.nodup, Document.isNodeSet_iff_sublist.mp set⟩
  · intro e f ps qs first second
    refine ⟨⟨_, eval_union first second, fun p => by simp⟩, ?_, ?_, fun g rs third => ?_⟩
    · rw [eval_union first second, eval_union second first]
      exact congrArg Value.nodes (Place.sort_congr fun p => by simp [or_comm])
    · rw [eval_union first first, first]
      have set := isNodeSet_of_eval present first
      have doubled : Place.sort (ps ++ ps) = Place.sort ps := Place.sort_congr fun p => by simp
      rw [doubled, Place.sort_of_pairwise set.increasing]
    · rw [eval_union (eval_union first second) third, eval_union first (eval_union second third)]
      exact congrArg Value.nodes (Place.sort_congr fun p => by simp [or_assoc])

/-- A list with an attribute, an item and a text. -/
def listDocument : Document :=
  ⟨.node .document
    [.node (.element .html "ul" [⟨"id", "m", none⟩])
      [.node (.element .html "li" []) [], .node (.text "x") []]]⟩

/-- `node()` at the list. -/
def listContent : Expr := .path false [.mk .child .node []]

/-- `@*` at the list. -/
def listAttributes : Expr := .path false [.mk .attributes .any []]

theorem eval_nodes_listDocument :
    listDocument.Holds ⟨[0], none⟩ ∧
    listContent.eval listDocument (.alone ⟨[0], none⟩) = .nodes [⟨[0, 0], none⟩, ⟨[0, 1], none⟩] ∧
    listAttributes.eval listDocument (.alone ⟨[0], none⟩) = .nodes [⟨[0], some 0⟩] ∧
    listDocument.IsNodeSet [⟨[0, 0], none⟩, ⟨[0, 1], none⟩] ∧
    (Expr.union listContent listAttributes).eval listDocument (.alone ⟨[0], none⟩) =
      (Expr.union listAttributes listContent).eval listDocument (.alone ⟨[0], none⟩) := by
  have present : listDocument.Holds ⟨[0], none⟩ := ⟨_, rfl, by simp⟩
  have content : listContent.eval listDocument (.alone ⟨[0], none⟩) =
      .nodes [⟨[0, 0], none⟩, ⟨[0, 1], none⟩] := by cbv
  have own : listAttributes.eval listDocument (.alone ⟨[0], none⟩) =
      .nodes [⟨[0], some 0⟩] := by cbv
  obtain ⟨sets, unions⟩ := eval_nodes listDocument (.alone ⟨[0], none⟩) present
  exact ⟨present, content, own, (sets _ _ content).1, (unions _ _ _ _ content own).2.1⟩

end Harvest.XPath
