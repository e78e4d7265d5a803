import Mathlib
import Harvest.Proofs.Document.Subtree
import Harvest.Proofs.XPath.NodeSet

/-!
# Downward expressions

An expression whose paths all start at the context node and only lead downwards sees nothing of a
document but the subtree of that node.  Its value in the document is its value in the subtree alone,
with the places put back where they are in the document.
-/

namespace Harvest.XPath

/-! ## Which expressions are downward -/

mutual

/-- Whether each location path in an expression starts at the context node and leads downwards. -/
def Expr.isDownward : Expr → Bool
  | .or left right => left.isDownward && right.isDownward
  | .and left right => left.isDownward && right.isDownward
  | .compare _ left right => left.isDownward && right.isDownward
  | .arith _ left right => left.isDownward && right.isDownward
  | .negate e => e.isDownward
  | .union left right => left.isDownward && right.isDownward
  | .path absolute steps => !absolute && allStepsDownward steps
  | .filter primary predicates steps =>
      primary.isDownward && allDownward predicates && allStepsDownward steps
  | .literal _ => true
  | .number _ => true
  | .call _ args => allDownward args

def allDownward : List Expr → Bool
  | [] => true
  | e :: es => e.isDownward && allDownward es

def Step.isDownward : Step → Bool
  | .mk axis _ predicates => axis.isDownward && allDownward predicates

def allStepsDownward : List Step → Bool
  | [] => true
  | s :: ss => s.isDownward && allStepsDownward ss

end

/-! ## Values -/

namespace Value

/-- The value in a document of a value in the subtree at `n`. -/
def below (n : Path) : Value → Value
  | nodes places => .nodes (places.map (Place.below n))
  | value => value

variable {doc : Document} {n : Path} {t : Tree}

theorem truth_below (v : Value) : (v.below n).truth = v.truth := by
  cases v with
  | nodes places => simp [below, truth]
  | boolean b => rfl
  | number x => rfl
  | string s => rfl

theorem places_below (v : Value) : (v.below n).places = v.places.map (Place.below n) := by
  cases v <;> rfl

theorem below_of_places {v : Value} (none : v.places = []) : v.below n = v := by
  cases v with
  | nodes places =>
      obtain rfl : places = [] := none
      rfl
  | boolean b => rfl
  | number x => rfl
  | string s => rfl

theorem text_below (here : doc.HasSubtree n t) (v : Value) : (v.below n).text doc = v.text ⟨t⟩ := by
  cases v with
  | nodes places =>
      cases places with
      | nil => rfl
      | cons p places => exact here.stringValue p
  | boolean b => rfl
  | number x => rfl
  | string s => rfl

theorem toNumber_below (here : doc.HasSubtree n t) (v : Value) :
    (v.below n).toNumber doc = v.toNumber ⟨t⟩ := by
  cases v with
  | nodes places => exact congrArg Number.ofString (text_below here (.nodes places))
  | boolean b => rfl
  | number x => rfl
  | string s => rfl

end Value

section Subtree

variable {doc : Document} {n : Path} {t : Tree}

/-- Values that are no node-sets compare the same in any document. -/
theorem Comparison.atoms_below (here : doc.HasSubtree n t) (op : Comparison) (a b : Value) :
    op.atoms doc (a.below n) (b.below n) = op.atoms ⟨t⟩ a b := by
  have isBoolean (v : Value) : isBoolean (v.below n) = isBoolean v := by cases v <;> rfl
  have isNumber (v : Value) : isNumber (v.below n) = isNumber v := by cases v <;> rfl
  simp only [atoms, isBoolean, isNumber, Value.truth_below, Value.text_below here,
    Value.toNumber_below here]

theorem any_below (here : doc.HasSubtree n t) {first second : String → Bool}
    (same : ∀ s, first s = second s) (places : List Place) :
    (places.map (Place.below n)).any (fun p => first (doc.stringValue p)) =
      places.any fun p => second ((⟨t⟩ : Document).stringValue p) := by
  simp only [List.any_map, Function.comp_def, here.stringValue, same]

theorem Comparison.values_below (here : doc.HasSubtree n t) (op : Comparison) (a b : Value) :
    op.values doc (a.below n) (b.below n) = op.values ⟨t⟩ a b := by
  have atoms (a b : Value) := atoms_below here op a b
  have booleans (a b : Bool) : op.atoms doc (.boolean a) (.boolean b) =
      op.atoms ⟨t⟩ (.boolean a) (.boolean b) := atoms (.boolean a) (.boolean b)
  cases a with
  | nodes ps =>
      cases b with
      | nodes qs =>
          exact any_below here
            (fun r => any_below here (fun s => atoms (.string r) (.string s)) qs) ps
      | boolean b => simp [Value.below, values, booleans]
      | number x => exact any_below here (fun r => atoms (.string r) (.number x)) ps
      | string s => exact any_below here (fun r => atoms (.string r) (.string s)) ps
  | boolean a =>
      cases b with
      | nodes qs => simp [Value.below, values, booleans]
      | boolean b => exact atoms (.boolean a) (.boolean b)
      | number x => exact atoms (.boolean a) (.number x)
      | string s => exact atoms (.boolean a) (.string s)
  | number x =>
      cases b with
      | nodes qs => exact any_below here (fun s => atoms (.number x) (.string s)) qs
      | boolean b => exact atoms (.number x) (.boolean b)
      | number y => exact atoms (.number x) (.number y)
      | string s => exact atoms (.number x) (.string s)
  | string r =>
      cases b with
      | nodes qs => exact any_below here (fun s => atoms (.string r) (.string s)) qs
      | boolean b => exact atoms (.string r) (.boolean b)
      | number x => exact atoms (.string r) (.number x)
      | string s => exact atoms (.string r) (.string s)

/-- A function sees of its context node and its arguments what the subtree has of them. -/
theorem Function.result?_below (here : doc.HasSubtree n t) (f : Function) (p : Place)
    (position size : Nat) (args : List Value) :
    f.result? doc ⟨p.below n, position, size⟩ (args.map (Value.below n)) =
      f.result? ⟨t⟩ ⟨p, position, size⟩ args := by
  have names : doc.name ∘ Place.below n = (⟨t⟩ : Document).name := funext here.name
  have sums (places : List Place) (total : Float) :
      (places.map (Place.below n)).foldl
        (fun total p => total + Number.ofString (doc.stringValue p)) total =
      places.foldl
        (fun total p => total + Number.ofString ((⟨t⟩ : Document).stringValue p)) total := by
    simp only [List.foldl_map, here.stringValue]
  have texts : (fun v : Value => v.text doc) ∘ Value.below n = fun v => v.text ⟨t⟩ :=
    funext (Value.text_below here)
  have text := Value.text_below here
  have number := Value.toNumber_below here
  rcases args with _ | ⟨v, _ | ⟨w, _ | ⟨x, _ | ⟨y, args⟩⟩⟩⟩
  · cases f <;> simp [result?, here.stringValue, here.name]
  · cases f <;> simp [result?, Value.truth_below, text, number, Value.places_below, names, sums]
  · cases f <;> simp [result?, text, number]
  · cases f <;> simp [result?, text, number]
  · cases f <;> simp [result?, text, texts]

/-! ## Evaluation -/

theorem NodeTest.accepts_below (here : doc.HasSubtree n t) (test : NodeTest) (p : Place) :
    test.accepts doc (p.below n) = test.accepts ⟨t⟩ p := by
  obtain ⟨path, index⟩ := p
  cases index with
  | none => simp only [accepts, Place.below_index, Place.below_path, here.content?]
  | some i => simp only [accepts, Place.below_index, Place.below_path, here.attribute?]

theorem candidates_below (here : doc.HasSubtree n t) (p : Place) {axis : Axis}
    (down : axis.isDownward) (test : NodeTest) :
    candidates doc (p.below n) axis test = (candidates ⟨t⟩ p axis test).map (Place.below n) := by
  have filtered : ((doc.along (p.below n) axis).filter (test.accepts doc)) =
      (((⟨t⟩ : Document).along p axis).filter (test.accepts ⟨t⟩)).map (Place.below n) := by
    rw [here.along p down, List.filter_map]
    exact congrArg (List.map _) (List.filter_congr fun q _ => test.accepts_below here q)
  rw [candidates, candidates, filtered, Place.sort_map_below]
  split
  · rw [List.map_reverse]
  · rfl

/-- What one predicate keeps, if it has the same value at each place. -/
theorem filterMap_zipIdx_below (kept kept' : Place → Nat → Bool)
    (same : ∀ p i, kept (p.below n) i = kept' p i) (places : List Place) (i : Nat) :
    (((places.map (Place.below n)).zipIdx i).filterMap fun (p, j) =>
        if kept p j then some p else none) =
      ((places.zipIdx i).filterMap fun (p, j) => if kept' p j then some p else none).map
        (Place.below n) := by
  rw [List.zipIdx_map, List.filterMap_map, List.map_filterMap]
  refine List.filterMap_congr fun (p, j) _ => ?_
  simp only [Function.comp_apply, Prod.map, same, id]
  cases kept' p j <;> rfl

theorem keeps_below (i : Nat) (v : Value) : keeps i (v.below n) = keeps i v := by
  cases v with
  | nodes places => exact (Value.nodes places).truth_below
  | boolean b => rfl
  | number x => rfl
  | string s => rfl

/-- Steps lead to the same places if each of them does. -/
theorem flatMap_below {first second : Place → List Place} (places : List Place)
    (same : ∀ p, first (p.below n) = (second p).map (Place.below n)) :
    Place.sort ((places.map (Place.below n)).flatMap first) =
      (Place.sort (places.flatMap second)).map (Place.below n) := by
  rw [← Place.sort_map_below, List.flatMap_map, List.map_flatMap]
  exact congrArg Place.sort (List.flatMap_congr fun p _ => same p)

mutual

/-- The value of a downward expression at a node of a subtree is its value in the subtree. -/
theorem Expr.eval_below (here : doc.HasSubtree n t) (e : Expr) (down : e.isDownward) (p : Place)
    (position size : Nat) :
    e.eval doc ⟨p.below n, position, size⟩ = (e.eval ⟨t⟩ ⟨p, position, size⟩).below n :=
  match e with
  | .or left right => by
      rw [Expr.isDownward, Bool.and_eq_true] at down
      rw [Expr.eval, Expr.eval, left.eval_below here down.1, right.eval_below here down.2,
        Value.truth_below, Value.truth_below]
      rfl
  | .and left right => by
      rw [Expr.isDownward, Bool.and_eq_true] at down
      rw [Expr.eval, Expr.eval, left.eval_below here down.1, right.eval_below here down.2,
        Value.truth_below, Value.truth_below]
      rfl
  | .compare op left right => by
      rw [Expr.isDownward, Bool.and_eq_true] at down
      rw [Expr.eval, Expr.eval, left.eval_below here down.1, right.eval_below here down.2,
        op.values_below here]
      rfl
  | .arith op left right => by
      rw [Expr.isDownward, Bool.and_eq_true] at down
      rw [Expr.eval, Expr.eval, left.eval_below here down.1, right.eval_below here down.2,
        Value.toNumber_below here, Value.toNumber_below here]
      rfl
  | .negate e => by
      rw [Expr.isDownward] at down
      rw [Expr.eval, Expr.eval, e.eval_below here down, Value.toNumber_below here]
      rfl
  | .union left right => by
      rw [Expr.isDownward, Bool.and_eq_true] at down
      rw [Expr.eval, Expr.eval, left.eval_below here down.1, right.eval_below here down.2]
      cases left.eval ⟨t⟩ ⟨p, position, size⟩ with
      | nodes ps =>
          cases right.eval ⟨t⟩ ⟨p, position, size⟩ with
          | nodes qs =>
              simp only [Value.below, ← List.map_append, Place.sort_map_below]
          | boolean b => rfl
          | number x => rfl
          | string s => rfl
      | boolean b => rfl
      | number x => rfl
      | string s => rfl
  | .path absolute steps => by
      rw [Expr.isDownward, Bool.and_eq_true, Bool.not_eq_true'] at down
      obtain ⟨rfl, steps'⟩ := down
      rw [Expr.eval, Expr.eval]
      exact congrArg Value.nodes (walk_below here steps steps' [p])
  | .filter primary predicates steps => by
      rw [Expr.isDownward, Bool.and_eq_true, Bool.and_eq_true] at down
      obtain ⟨⟨primary', predicates'⟩, steps'⟩ := down
      rw [Expr.eval, Expr.eval, primary.eval_below here primary', Value.places_below,
        sift_below here predicates predicates', walk_below here steps steps']
      rfl
  | .literal s => rfl
  | .number x => rfl
  | .call f args => by
      rw [Expr.isDownward] at down
      rw [Expr.eval, Expr.eval, evalAll_below here args down, f.result?_below here]
      cases result : f.result? ⟨t⟩ ⟨p, position, size⟩ (evalAll ⟨t⟩ args ⟨p, position, size⟩) with
      | none => rfl
      | some value =>
          rw [Option.getD_some]
          exact (Value.below_of_places (result?_places result)).symm

theorem evalAll_below (here : doc.HasSubtree n t) (es : List Expr) (down : allDownward es)
    (p : Place) (position size : Nat) :
    evalAll doc es ⟨p.below n, position, size⟩ =
      (evalAll ⟨t⟩ es ⟨p, position, size⟩).map (Value.below n) :=
  match es with
  | [] => by rw [evalAll, evalAll, List.map_nil]
  | e :: es => by
      rw [allDownward, Bool.and_eq_true] at down
      rw [evalAll, evalAll, List.map_cons, e.eval_below here down.1,
        evalAll_below here es down.2]

theorem sift_below (here : doc.HasSubtree n t) (predicates : List Expr)
    (down : allDownward predicates) (places : List Place) :
    sift doc predicates (places.map (Place.below n)) =
      (sift ⟨t⟩ predicates places).map (Place.below n) :=
  match predicates with
  | [] => by rw [sift, sift]
  | predicate :: predicates => by
      rw [allDownward, Bool.and_eq_true] at down
      have first := filterMap_zipIdx_below
        (fun p i => keeps i (predicate.eval doc ⟨p, i, places.length⟩))
        (fun p i => keeps i (predicate.eval ⟨t⟩ ⟨p, i, places.length⟩))
        (fun p i => by rw [predicate.eval_below here down.1, keeps_below]) places 1
      rw [sift, sift, List.length_map]
      exact (congrArg (sift doc predicates) first).trans
        (sift_below here predicates down.2 _)

theorem Step.from_below (here : doc.HasSubtree n t) (step : Step) (down : step.isDownward)
    (p : Place) : step.from doc (p.below n) = (step.from ⟨t⟩ p).map (Place.below n) :=
  match step with
  | .mk axis test predicates => by
      rw [Step.isDownward, Bool.and_eq_true] at down
      rw [Step.from, Step.from, candidates_below here p down.1,
        sift_below here predicates down.2]

theorem walk_below (here : doc.HasSubtree n t) (steps : List Step) (down : allStepsDownward steps)
    (places : List Place) :
    walk doc steps (places.map (Place.below n)) = (walk ⟨t⟩ steps places).map (Place.below n) :=
  match steps with
  | [] => by rw [walk, walk]
  | step :: steps => by
      rw [allStepsDownward, Bool.and_eq_true] at down
      rw [walk, walk, flatMap_below places (step.from_below here down.1),
        walk_below here steps down.2]

end

/-! ## Queries -/

namespace Query

variable {q : Query}

/-- Whether the expression of a query is downward. -/
def IsDownward (q : Query) : Prop := q.expr.isDownward

instance : DecidablePred IsDownward := fun _ => inferInstanceAs (Decidable (_ = true))

theorem value_below (here : doc.HasSubtree n t) (down : q.IsDownward) (p : Place) :
    q.value doc (p.below n) = (q.value ⟨t⟩ p).below n :=
  q.expr.eval_below here down p 1 1

theorem select_below (here : doc.HasSubtree n t) (down : q.IsDownward) (p : Place) :
    q.select doc (p.below n) = (q.select ⟨t⟩ p).map (Place.below n) := by
  rw [select, value_below here down, Value.places_below, select]

theorem holds_below (here : doc.HasSubtree n t) (down : q.IsDownward) (p : Place) :
    q.holds doc (p.below n) = q.holds ⟨t⟩ p := by
  rw [holds, value_below here down, Value.truth_below, holds]

end Query

end Subtree

end Harvest.XPath
