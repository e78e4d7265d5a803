import Mathlib
import Harvest.Proofs.XPath.NodeSet

/-!
# Predicates that look at the node alone

A predicate is evaluated at a node together with the position of that node and the size of the
selection, and predicates in front of it change both.  An expression that asks for neither, and
whose value is not a number to be compared with the position, keeps the same nodes whatever was
crossed out before: it filters.  Such predicates may change places, and two of them are their
conjunction.
-/

namespace Harvest.XPath

variable {doc : Document}

/-! ## What an expression asks of its context -/

/-- Whether a function tells a position or a size. -/
def Function.asksPosition : Function → Bool
  | last | position => Bool.true
  | _ => Bool.false

mutual

/-- Whether an expression asks for the position of its context node or for the size of the
selection.  The predicates inside it have contexts of their own, so what they ask for does not
count. -/
def Expr.asksPosition : Expr → Bool
  | .or left right => left.asksPosition || right.asksPosition
  | .and left right => left.asksPosition || right.asksPosition
  | .compare _ left right => left.asksPosition || right.asksPosition
  | .arith _ left right => left.asksPosition || right.asksPosition
  | .negate e => e.asksPosition
  | .union left right => left.asksPosition || right.asksPosition
  | .path _ _ => false
  | .filter primary _ _ => primary.asksPosition
  | .literal _ => false
  | .number _ => false
  | .call f args => f.asksPosition || anyAsksPosition args

def anyAsksPosition : List Expr → Bool
  | [] => false
  | e :: es => e.asksPosition || anyAsksPosition es

end

theorem Function.result?_eq_of_place {f : Function} (unasked : f.asksPosition = Bool.false)
    {first second : Context} (same : first.place = second.place) (args : List Value) :
    f.result? doc first args = f.result? doc second args := by
  obtain ⟨place, i, n⟩ := first
  obtain ⟨_, j, m⟩ := second
  obtain rfl : place = _ := same
  rcases args with _ | ⟨v, _ | ⟨w, _ | ⟨x, _ | ⟨y, args⟩⟩⟩⟩ <;> cases f <;> first
    | rfl
    | cases unasked

mutual

/-- An expression that does not ask for its position has the same value wherever its context node
stands in a selection. -/
theorem Expr.eval_eq_of_place (e : Expr) (unasked : e.asksPosition = false)
    {first second : Context} (same : first.place = second.place) :
    e.eval doc first = e.eval doc second :=
  match e with
  | .or left right => by
      rw [Expr.asksPosition, Bool.or_eq_false_iff] at unasked
      rw [Expr.eval, Expr.eval, left.eval_eq_of_place unasked.1 same,
        right.eval_eq_of_place unasked.2 same]
  | .and left right => by
      rw [Expr.asksPosition, Bool.or_eq_false_iff] at unasked
      rw [Expr.eval, Expr.eval, left.eval_eq_of_place unasked.1 same,
        right.eval_eq_of_place unasked.2 same]
  | .compare op left right => by
      rw [Expr.asksPosition, Bool.or_eq_false_iff] at unasked
      rw [Expr.eval, Expr.eval, left.eval_eq_of_place unasked.1 same,
        right.eval_eq_of_place unasked.2 same]
  | .arith op left right => by
      rw [Expr.asksPosition, Bool.or_eq_false_iff] at unasked
      rw [Expr.eval, Expr.eval, left.eval_eq_of_place unasked.1 same,
        right.eval_eq_of_place unasked.2 same]
  | .negate e => by
      rw [Expr.asksPosition] at unasked
      rw [Expr.eval, Expr.eval, e.eval_eq_of_place unasked same]
  | .union left right => by
      rw [Expr.asksPosition, Bool.or_eq_false_iff] at unasked
      rw [Expr.eval, Expr.eval, left.eval_eq_of_place unasked.1 same,
        right.eval_eq_of_place unasked.2 same]
  | .path absolute steps => by rw [Expr.eval, Expr.eval, same]
  | .filter primary predicates steps => by
      rw [Expr.asksPosition] at unasked
      rw [Expr.eval, Expr.eval, primary.eval_eq_of_place unasked same]
  | .literal s => by rw [Expr.eval, Expr.eval]
  | .number x => by rw [Expr.eval, Expr.eval]
  | .call f args => by
      rw [Expr.asksPosition, Bool.or_eq_false_iff] at unasked
      rw [Expr.eval, Expr.eval, evalAll_eq_of_place args unasked.2 same,
        Function.result?_eq_of_place unasked.1 same]

theorem evalAll_eq_of_place (es : List Expr) (unasked : anyAsksPosition es = false)
    {first second : Context} (same : first.place = second.place) :
    evalAll doc es first = evalAll doc es second :=
  match es with
  | [] => by rw [evalAll, evalAll]
  | e :: es => by
      rw [anyAsksPosition, Bool.or_eq_false_iff] at unasked
      rw [evalAll, evalAll, e.eval_eq_of_place unasked.1 same,
        evalAll_eq_of_place es unasked.2 same]

end

/-! ## Which expressions are numbers -/

/-- Whether the values of a function are numbers. -/
def Function.isNumeric : Function → Bool
  | last | position | count | number | stringLength | sum | floor | ceiling | round => Bool.true
  | _ => Bool.false

/-- Whether the values of an expression are numbers, which its outermost operator tells. -/
def Expr.isNumeric : Expr → Bool
  | .arith _ _ _ => true
  | .negate _ => true
  | .number _ => true
  | .call f args => f.isNumeric && f.admits args.length
  | _ => false

/-- A function has a value if it takes so many arguments. -/
theorem Function.isSome_result? (f : Function) (doc : Document) (ctx : Context)
    (args : List Value) :
    (f.result? doc ctx args).isSome = f.admits args.length := by
  rcases args with _ | ⟨v, _ | ⟨w, _ | ⟨x, _ | ⟨y, args⟩⟩⟩⟩ <;> cases f <;>
    simp [result?, admits]

theorem Function.isNumber_of_result? {f : Function} {ctx : Context} {args : List Value}
    {value : Value} (result : f.result? doc ctx args = some value) :
    Comparison.isNumber value = f.isNumeric := by
  unfold result? at result
  dsimp only at result
  split at result
  all_goals first
    | cases result; rfl
    | cases result

theorem length_evalAll (es : List Expr) (ctx : Context) :
    (evalAll doc es ctx).length = es.length := by
  induction es with
  | nil => rfl
  | cons e es ih => rw [evalAll, List.length_cons, List.length_cons, ih]

/-- Whether the value of an expression is a number does not depend on the document. -/
theorem Expr.isNumber_eval (e : Expr) (doc : Document) (ctx : Context) :
    Comparison.isNumber (e.eval doc ctx) = e.isNumeric := by
  cases e with
  | call f args =>
      rw [eval, isNumeric]
      have known := f.isSome_result? doc ctx (evalAll doc args ctx)
      rw [length_evalAll] at known
      cases result : f.result? doc ctx (evalAll doc args ctx) with
      | none =>
          rw [result] at known
          rw [← known, Option.isSome_none, Bool.and_false]
          rfl
      | some value =>
          rw [result] at known
          rw [← known, Option.isSome_some, Bool.and_true, Option.getD_some]
          exact Function.isNumber_of_result? result
  | union left right =>
      rw [eval]
      split <;> rfl
  | _ =>
      rw [eval]
      rfl

/-- Whether an expression as a predicate looks at the node alone: it does not ask for positions or
sizes, and it never evaluates to a number, which would be compared with the position. -/
structure Expr.IsPositionFree (e : Expr) : Prop where
  unasked : e.asksPosition = false
  unnumbered : ∀ doc ctx x, e.eval doc ctx ≠ .number x

theorem Expr.isPositionFree_iff {e : Expr} :
    e.IsPositionFree ↔ e.asksPosition = false ∧ e.isNumeric = false := by
  constructor
  · rintro ⟨unasked, unnumbered⟩
    refine ⟨unasked, ?_⟩
    rw [← e.isNumber_eval ⟨default⟩ ⟨.root, 1, 1⟩]
    have no := unnumbered ⟨default⟩ ⟨.root, 1, 1⟩
    cases value : e.eval ⟨default⟩ ⟨.root, 1, 1⟩ with
    | number x => exact absurd value (no x)
    | _ => rfl
  · rintro ⟨unasked, unnumbered⟩
    refine ⟨unasked, fun doc ctx x value => ?_⟩
    rw [← e.isNumber_eval doc ctx, value] at unnumbered
    cases unnumbered

instance : DecidablePred Expr.IsPositionFree := fun _ =>
  decidable_of_iff _ Expr.isPositionFree_iff.symm

-- `text()[last()]` asks for a size among the texts, `last()` for its own
example : (Expr.path false [.mk .child .text [.call .last []]]).IsPositionFree ∧
    ¬ (Expr.call .last []).IsPositionFree := by decide

/-! ## Predicates as filters -/

/-- Whether an expression is true of a node on its own. -/
def Expr.holds (e : Expr) (doc : Document) (place : Place) : Bool :=
  (e.eval doc (.alone place)).truth

theorem Expr.IsPositionFree.keeps {p : Expr} (free : p.IsPositionFree) (place : Place)
    (i size : Nat) : XPath.keeps i (p.eval doc ⟨place, i, size⟩) = p.holds doc place := by
  have alone : p.eval doc ⟨place, i, size⟩ = p.eval doc (.alone place) :=
    p.eval_eq_of_place free.unasked rfl
  rw [alone, holds]
  cases value : p.eval doc (.alone place) with
  | number x => exact absurd value (free.unnumbered doc _ x)
  | _ => rfl

theorem Expr.IsPositionFree.and {p q : Expr} (first : p.IsPositionFree)
    (second : q.IsPositionFree) : (Expr.and p q).IsPositionFree := by
  rw [isPositionFree_iff, asksPosition, first.unasked, second.unasked]
  exact ⟨rfl, rfl⟩

theorem Expr.holds_and (p q : Expr) (place : Place) :
    (Expr.and p q).holds doc place = (p.holds doc place && q.holds doc place) := by
  rw [holds, eval]
  rfl

theorem filterMap_zipIdx_eq_filter (kept : Place → Nat → Bool) (chosen : Place → Bool)
    (same : ∀ p i, kept p i = chosen p) (places : List Place) (i : Nat) :
    ((places.zipIdx i).filterMap fun (p, j) => if kept p j then some p else none) =
      places.filter chosen := by
  induction places generalizing i with
  | nil => rfl
  | cons p places ih =>
      rw [List.zipIdx_cons, List.filterMap_cons, List.filter_cons]
      dsimp only
      rw [same, ih]
      cases chosen p <;> rfl

theorem Expr.IsPositionFree.sift_cons {p : Expr} (free : p.IsPositionFree) (ps : List Expr)
    (places : List Place) :
    sift doc (p :: ps) places = sift doc ps (places.filter (p.holds doc)) := by
  rw [sift]
  exact congrArg (sift doc ps) (filterMap_zipIdx_eq_filter
    (fun place i => XPath.keeps i (p.eval doc ⟨place, i, places.length⟩)) (p.holds doc)
    (fun place i => free.keeps place i places.length) places 1)

/-- Predicates that look at the node alone keep the nodes of which all of them are true. -/
theorem sift_eq_filter {ps : List Expr} (free : ∀ p ∈ ps, p.IsPositionFree)
    (places : List Place) :
    sift doc ps places = places.filter fun place => ps.all (·.holds doc place) := by
  induction ps generalizing places with
  | nil => simp [sift]
  | cons p ps ih =>
      rw [(free p (.head ps)).sift_cons, ih fun q member => free q (.tail p member),
        List.filter_filter]
      refine List.filter_congr fun place _ => ?_
      rw [List.all_cons, Bool.and_comm]

theorem sift_append (ps qs : List Expr) (places : List Place) :
    sift doc (ps ++ qs) places = sift doc qs (sift doc ps places) := by
  induction ps generalizing places with
  | nil => rw [List.nil_append, sift]
  | cons p ps ih => rw [List.cons_append, sift, sift, ih]

/-! ## Where predicates stand -/

theorem walk_append (ss ts : List Step) (places : List Place) :
    walk doc (ss ++ ts) places = walk doc ts (walk doc ss places) := by
  induction ss generalizing places with
  | nil => rw [List.nil_append, walk]
  | cons s ss ih => rw [List.cons_append, walk, walk, ih]

/-- What steps may be added to: a path, or a primary expression with predicates and steps. -/
inductive Stem where
  | path (absolute : Bool) (steps : List Step)
  | filter (primary : Expr) (predicates : List Expr) (steps : List Step)

namespace Stem

/-- The expression with further steps. -/
def extend : Stem → List Step → Expr
  | path absolute steps, more => .path absolute (steps ++ more)
  | filter primary predicates steps, more => .filter primary predicates (steps ++ more)

/-- The nodes that further steps start from. -/
def select (doc : Document) (ctx : Context) : Stem → List Place
  | path absolute steps => walk doc steps [if absolute then Place.root else ctx.place]
  | filter primary predicates steps =>
      walk doc steps (sift doc predicates (primary.eval doc ctx).places)

theorem eval_extend (stem : Stem) (more : List Step) (ctx : Context) :
    (stem.extend more).eval doc ctx = .nodes (walk doc more (stem.select doc ctx)) := by
  cases stem with
  | path absolute steps => rw [extend, Expr.eval, walk_append, select]
  | filter primary predicates steps => rw [extend, Expr.eval, walk_append, select]

end Stem

/-- A place for predicates in an expression, behind a step or behind a primary expression.  Other
predicates may stand in front of it. -/
inductive Slot where
  | step (stem : Stem) (axis : Axis) (test : NodeTest) (given : List Expr) (after : List Step)
  | primary (e : Expr) (given : List Expr) (after : List Step)

namespace Slot

/-- The expression with some predicates in the place for them. -/
def fill : Slot → List Expr → Expr
  | step stem axis test given after, ps => stem.extend (.mk axis test (given ++ ps) :: after)
  | primary e given after, ps => .filter e (given ++ ps) after

/-- The nodes that an expression selects with some predicates in the place for them. -/
def select (doc : Document) (ctx : Context) (ps : List Expr) : Slot → List Place
  | step stem axis test given after =>
      walk doc (.mk axis test (given ++ ps) :: after) (stem.select doc ctx)
  | primary e given after => walk doc after (sift doc (given ++ ps) (e.eval doc ctx).places)

theorem eval_fill (slot : Slot) (ps : List Expr) (ctx : Context) :
    (slot.fill ps).eval doc ctx = .nodes (slot.select doc ctx ps) := by
  cases slot with
  | step stem axis test given after => exact stem.eval_extend _ ctx
  | primary e given after => rw [fill, Expr.eval, select]

/-- Predicates that keep the same nodes select the same nodes wherever they stand. -/
theorem select_congr {ps qs : List Expr}
    (same : ∀ places, sift doc ps places = sift doc qs places) (slot : Slot) (ctx : Context) :
    slot.select doc ctx ps = slot.select doc ctx qs := by
  cases slot with
  | step stem axis test given after => simp only [select, walk, Step.from, sift_append, same]
  | primary e given after => simp only [select, sift_append, same]

/-- Two predicates that look at the node alone select the same nodes in either order, and so does
their conjunction. -/
theorem eval_exchanged (doc : Document) (slot : Slot) (ctx : Context) {p q : Expr}
    (first : p.IsPositionFree) (second : q.IsPositionFree) :
    ∃ places, (slot.fill [p, q]).eval doc ctx = .nodes places ∧
      (slot.fill [q, p]).eval doc ctx = .nodes places ∧
      (slot.fill [.and p q]).eval doc ctx = .nodes places := by
  have exchanged (places : List Place) : sift doc [q, p] places = sift doc [p, q] places := by
    rw [second.sift_cons, first.sift_cons, first.sift_cons, second.sift_cons, List.filter_comm]
  have joined (places : List Place) : sift doc [.and p q] places = sift doc [p, q] places := by
    have both : places.filter ((Expr.and p q).holds doc) =
        (places.filter (p.holds doc)).filter (q.holds doc) := by
      rw [List.filter_filter]
      exact List.filter_congr fun place _ => by rw [Expr.holds_and, Bool.and_comm]
    rw [(first.and second).sift_cons, first.sift_cons, second.sift_cons, both]
  refine ⟨slot.select doc ctx [p, q], slot.eval_fill _ ctx, ?_, ?_⟩
  · rw [eval_fill, slot.select_congr exchanged]
  · rw [eval_fill, slot.select_congr joined]

/-- A list of three items, two of them with a class and two of them with content. -/
def classedDocument : Document :=
  ⟨.node .document
    [.node (.element .html "ul" [])
      [.node (.element .html "li" []) [.node (.text "x") []],
       .node (.element .html "li" [⟨"class", "m", none⟩])
        [.node (.element .html "b" []) [], .node (.text "y") []],
       .node (.element .html "li" [⟨"class", "n", none⟩]) []]]⟩

/-- `*`, with a place for predicates. -/
def itemSlot : Slot := .step (.path false []) .child .any [] []

/-- `@class` -/
def hasClass : Expr := .path false [.mk .attributes (.name "class") []]

/-- `text() = 'y'` -/
def containsY : Expr := .compare .equal (.path false [.mk .child .text []]) (.literal "y")

theorem eval_exchanged_items :
    hasClass.IsPositionFree ∧ containsY.IsPositionFree ∧
    (itemSlot.fill [hasClass, containsY]).eval classedDocument (.alone ⟨[0], none⟩) =
      .nodes [⟨[0, 1], none⟩] ∧
    (itemSlot.fill [containsY, hasClass]).eval classedDocument (.alone ⟨[0], none⟩) =
      .nodes [⟨[0, 1], none⟩] ∧
    (itemSlot.fill [.and hasClass containsY]).eval classedDocument (.alone ⟨[0], none⟩) =
      .nodes [⟨[0, 1], none⟩] := by
  have classed : hasClass.IsPositionFree := by decide
  have containing : containsY.IsPositionFree := by decide
  have value : (itemSlot.fill [hasClass, containsY]).eval classedDocument (.alone ⟨[0], none⟩) =
      .nodes [⟨[0, 1], none⟩] := by cbv
  obtain ⟨places, first, exchanged, joined⟩ :=
    eval_exchanged classedDocument itemSlot (.alone ⟨[0], none⟩) classed containing
  have selected : Value.nodes places = .nodes [⟨[0, 1], none⟩] := first.symm.trans value
  exact ⟨classed, containing, value, exchanged.trans selected, joined.trans selected⟩

end Slot

end Harvest.XPath
