import Mathlib
import Harvest.Proofs.XPath.Parsed
import Harvest.Proofs.XPath.Predicates

/-!
# Arguments that are there

`Expr.eval?` evaluates an expression in the way in which a call asks for its arguments one by one,
by their places, and has no value as soon as a call asks for an argument that it does not have.
Where every call has a number of arguments that its function admits, this never happens, and the
value is that of `Expr.eval`.  In what the parser yields every call is one of these.
-/

namespace Harvest.XPath

/-! ## The calls in an expression -/

mutual

/-- The calls in an expression at any depth, each as its function and its number of arguments. -/
def Expr.calls : Expr → List (Function × Nat)
  | .or left right => left.calls ++ right.calls
  | .and left right => left.calls ++ right.calls
  | .compare _ left right => left.calls ++ right.calls
  | .arith _ left right => left.calls ++ right.calls
  | .negate e => e.calls
  | .union left right => left.calls ++ right.calls
  | .path _ steps => callsInSteps steps
  | .filter primary predicates steps =>
      primary.calls ++ (callsInAll predicates ++ callsInSteps steps)
  | .literal _ => []
  | .number _ => []
  | .call f args => (f, args.length) :: callsInAll args

def callsInAll : List Expr → List (Function × Nat)
  | [] => []
  | e :: es => e.calls ++ callsInAll es

def Step.calls : Step → List (Function × Nat)
  | .mk _ _ predicates => callsInAll predicates

def callsInSteps : List Step → List (Function × Nat)
  | [] => []
  | s :: ss => s.calls ++ callsInSteps ss

end

/-- Whether each of some calls has a number of arguments that its function admits. -/
def Admitted (calls : List (Function × Nat)) : Prop :=
  ∀ call ∈ calls, call.1.admits call.2 = true

theorem admitted_nil : Admitted [] := nofun

theorem admitted_append {calls more : List (Function × Nat)} :
    Admitted (calls ++ more) ↔ Admitted calls ∧ Admitted more :=
  List.forall_mem_append

theorem admitted_cons {f : Function} {n : Nat} {calls : List (Function × Nat)} :
    Admitted ((f, n) :: calls) ↔ f.admits n = true ∧ Admitted calls :=
  List.forall_mem_cons

mutual

/-- The grammar knows only calls with a number of arguments that the function admits. -/
theorem Expr.Readable.admitted : {e : Expr} → e.Readable → Admitted e.calls
  | .or _ _, readable => admitted_append.mpr ⟨readable.1.admitted, readable.2.admitted⟩
  | .and _ _, readable => admitted_append.mpr ⟨readable.1.admitted, readable.2.admitted⟩
  | .compare _ _ _, readable => admitted_append.mpr ⟨readable.1.admitted, readable.2.admitted⟩
  | .arith _ _ _, readable => admitted_append.mpr ⟨readable.1.admitted, readable.2.admitted⟩
  | .negate e, readable => Expr.Readable.admitted (e := e) readable
  | .union _ _, readable => admitted_append.mpr ⟨readable.1.admitted, readable.2.admitted⟩
  | .path _ _, readable => admitted_of_allStepsReadable readable.2
  | .filter _ _ _, ⟨_, first, conditions, walked⟩ =>
      admitted_append.mpr ⟨first.admitted, admitted_append.mpr
        ⟨admitted_of_allReadable conditions, admitted_of_allStepsReadable walked⟩⟩
  | .literal _, _ => admitted_nil
  | .number _, _ => admitted_nil
  | .call _ _, readable =>
      admitted_cons.mpr ⟨readable.1, admitted_of_allReadable readable.2⟩

theorem admitted_of_allReadable : {es : List Expr} → AllReadable es → Admitted (callsInAll es)
  | [], _ => admitted_nil
  | _ :: _, readable =>
      admitted_append.mpr ⟨readable.1.admitted, admitted_of_allReadable readable.2⟩

theorem Step.Readable.admitted : {s : Step} → s.Readable → Admitted s.calls
  | .mk _ _ _, readable => admitted_of_allReadable readable

theorem admitted_of_allStepsReadable :
    {ss : List Step} → AllStepsReadable ss → Admitted (callsInSteps ss)
  | [], _ => admitted_nil
  | _ :: _, readable =>
      admitted_append.mpr ⟨readable.1.admitted, admitted_of_allStepsReadable readable.2⟩

end

/-! ## Calls that ask for their arguments -/

/-- The arguments of a call, each with its value, if it has one. -/
abbrev Arguments := List (Option Value)

namespace Arguments

variable (doc : Document) (ctx : Context) (args : Arguments)

/-- The argument at a place, which has to be there. -/
def at? (i : Nat) : Option Value := args[i]?.join

/-- The argument at a place as a number. -/
def number? (i : Nat) : Option Float := (args.at? i).map (·.toNumber doc)

/-- The argument at a place as a string, or that of the context node if there are not so many. -/
def text? (i : Nat) : Option String :=
  if i < args.length then (args.at? i).map (·.text doc) else some (doc.stringValue ctx.place)

/-- The nodes of the argument at a place, or the context node if there are not so many. -/
def places? (i : Nat) : Option (List Place) :=
  match args[i]? with
  | some value => value.map Value.places
  | none => some [ctx.place]

end Arguments

/-- The value of a call that asks for its arguments one by one.  There is none if it asks for one
that is not there, or that has no value itself. -/
def Function.call? (doc : Document) (ctx : Context) (f : Function) (args : Arguments) :
    Option Value :=
  let nameOf (places : List Place) : String := (places.head?.map doc.name).getD ""
  match f with
  | last => some (.number (Float.ofNat ctx.size))
  | position => some (.number (Float.ofNat ctx.position))
  | count => do return .number (Float.ofNat (← args.places? ctx 0).length)
  | not => do return .boolean (!(← args.at? 0).truth)
  | true => some (.boolean Bool.true)
  | false => some (.boolean Bool.false)
  | boolean => do return .boolean (← args.at? 0).truth
  | string => do return .string (← args.text? doc ctx 0)
  | number =>
      if args.isEmpty then some (.number (Number.ofString (doc.stringValue ctx.place)))
      else do return .number (← args.number? doc 0)
  | concat => do
      let texts ← (List.range args.length).mapM fun i => (args.at? i).map (·.text doc)
      return .string (String.join texts)
  | contains => do
      let s ← args.text? doc ctx 0
      let t ← args.text? doc ctx 1
      return .boolean (Strings.contains t.toList s.toList)
  | startsWith => do
      let s ← args.text? doc ctx 0
      let t ← args.text? doc ctx 1
      return .boolean (Strings.startsWith t.toList s.toList)
  | endsWith => do
      let s ← args.text? doc ctx 0
      let t ← args.text? doc ctx 1
      return .boolean (Strings.endsWith t.toList s.toList)
  | normalizeSpace => do
      return .string (" ".intercalate (Text.words (← args.text? doc ctx 0)))
  | stringLength => do return .number (Float.ofNat (← args.text? doc ctx 0).length)
  | substring => do
      let s ← args.text? doc ctx 0
      let start := Number.round (← args.number? doc 1)
      let stop ←
        if 2 < args.length then (args.number? doc 2).map fun n => start + Number.round n
        else some Number.infinity
      return .string (String.ofList (Strings.slice start stop s.toList))
  | substringBefore => do
      let s ← args.text? doc ctx 0
      let t ← args.text? doc ctx 1
      return .string (String.ofList (Strings.before t.toList s.toList))
  | substringAfter => do
      let s ← args.text? doc ctx 0
      let t ← args.text? doc ctx 1
      return .string (String.ofList (Strings.after t.toList s.toList))
  | translate => do
      let s ← args.text? doc ctx 0
      let source ← args.text? doc ctx 1
      let target ← args.text? doc ctx 2
      return .string (String.ofList (Strings.translate source.toList target.toList s.toList))
  | name => do return .string (nameOf (← args.places? ctx 0))
  | localName => do return .string (Strings.localPart (nameOf (← args.places? ctx 0)))
  | sum => do
      let places ← args.places? ctx 0
      return .number (places.foldl
        (fun total p => total + Number.ofString (doc.stringValue p)) Number.negativeZero)
  | floor => do return .number (← args.number? doc 0).floor
  | ceiling => do return .number (← args.number? doc 0).ceil
  | round => do return .number (Number.round (← args.number? doc 0))

section Calls

variable {doc : Document} {ctx : Context}

theorem mapM_at? (g : Value → String) (values : List Value) :
    ((List.range (values.map some).length).mapM fun i =>
      (Arguments.at? (values.map some) i).map g) = some (values.map g) := by
  induction values with
  | nil => rfl
  | cons v values ih =>
      rw [List.map_cons, List.length_cons, List.range_succ_eq_map, List.mapM_cons, List.mapM_map]
      -- behind the first argument the places count those of the others
      exact congrArg (fun texts => some (g v) >>= fun text => texts >>= fun more =>
        some (text :: more)) ih

theorem call?_concat (values : List Value) :
    Function.concat.call? doc ctx (values.map some) =
      some (.string (String.join (values.map (·.text doc)))) := by
  rw [Function.call?, mapM_at?]
  rfl

/-- A call with a number of arguments that its function admits asks for no other ones. -/
theorem Function.call?_map_some {f : Function} {values : List Value}
    (admitted : f.admits values.length = Bool.true) :
    f.call? doc ctx (values.map some) = f.result? doc ctx values := by
  rcases values with _ | ⟨v, _ | ⟨w, _ | ⟨x, _ | ⟨y, values⟩⟩⟩⟩ <;> cases f <;> first
    | rfl
    | exact call?_concat _
    | cases admitted

end Calls

/-! ## Evaluation -/

mutual

/-- The value of an expression, if no call that is evaluated asks for an argument which is not
there. -/
def Expr.eval? (doc : Document) : Expr → Context → Option Value
  | .or left right, ctx => do
      if (← left.eval? doc ctx).truth then return .boolean true
      else return .boolean (← right.eval? doc ctx).truth
  | .and left right, ctx => do
      if (← left.eval? doc ctx).truth then return .boolean (← right.eval? doc ctx).truth
      else return .boolean false
  | .compare op left right, ctx => do
      let a ← left.eval? doc ctx
      let b ← right.eval? doc ctx
      return .boolean (op.values doc a b)
  | .arith op left right, ctx => do
      let a ← left.eval? doc ctx
      let b ← right.eval? doc ctx
      return .number (op.apply (a.toNumber doc) (b.toNumber doc))
  | .negate e, ctx => do
      let value ← e.eval? doc ctx
      return .number (-(value.toNumber doc))
  | .union left right, ctx => do
      match ← left.eval? doc ctx, ← right.eval? doc ctx with
      | .nodes ps, .nodes qs => return .nodes (Place.sort (ps ++ qs))
      | _, _ => return .nodes []
  | .path absolute steps, ctx => do
      return .nodes (← walk? doc steps [if absolute then Place.root else ctx.place])
  | .filter primary predicates steps, ctx => do
      let value ← primary.eval? doc ctx
      let kept ← sift? doc predicates value.places
      return .nodes (← walk? doc steps kept)
  | .literal s, _ => some (.string s)
  | .number x, _ => some (.number x)
  | .call f args, ctx => f.call? doc ctx (evalEach doc args ctx)

/-- The arguments of a call with their values. -/
def evalEach (doc : Document) : List Expr → Context → Arguments
  | [], _ => []
  | e :: es, ctx => e.eval? doc ctx :: evalEach doc es ctx

/-- The nodes that all predicates keep, if these have values at the nodes. -/
def sift? (doc : Document) : List Expr → List Place → Option (List Place)
  | [], places => some places
  | p :: ps, places => do
      let size := places.length
      let kept ← (places.zipIdx 1).mapM fun (place, i) => do
        let value ← p.eval? doc ⟨place, i, size⟩
        return if keeps i value then some place else none
      sift? doc ps kept.reduceOption

/-- The nodes that a step leads to from a node, if its predicates have values. -/
def Step.from? (doc : Document) : Step → Place → Option (List Place)
  | .mk axis test predicates, place => sift? doc predicates (candidates doc place axis test)

/-- The nodes that steps lead to from some nodes, if the predicates have values. -/
def walk? (doc : Document) : List Step → List Place → Option (List Place)
  | [], places => some places
  | s :: ss, places => do
      let reached ← places.mapM fun p => s.from? doc p
      walk? doc ss (Place.sort reached.flatten)

end

section Evaluation

variable {doc : Document}

mutual

/-- An expression with admitted calls has the value that evaluation yields. -/
theorem Expr.eval?_eq (e : Expr) (admitted : Admitted e.calls) (ctx : Context) :
    e.eval? doc ctx = some (e.eval doc ctx) :=
  match e with
  | .or left right => by
      obtain ⟨first, second⟩ := admitted_append.mp admitted
      rw [Expr.eval?, Expr.eval, left.eval?_eq first ctx, right.eval?_eq second ctx]
      cases h : (left.eval doc ctx).truth <;> simp [h]
  | .and left right => by
      obtain ⟨first, second⟩ := admitted_append.mp admitted
      rw [Expr.eval?, Expr.eval, left.eval?_eq first ctx, right.eval?_eq second ctx]
      cases h : (left.eval doc ctx).truth <;> simp [h]
  | .compare op left right => by
      obtain ⟨first, second⟩ := admitted_append.mp admitted
      rw [Expr.eval?, Expr.eval, left.eval?_eq first ctx, right.eval?_eq second ctx]
      rfl
  | .arith op left right => by
      obtain ⟨first, second⟩ := admitted_append.mp admitted
      rw [Expr.eval?, Expr.eval, left.eval?_eq first ctx, right.eval?_eq second ctx]
      rfl
  | .negate e => by
      rw [Expr.eval?, Expr.eval, e.eval?_eq admitted ctx]
      rfl
  | .union left right => by
      obtain ⟨first, second⟩ := admitted_append.mp admitted
      rw [Expr.eval?, Expr.eval, left.eval?_eq first ctx, right.eval?_eq second ctx]
      cases left.eval doc ctx <;> cases right.eval doc ctx <;> rfl
  | .path absolute steps => by
      rw [Expr.eval?, Expr.eval, walk?_eq steps admitted]
      rfl
  | .filter primary predicates steps => by
      obtain ⟨first, others⟩ := admitted_append.mp admitted
      obtain ⟨conditions, further⟩ := admitted_append.mp others
      rw [Expr.eval?, Expr.eval, primary.eval?_eq first ctx]
      dsimp only [bind, Option.bind]
      rw [sift?_eq predicates conditions]
      dsimp only
      rw [walk?_eq steps further]
      rfl
  | .literal s => by rw [Expr.eval?, Expr.eval]
  | .number x => by rw [Expr.eval?, Expr.eval]
  | .call f args => by
      obtain ⟨own, others⟩ := admitted_cons.mp admitted
      have given : f.admits (evalAll doc args ctx).length = true := by rwa [length_evalAll]
      rw [Expr.eval?, Expr.eval, evalEach_eq args others ctx, Function.call?_map_some given]
      have known := f.isSome_result? doc ctx (evalAll doc args ctx)
      rw [given] at known
      rw [← Option.some_get known, Option.getD_some]

theorem evalEach_eq (es : List Expr) (admitted : Admitted (callsInAll es)) (ctx : Context) :
    evalEach doc es ctx = (evalAll doc es ctx).map some :=
  match es with
  | [] => by rw [evalEach, evalAll, List.map_nil]
  | e :: es => by
      obtain ⟨first, others⟩ := admitted_append.mp admitted
      rw [evalEach, evalAll, e.eval?_eq first ctx, evalEach_eq es others ctx, List.map_cons]

theorem sift?_eq (ps : List Expr) (admitted : Admitted (callsInAll ps)) (places : List Place) :
    sift? doc ps places = some (sift doc ps places) :=
  match ps with
  | [] => by rw [sift?, sift]
  | p :: ps => by
      obtain ⟨first, others⟩ := admitted_append.mp admitted
      have own (place : Place) (i : Nat) := p.eval?_eq first ⟨place, i, places.length⟩
      have kept : ((places.zipIdx 1).mapM fun (place, i) => do
          let value ← p.eval? doc ⟨place, i, places.length⟩
          return if keeps i value then some place else none) =
            some ((places.zipIdx 1).map fun (place, i) =>
              if keeps i (p.eval doc ⟨place, i, places.length⟩) then some place else none) := by
        simp only [own]
        exact List.mapM_pure
      rw [sift?, sift]
      dsimp only
      rw [kept, Option.bind_eq_bind, Option.bind_some, sift?_eq ps others, List.reduceOption,
        List.filterMap_map]
      rfl

theorem Step.from?_eq (s : Step) (admitted : Admitted s.calls) (place : Place) :
    s.from? doc place = some (s.from doc place) :=
  match s with
  | .mk axis test predicates => by rw [Step.from?, Step.from, sift?_eq predicates admitted]

theorem walk?_eq (ss : List Step) (admitted : Admitted (callsInSteps ss)) (places : List Place) :
    walk? doc ss places = some (walk doc ss places) :=
  match ss with
  | [] => by rw [walk?, walk]
  | s :: ss => by
      obtain ⟨first, others⟩ := admitted_append.mp admitted
      have reached : (places.mapM fun p => s.from? doc p) = some (places.map (s.from doc)) := by
        simp only [s.from?_eq first]
        exact List.mapM_pure
      rw [walk?, walk, reached, Option.bind_eq_bind, Option.bind_some, walk?_eq ss others,
        List.flatMap_def]

end

end Evaluation

/-- Every call in an expression that has been read, however deep it stands, has a number of
arguments that its function admits, so that evaluation never asks for an argument which is not
there. -/
theorem compile_admitted {source : String} {q : Query}
    (compiled : Query.compile source = .ok q) :
    Admitted q.expr.calls ∧
      ∀ (doc : Document) (ctx : Context), q.expr.eval? doc ctx = some (q.expr.eval doc ctx) := by
  have readable : q.expr.Readable := by
    rw [Query.compile] at compiled
    split at compiled
    · cases compiled
    · split at compiled
      · cases compiled
      · next parsed =>
          cases compiled
          exact Parser.readable_of_parse parsed
  exact ⟨readable.admitted, fun doc => q.expr.eval?_eq readable.admitted⟩

/-- The expression `count((//b)[last()]/c[not(contains(@d, name()))]) = position()`. -/
def nestedCalls : Expr :=
  .compare .equal
    (.call .count
      [.filter (.path true [.anywhere, .mk .child (.name "b") []]) [.call .last []]
        [.mk .child (.name "c")
          [.call .not
            [.call .contains [.path false [.mk .attributes (.name "d") []], .call .name []]]]]])
    (.call .position [])

theorem compile_admitted_nestedCalls :
    ∃ q, Query.compile "count((//b)[last()]/c[not(contains(@d, name()))]) = position()" = .ok q ∧
      q.expr.calls =
        [(.count, 1), (.last, 0), (.not, 1), (.contains, 2), (.name, 0), (.position, 0)] ∧
      Admitted q.expr.calls ∧
      ∀ (doc : Document) (ctx : Context), q.expr.eval? doc ctx = some (q.expr.eval doc ctx) := by
  have compiled :
      Query.compile "count((//b)[last()]/c[not(contains(@d, name()))]) = position()" =
        .ok ⟨"count((//b)[last()]/c[not(contains(@d, name()))]) = position()",
          nestedCalls⟩ := by cbv
  exact ⟨_, compiled, rfl, compile_admitted compiled⟩

-- Without its argument `floor` has no value, but it is not asked for one behind a true operand.
example (doc : Document) (ctx : Context) :
    (Expr.or (.call .false []) (.call .floor [])).eval? doc ctx = none ∧
      (Expr.or (.call .true []) (.call .floor [])).eval? doc ctx = some (.boolean true) :=
  ⟨rfl, rfl⟩

end Harvest.XPath
