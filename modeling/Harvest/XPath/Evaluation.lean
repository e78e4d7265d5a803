import Harvest.Document.Order
import Harvest.Text.Blank
import Harvest.XPath.Number
import Harvest.XPath.Parser

/-!
# Evaluating path expressions

The value of an expression at a node of a document, given the position of that node among those it
was selected with.  A node-set is a list in document order.  Where an operation needs a node-set
and its operand is none, the empty one takes its place, so evaluation never fails.
-/

namespace Harvest.XPath

/-- The value of an expression. -/
inductive Value where
  | nodes (places : List Place)
  | boolean (b : Bool)
  | number (x : Float)
  | string (s : String)
  deriving Repr

namespace Value

/-- A node-set is true if it has a node, a number if it is neither zero nor undefined, and a string
if it has a character. -/
def truth : Value → Bool
  | nodes places => !places.isEmpty
  | boolean b => b
  | number x => !(x == 0) && !x.isNaN
  | string s => !s.isEmpty

/-- A value as a string; for a node-set that of its first node. -/
def text (doc : Document) : Value → String
  | nodes [] => ""
  | nodes (place :: _) => doc.stringValue place
  | boolean b => if b then "true" else "false"
  | number x => Number.toString x
  | string s => s

/-- A value as a number. -/
def toNumber (doc : Document) : Value → Float
  | boolean b => if b then 1 else 0
  | number x => x
  | value => Number.ofString (value.text doc)

/-- The places of a node-set; other values select nothing. -/
def places : Value → List Place
  | nodes places => places
  | _ => []

end Value

/-- The node at which an expression is evaluated, its position from 1 in a selection, and the size
of that selection. -/
structure Context where
  place : Place
  position : Nat
  size : Nat
  deriving Repr

/-- The context of a node on its own. -/
def Context.alone (place : Place) : Context := ⟨place, 1, 1⟩

namespace Comparison

/-- Compares numbers. -/
def numbers (op : Comparison) (x y : Float) : Bool :=
  match op with
  | equal => x == y
  | notEqual => !(x == y)
  | less => x < y
  | lessEqual => x ≤ y
  | greater => x > y
  | greaterEqual => x ≥ y

def isBoolean : Value → Bool
  | .boolean _ => true
  | _ => false

def isNumber : Value → Bool
  | .number _ => true
  | _ => false

/-- Compares two values of which neither is a node-set.  Equality is one of truth values, numbers
or strings, the first of these that one of the operands is; order is always that of numbers. -/
def atoms (doc : Document) (op : Comparison) (a b : Value) : Bool :=
  let same :=
    if isBoolean a || isBoolean b then a.truth == b.truth
    else if isNumber a || isNumber b then a.toNumber doc == b.toNumber doc
    else a.text doc == b.text doc
  match op with
  | equal => same
  | notEqual => !same
  | op => op.numbers (a.toNumber doc) (b.toNumber doc)

/-- Compares two values.  A comparison with a node-set holds if it holds for the string-value of
one of the nodes; with a truth value the node-set as a whole is compared. -/
def values (doc : Document) (op : Comparison) (a b : Value) : Bool :=
  match a, b with
  | .nodes ps, .nodes qs =>
      ps.any fun p => qs.any fun q =>
        op.atoms doc (.string (doc.stringValue p)) (.string (doc.stringValue q))
  | .nodes ps, .boolean b => op.atoms doc (.boolean (!ps.isEmpty)) (.boolean b)
  | .boolean b, .nodes ps => op.atoms doc (.boolean b) (.boolean (!ps.isEmpty))
  | .nodes ps, b => ps.any fun p => op.atoms doc (.string (doc.stringValue p)) b
  | a, .nodes ps => ps.any fun p => op.atoms doc a (.string (doc.stringValue p))
  | a, b => op.atoms doc a b

end Comparison

/-- The result of an operation on two numbers. -/
def Operation.apply (op : Operation) (x y : Float) : Float :=
  match op with
  | add => x + y
  | subtract => x - y
  | multiply => x * y
  | divide => x / y
  | modulo => Number.remainder x y

namespace Strings

/-- What follows `start`, if the characters begin with it. -/
def dropStart? : List Char → List Char → Option (List Char)
  | [], cs => some cs
  | s :: ss, c :: cs => if s = c then dropStart? ss cs else none
  | _ :: _, [] => none

/-- Whether the characters begin with `start`. -/
def startsWith (start cs : List Char) : Bool := (dropStart? start cs).isSome

/-- Whether the characters end with `stop`. -/
def endsWith (stop cs : List Char) : Bool := startsWith stop.reverse cs.reverse

/-- Whether `part` occurs among the characters. -/
def contains (part : List Char) : List Char → Bool
  | [] => part.isEmpty
  | c :: cs => startsWith part (c :: cs) || contains part cs

/-- The characters before and after the first occurrence of `part`. -/
def splitFirst? (part : List Char) : List Char → Option (List Char × List Char)
  | [] => if part.isEmpty then some ([], []) else none
  | c :: cs =>
      match dropStart? part (c :: cs) with
      | some rest => some ([], rest)
      | none => (splitFirst? part cs).map fun (before, rest) => (c :: before, rest)

/-- The characters before the first occurrence of `part`, none if there is no occurrence. -/
def before (part cs : List Char) : List Char := ((splitFirst? part cs).map (·.1)).getD []

/-- The characters after the first occurrence of `part`, none if there is no occurrence. -/
def after (part cs : List Char) : List Char := ((splitFirst? part cs).map (·.2)).getD []

/-- The characters at the positions from `start` on and before `stop`, counted from 1. -/
def slice (start stop : Float) (cs : List Char) : List Char :=
  (cs.zipIdx 1).filterMap fun (c, i) =>
    let position := Float.ofNat i
    if start ≤ position && position < stop then some c else none

/-- Replaces each character that occurs in `source` by the one at the same place in `target`, and
drops it if there is none there. -/
def translate (source target cs : List Char) : List Char :=
  cs.filterMap fun c =>
    match source.idxOf? c with
    | some i => target[i]?
    | none => some c

/-- The part of a name after its last colon. -/
def localPart (name : String) : String :=
  String.ofList (name.toList.reverse.takeWhile (· != ':')).reverse

end Strings

/-- The value of a call, given the values of the arguments, if the function admits their number. -/
def Function.result? (doc : Document) (ctx : Context) (f : Function) (args : List Value) :
    Option Value :=
  let here := doc.stringValue ctx.place
  let chars (v : Value) : List Char := (v.text doc).toList
  let nameOf (places : List Place) : String := ((places.head?).map doc.name).getD ""
  match f, args with
  | last, [] => some (.number (Float.ofNat ctx.size))
  | position, [] => some (.number (Float.ofNat ctx.position))
  | count, [v] => some (.number (Float.ofNat v.places.length))
  | not, [v] => some (.boolean (!v.truth))
  | true, [] => some (.boolean Bool.true)
  | false, [] => some (.boolean Bool.false)
  | boolean, [v] => some (.boolean v.truth)
  | string, [] => some (.string here)
  | string, [v] => some (.string (v.text doc))
  | number, [] => some (.number (Number.ofString here))
  | number, [v] => some (.number (v.toNumber doc))
  | concat, v :: w :: vs => some (.string (String.join ((v :: w :: vs).map (·.text doc))))
  | contains, [v, w] => some (.boolean (Strings.contains (chars w) (chars v)))
  | startsWith, [v, w] => some (.boolean (Strings.startsWith (chars w) (chars v)))
  | endsWith, [v, w] => some (.boolean (Strings.endsWith (chars w) (chars v)))
  | normalizeSpace, [] => some (.string (" ".intercalate (Text.words here)))
  | normalizeSpace, [v] => some (.string (" ".intercalate (Text.words (v.text doc))))
  | stringLength, [] => some (.number (Float.ofNat here.length))
  | stringLength, [v] => some (.number (Float.ofNat (v.text doc).length))
  | substring, [v, w] =>
      let start := Number.round (w.toNumber doc)
      some (.string (String.ofList (Strings.slice start Number.infinity (chars v))))
  | substring, [v, w, x] =>
      let start := Number.round (w.toNumber doc)
      let stop := start + Number.round (x.toNumber doc)
      some (.string (String.ofList (Strings.slice start stop (chars v))))
  | substringBefore, [v, w] =>
      some (.string (String.ofList (Strings.before (chars w) (chars v))))
  | substringAfter, [v, w] =>
      some (.string (String.ofList (Strings.after (chars w) (chars v))))
  | translate, [v, w, x] =>
      some (.string (String.ofList (Strings.translate (chars w) (chars x) (chars v))))
  | name, [] => some (.string (nameOf [ctx.place]))
  | name, [v] => some (.string (nameOf v.places))
  | localName, [] => some (.string (Strings.localPart (nameOf [ctx.place])))
  | localName, [v] => some (.string (Strings.localPart (nameOf v.places)))
  | sum, [v] =>
      some (.number (v.places.foldl
        (fun total p => total + Number.ofString (doc.stringValue p)) Number.negativeZero))
  | floor, [v] => some (.number (v.toNumber doc).floor)
  | ceiling, [v] => some (.number (v.toNumber doc).ceil)
  | round, [v] => some (.number (Number.round (v.toNumber doc)))
  | _, _ => none

/-- Whether a node found along an axis passes a node test.  Names are compared without regard to
the case of the letters `A` to `Z`. -/
def NodeTest.accepts (doc : Document) (test : NodeTest) (place : Place) : Bool :=
  match place.index with
  | some i =>
      match test with
      | any | node => true
      | name s =>
          match doc.attribute? place.path i with
          | some a => Text.lowerAscii a.name == Text.lowerAscii s
          | none => false
      | text | comment => false
  | none =>
      match doc.content? place.path with
      | none => false
      | some content =>
          match test with
          | node => true
          | any => content.element?.isSome
          | name s =>
              match content.element? with
              | some n => Text.lowerAscii n == Text.lowerAscii s
              | none => false
          | text => content.isText
          | comment => content.isComment

/-- The nodes along an axis that pass a test, in the order in which the axis counts them. -/
def candidates (doc : Document) (place : Place) (axis : Axis) (test : NodeTest) : List Place :=
  let found := Place.sort ((doc.along place axis).filter (test.accepts doc))
  if axis.isReverse then found.reverse else found

/-- Whether a predicate with this value keeps the node at a position: a number must be that
position, and any other value true. -/
def keeps (position : Nat) : Value → Bool
  | .number x => x == Float.ofNat position
  | value => value.truth

mutual

/-- The value of an expression in a context. -/
def Expr.eval (doc : Document) : Expr → Context → Value
  | .or left right, ctx => .boolean ((left.eval doc ctx).truth || (right.eval doc ctx).truth)
  | .and left right, ctx => .boolean ((left.eval doc ctx).truth && (right.eval doc ctx).truth)
  | .compare op left right, ctx =>
      .boolean (op.values doc (left.eval doc ctx) (right.eval doc ctx))
  | .arith op left right, ctx =>
      .number (op.apply ((left.eval doc ctx).toNumber doc) ((right.eval doc ctx).toNumber doc))
  | .negate e, ctx => .number (-((e.eval doc ctx).toNumber doc))
  | .union left right, ctx =>
      match left.eval doc ctx, right.eval doc ctx with
      | .nodes ps, .nodes qs => .nodes (Place.sort (ps ++ qs))
      | _, _ => .nodes []
  | .path absolute steps, ctx =>
      .nodes (walk doc steps [if absolute then Place.root else ctx.place])
  | .filter primary predicates steps, ctx =>
      .nodes (walk doc steps (sift doc predicates (primary.eval doc ctx).places))
  | .literal s, _ => .string s
  | .number x, _ => .number x
  | .call f args, ctx => (f.result? doc ctx (evalAll doc args ctx)).getD (.nodes [])

/-- The values of arguments. -/
def evalAll (doc : Document) : List Expr → Context → List Value
  | [], _ => []
  | e :: es, ctx => e.eval doc ctx :: evalAll doc es ctx

/-- The nodes that all predicates keep, one predicate after the other; positions are counted anew
for each. -/
def sift (doc : Document) : List Expr → List Place → List Place
  | [], places => places
  | p :: ps, places =>
      let size := places.length
      sift doc ps <| (places.zipIdx 1).filterMap fun (place, i) =>
        if keeps i (p.eval doc ⟨place, i, size⟩) then some place else none

/-- The nodes that a step leads to from a node, in the order of its axis. -/
def Step.from (doc : Document) : Step → Place → List Place
  | .mk axis test predicates, place => sift doc predicates (candidates doc place axis test)

/-- The nodes that steps lead to from some nodes. -/
def walk (doc : Document) : List Step → List Place → List Place
  | [], places => places
  | s :: ss, places => walk doc ss (Place.sort (places.flatMap fun p => s.from doc p))

end

/-- What a query selects: nodes in document order, or the text of another value. -/
inductive Selection where
  | nodes (places : List Place)
  | scalar (s : String)
  deriving Repr

namespace Query

/-- The value of a query at a node. -/
def value (q : Query) (doc : Document) (place : Place) : Value :=
  q.expr.eval doc (.alone place)

def evaluate (q : Query) (doc : Document) (place : Place) : Selection :=
  match q.value doc place with
  | .nodes places => .nodes places
  | v => .scalar (v.text doc)

/-- The selected nodes; a query with another value selects none. -/
def select (q : Query) (doc : Document) (place : Place) : List Place :=
  (q.value doc place).places

/-- The first of the selected nodes. -/
def select? (q : Query) (doc : Document) (place : Place) : Option Place :=
  (q.select doc place).head?

/-- Whether the value of the query is true. -/
def holds (q : Query) (doc : Document) (place : Place) : Bool := (q.value doc place).truth

end Query

end Harvest.XPath
