import Harvest.Document.Axis

/-!
# Path expressions

The abstract form of expressions.  Abbreviations are gone: `//` has become a step of its own, `@`,
`.` and `..` have become steps with axes.
-/

namespace Harvest.XPath

/-- How two values are compared. -/
inductive Comparison where
  | equal
  | notEqual
  | less
  | lessEqual
  | greater
  | greaterEqual
  deriving DecidableEq, Repr

/-- An operation on two numbers. -/
inductive Operation where
  | add
  | subtract
  | multiply
  | divide
  | modulo
  deriving DecidableEq, Repr

/-- What a step demands of a node: any element (on the attribute axis, any attribute), one with a
name, a text, a comment, or nothing. -/
inductive NodeTest where
  | any
  | name (s : String)
  | text
  | comment
  | node
  deriving DecidableEq, Repr

inductive Function where
  | last
  | position
  | count
  | not
  | true
  | false
  | boolean
  | string
  | number
  | concat
  | contains
  | startsWith
  | endsWith
  | normalizeSpace
  | stringLength
  | substring
  | substringBefore
  | substringAfter
  | translate
  | name
  | localName
  | sum
  | floor
  | ceiling
  | round
  deriving DecidableEq, Repr

namespace Function

/-- The word for a function in expressions. -/
def word : Function → String
  | last => "last"
  | position => "position"
  | count => "count"
  | not => "not"
  | true => "true"
  | false => "false"
  | boolean => "boolean"
  | string => "string"
  | number => "number"
  | concat => "concat"
  | contains => "contains"
  | startsWith => "starts-with"
  | endsWith => "ends-with"
  | normalizeSpace => "normalize-space"
  | stringLength => "string-length"
  | substring => "substring"
  | substringBefore => "substring-before"
  | substringAfter => "substring-after"
  | translate => "translate"
  | name => "name"
  | localName => "local-name"
  | sum => "sum"
  | floor => "floor"
  | ceiling => "ceiling"
  | round => "round"

def all : List Function :=
  [last, position, count, not, true, false, boolean, string, number, concat, contains, startsWith,
    endsWith, normalizeSpace, stringLength, substring, substringBefore, substringAfter, translate,
    name, localName, sum, floor, ceiling, round]

/-- The function for a word. -/
def ofWord? (word : String) : Option Function := all.find? (·.word == word)

/-- Whether a function takes this number of arguments. -/
def admits (f : Function) (n : Nat) : Bool :=
  match f with
  | last | position | true | false => n == 0
  | count | not | boolean | sum | floor | ceiling | round => n == 1
  | string | number | normalizeSpace | stringLength | name | localName => n ≤ 1
  | contains | startsWith | endsWith | substringBefore | substringAfter => n == 2
  | substring => n == 2 || n == 3
  | translate => n == 3
  | concat => 2 ≤ n

end Function

mutual

/-- An expression. -/
inductive Expr where
  | or (left right : Expr)
  | and (left right : Expr)
  | compare (op : Comparison) (left right : Expr)
  | arith (op : Operation) (left right : Expr)
  | negate (operand : Expr)
  | union (left right : Expr)
  /-- A location path, from the root or from the context node. -/
  | path (absolute : Bool) (steps : List Step)
  /-- A primary expression with predicates, continued by steps. -/
  | filter (primary : Expr) (predicates : List Expr) (steps : List Step)
  | literal (s : String)
  | number (x : Float)
  | call (function : Function) (arguments : List Expr)

/-- A step of a path: where to go, what to keep, and further conditions. -/
inductive Step where
  | mk (axis : Axis) (test : NodeTest) (predicates : List Expr)

end

deriving instance Repr for Expr
deriving instance Repr for Step

instance : Inhabited Expr := ⟨.literal ""⟩

namespace Step

def axis : Step → Axis
  | mk axis _ _ => axis

def test : Step → NodeTest
  | mk _ test _ => test

def predicates : Step → List Expr
  | mk _ _ predicates => predicates

/-- The step that `//` stands for. -/
def anywhere : Step := mk .descendantOrSelf .node []

end Step

end Harvest.XPath
