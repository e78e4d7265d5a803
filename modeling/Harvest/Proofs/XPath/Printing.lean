import Mathlib
import Harvest.XPath.Parser

/-!
# Writing expressions

An expression as a list of tokens, with axes under their full names and with parentheses where the
grammar needs them and nowhere else: around an operand that binds less tightly than its operator
(all operators group to the left), around the primary expression of a filter unless it is a literal,
a number or a call, and around the path `/` where it is an operand, since what follows it could be
taken for a step.
-/

namespace Harvest.XPath

/-! ## How tightly expressions bind -/

/-- How tightly the operators of a level bind. -/
def Level.rank : Level → Nat
  | or => 1
  | and => 2
  | equality => 3
  | relational => 4
  | additive => 5
  | multiplicative => 6

theorem Level.rank_pos (level : Level) : 0 < level.rank := by
  cases level <;> decide

theorem Level.rank_le (level : Level) : level.rank ≤ 6 := by
  cases level <;> decide

theorem Level.rank_of_tighter? {level tighter : Level} (next : level.tighter? = some tighter) :
    tighter.rank = level.rank + 1 := by
  cases level <;> cases next <;> rfl

/-- The level of a comparison. -/
def Comparison.level : Comparison → Level
  | equal | notEqual => .equality
  | less | lessEqual | greater | greaterEqual => .relational

def Comparison.token : Comparison → Token
  | equal => .equal
  | notEqual => .notEqual
  | less => .less
  | lessEqual => .lessEqual
  | greater => .greater
  | greaterEqual => .greaterEqual

/-- The level of an operation. -/
def Operation.level : Operation → Level
  | add | subtract => .additive
  | multiply | divide | modulo => .multiplicative

def Operation.token : Operation → Token
  | add => .plus
  | subtract => .minus
  | multiply => .star
  | divide => .name "div"
  | modulo => .name "mod"

namespace Expr

/-- How tightly an expression holds together: binary operators by their levels, then the sign, then
unions, and paths and primary expressions with what follows them most of all. -/
def rank : Expr → Nat
  | .or _ _ => Level.or.rank
  | .and _ _ => Level.and.rank
  | .compare op _ _ => op.level.rank
  | .arith op _ _ => op.level.rank
  | .negate _ => 7
  | .union _ _ => 8
  | .path _ _ => 9
  | .filter _ _ _ => 9
  | .literal _ => 9
  | .number _ => 9
  | .call _ _ => 9

theorem rank_pos (e : Expr) : 0 < e.rank := by
  cases e with
  | compare op left right => exact op.level.rank_pos
  | arith op left right => exact op.level.rank_pos
  | _ => simp [rank, Level.rank]

/-- Whether an expression is the path `/`. -/
def isBare : Expr → Bool
  | .path true [] => true
  | _ => false

/-- Whether an expression is a primary expression without parentheses. -/
def isPrimary : Expr → Bool
  | .literal _ => true
  | .number _ => true
  | .call _ _ => true
  | _ => false

/-- Whether an expression needs parentheses where an operand of rank `k` is expected. -/
def isLoose (k : Nat) (e : Expr) : Bool := e.rank < k || e.isBare

end Expr

/-! ## Tokens -/

/-- Tokens in parentheses, if these are needed. -/
def enclose (needed : Bool) (ts : List Token) : List Token :=
  if needed then .leftParen :: (ts ++ [.rightParen]) else ts

def NodeTest.print : NodeTest → List Token
  | any => [.star]
  | name s => [.name s]
  | text => [.name "text", .leftParen, .rightParen]
  | comment => [.name "comment", .leftParen, .rightParen]
  | node => [.name "node", .leftParen, .rightParen]

mutual

/-- The tokens that write an expression.  The left operand of an operator may be of its own rank, as
operators group to the left; the right one binds more tightly. -/
def Expr.print : Expr → List Token
  | .or left right =>
      enclose (left.isLoose Level.or.rank) left.print ++
        .name "or" :: enclose (right.isLoose (Level.or.rank + 1)) right.print
  | .and left right =>
      enclose (left.isLoose Level.and.rank) left.print ++
        .name "and" :: enclose (right.isLoose (Level.and.rank + 1)) right.print
  | .compare op left right =>
      enclose (left.isLoose op.level.rank) left.print ++
        op.token :: enclose (right.isLoose (op.level.rank + 1)) right.print
  | .arith op left right =>
      enclose (left.isLoose op.level.rank) left.print ++
        op.token :: enclose (right.isLoose (op.level.rank + 1)) right.print
  | .negate e => .minus :: enclose (e.isLoose 7) e.print
  | .union left right =>
      enclose (left.isLoose 8) left.print ++ .pipe :: enclose (right.isLoose 9) right.print
  | .path absolute steps => (if absolute then [.slash] else []) ++ printSteps steps
  | .filter primary predicates steps =>
      enclose (!primary.isPrimary) primary.print ++ printPredicates predicates ++
        printMoreSteps steps
  | .literal s => [.literal s]
  | .number x => [.number x]
  | .call f args => .name f.word :: .leftParen :: (printArguments args ++ [.rightParen])

/-- Arguments with commas between them. -/
def printArguments : List Expr → List Token
  | [] => []
  | e :: es => e.print ++ printMoreArguments es

/-- Arguments, each behind a comma. -/
def printMoreArguments : List Expr → List Token
  | [] => []
  | e :: es => .comma :: (e.print ++ printMoreArguments es)

/-- Predicates in brackets. -/
def printPredicates : List Expr → List Token
  | [] => []
  | p :: ps => .leftBracket :: (p.print ++ .rightBracket :: printPredicates ps)

/-- A step with its axis. -/
def Step.print : Step → List Token
  | .mk axis test predicates =>
      .name axis.name :: .doubleColon :: (test.print ++ printPredicates predicates)

/-- Steps with slashes between them. -/
def printSteps : List Step → List Token
  | [] => []
  | s :: ss => s.print ++ printMoreSteps ss

/-- Steps, each behind a slash. -/
def printMoreSteps : List Step → List Token
  | [] => []
  | s :: ss => .slash :: (s.print ++ printMoreSteps ss)

end

/-- The tokens that write an operand of rank `k`. -/
def Expr.printOperand (k : Nat) (e : Expr) : List Token := enclose (e.isLoose k) e.print

/-! ## What can be written -/

mutual

/-- Whether an expression is one that the grammar knows: a relative path has a step, a filter has
a predicate or a step, and a call has as many arguments as its function takes. -/
def Expr.Readable : Expr → Prop
  | .or left right => left.Readable ∧ right.Readable
  | .and left right => left.Readable ∧ right.Readable
  | .compare _ left right => left.Readable ∧ right.Readable
  | .arith _ left right => left.Readable ∧ right.Readable
  | .negate e => e.Readable
  | .union left right => left.Readable ∧ right.Readable
  | .path absolute steps => (absolute = true ∨ steps ≠ []) ∧ AllStepsReadable steps
  | .filter primary predicates steps =>
      (predicates ≠ [] ∨ steps ≠ []) ∧ primary.Readable ∧ AllReadable predicates ∧
        AllStepsReadable steps
  | .literal _ => True
  | .number _ => True
  | .call f args => f.admits args.length ∧ AllReadable args

def AllReadable : List Expr → Prop
  | [] => True
  | e :: es => e.Readable ∧ AllReadable es

def Step.Readable : Step → Prop
  | .mk _ _ predicates => AllReadable predicates

def AllStepsReadable : List Step → Prop
  | [] => True
  | s :: ss => s.Readable ∧ AllStepsReadable ss

end

end Harvest.XPath
