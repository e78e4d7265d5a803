import Harvest.XPath.Expr
import Harvest.XPath.Token

/-!
# Reading path expressions

Recursive descent over the tokens.  Whether `*` and the names `and`, `or`, `div` and `mod` are
operators is decided by their place: they are where a complete operand has just been read, and
nowhere else.  Each function returns what it read with the tokens that are left; `stop` is the
length of the expression in bytes, where errors behind the last token are reported.  The recursion
is bounded by `fuel`, which `parse` takes from the number of tokens; that it ran out is a fault of
its own.
-/

namespace Harvest.XPath

/-- The binary operators by how tightly they bind, the loosest first. -/
inductive Level where
  | or
  | and
  | equality
  | relational
  | additive
  | multiplicative
  deriving DecidableEq, Repr

namespace Level

/-- The next tighter level. -/
def tighter? : Level → Option Level
  | or => some and
  | and => some equality
  | equality => some relational
  | relational => some additive
  | additive => some multiplicative
  | multiplicative => none

/-- What an operator of this level makes of its operands. -/
def operator? (level : Level) (token : Token) : Option (Expr → Expr → Expr) :=
  match level, token with
  | or, .name "or" => some .or
  | and, .name "and" => some .and
  | equality, .equal => some (.compare .equal)
  | equality, .notEqual => some (.compare .notEqual)
  | relational, .less => some (.compare .less)
  | relational, .lessEqual => some (.compare .lessEqual)
  | relational, .greater => some (.compare .greater)
  | relational, .greaterEqual => some (.compare .greaterEqual)
  | additive, .plus => some (.arith .add)
  | additive, .minus => some (.arith .subtract)
  | multiplicative, .star => some (.arith .multiply)
  | multiplicative, .name "div" => some (.arith .divide)
  | multiplicative, .name "mod" => some (.arith .modulo)
  | _, _ => none

end Level

namespace Parser

/-- What a part of the grammar yields: its meaning and the tokens after it. -/
abbrev Result (α : Type) := Except Error (α × List Placed)

/-- Fails at the first of the tokens that are left. -/
def fail {α : Type} (stop : Nat) (ts : List Placed) (fault : Fault) : Result α :=
  .error ⟨fault, (ts.head?.map Placed.offset).getD stop⟩

/-- The tokens behind `token`, which must come next. -/
def expect (stop : Nat) (token : Token) (ts : List Placed) : Except Error (List Placed) :=
  match ts with
  | t :: rest =>
      if t.token = token then .ok rest else .error ⟨.expected token, t.offset⟩
  | [] => .error ⟨.expected token, stop⟩

/-- Whether a name in front of a parenthesis is a node test and not a function. -/
def isNodeType (name : String) : Bool := name == "text" || name == "node" || name == "comment"

/-- Whether a step begins here. -/
def startsStep : List Placed → Bool
  | ⟨.at, _⟩ :: _ => true
  | ⟨.dot, _⟩ :: _ => true
  | ⟨.doubleDot, _⟩ :: _ => true
  | ⟨.star, _⟩ :: _ => true
  | ⟨.name name, _⟩ :: ⟨.leftParen, _⟩ :: _ => isNodeType name
  | ⟨.name _, _⟩ :: _ => true
  | _ => false

/-- The axis of a step, written or understood. -/
def axis (ts : List Placed) : Result Axis :=
  match ts with
  | ⟨.at, _⟩ :: rest => .ok (.attributes, rest)
  | ⟨.name name, offset⟩ :: ⟨.doubleColon, _⟩ :: rest =>
      match Axis.ofName? name with
      | some axis => .ok (axis, rest)
      | none => .error ⟨.unknownAxis name, offset⟩
  | _ => .ok (.child, ts)

/-- The node test of a step. -/
def nodeTest (stop : Nat) (ts : List Placed) : Result NodeTest :=
  match ts with
  | ⟨.star, _⟩ :: rest => .ok (.any, rest)
  | ⟨.name name, _⟩ :: ⟨.leftParen, offset⟩ :: rest =>
      if isNodeType name then
        match expect stop .rightParen rest with
        | .error e => .error e
        | .ok rest =>
            .ok (if name == "text" then .text else if name == "comment" then .comment else .node,
              rest)
      else .ok (.name name, ⟨.leftParen, offset⟩ :: rest)
  | ⟨.name name, _⟩ :: rest => .ok (.name name, rest)
  | _ => fail stop ts .noNodeTest

mutual

/-- A whole expression. -/
def expr (stop : Nat) (fuel : Nat) (ts : List Placed) : Result Expr :=
  match fuel with
  | 0 => fail stop ts .exhausted
  | fuel + 1 => binary stop fuel .or ts

/-- Operands with operators of one level between them. -/
def binary (stop : Nat) (fuel : Nat) (level : Level) (ts : List Placed) : Result Expr :=
  match fuel with
  | 0 => fail stop ts .exhausted
  | fuel + 1 =>
      match operand stop fuel level ts with
      | .error e => .error e
      | .ok (left, rest) => operators stop fuel level left rest

/-- The operators and operands that follow `left`. -/
def operators (stop : Nat) (fuel : Nat) (level : Level) (left : Expr) (ts : List Placed) :
    Result Expr :=
  match fuel with
  | 0 => fail stop ts .exhausted
  | fuel + 1 =>
      match ts with
      | [] => .ok (left, [])
      | t :: rest =>
          match level.operator? t.token with
          | none => .ok (left, t :: rest)
          | some apply =>
              match operand stop fuel level rest with
              | .error e => .error e
              | .ok (right, rest) => operators stop fuel level (apply left right) rest

/-- An operand of the operators of a level. -/
def operand (stop : Nat) (fuel : Nat) (level : Level) (ts : List Placed) : Result Expr :=
  match fuel with
  | 0 => fail stop ts .exhausted
  | fuel + 1 =>
      match level.tighter? with
      | some level => binary stop fuel level ts
      | none => unary stop fuel ts

/-- An operand with signs before it. -/
def unary (stop : Nat) (fuel : Nat) (ts : List Placed) : Result Expr :=
  match fuel with
  | 0 => fail stop ts .exhausted
  | fuel + 1 =>
      match ts with
      | ⟨.minus, _⟩ :: rest =>
          match unary stop fuel rest with
          | .error e => .error e
          | .ok (inner, rest) => .ok (.negate inner, rest)
      | _ =>
          match path stop fuel ts with
          | .error e => .error e
          | .ok (left, rest) => alternatives stop fuel left rest

/-- The further members of a union that begins with `left`. -/
def alternatives (stop : Nat) (fuel : Nat) (left : Expr) (ts : List Placed) : Result Expr :=
  match fuel with
  | 0 => fail stop ts .exhausted
  | fuel + 1 =>
      match ts with
      | ⟨.pipe, _⟩ :: rest =>
          match path stop fuel rest with
          | .error e => .error e
          | .ok (right, rest) => alternatives stop fuel (.union left right) rest
      | _ => .ok (left, ts)

/-- A path, or a primary expression with what may follow it. -/
def path (stop : Nat) (fuel : Nat) (ts : List Placed) : Result Expr :=
  match fuel with
  | 0 => fail stop ts .exhausted
  | fuel + 1 =>
      match ts with
      | ⟨.slash, _⟩ :: rest =>
          if startsStep rest then
            match steps stop fuel rest with
            | .error e => .error e
            | .ok (ss, rest) => .ok (.path true ss, rest)
          else .ok (.path true [], rest)
      | ⟨.doubleSlash, _⟩ :: rest =>
          match steps stop fuel rest with
          | .error e => .error e
          | .ok (ss, rest) => .ok (.path true (Step.anywhere :: ss), rest)
      | _ =>
          if startsStep ts then
            match steps stop fuel ts with
            | .error e => .error e
            | .ok (ss, rest) => .ok (.path false ss, rest)
          else filter stop fuel ts

/-- Steps with slashes between them. -/
def steps (stop : Nat) (fuel : Nat) (ts : List Placed) : Result (List Step) :=
  match fuel with
  | 0 => fail stop ts .exhausted
  | fuel + 1 =>
      match step stop fuel ts with
      | .error e => .error e
      | .ok (s, rest) =>
          match moreSteps stop fuel rest with
          | .error e => .error e
          | .ok (ss, rest) => .ok (s :: ss, rest)

/-- Steps, each behind a slash. -/
def moreSteps (stop : Nat) (fuel : Nat) (ts : List Placed) : Result (List Step) :=
  match fuel with
  | 0 => fail stop ts .exhausted
  | fuel + 1 =>
      match ts with
      | ⟨.slash, _⟩ :: rest => steps stop fuel rest
      | ⟨.doubleSlash, _⟩ :: rest =>
          match steps stop fuel rest with
          | .error e => .error e
          | .ok (ss, rest) => .ok (Step.anywhere :: ss, rest)
      | _ => .ok ([], ts)

/-- A step. -/
def step (stop : Nat) (fuel : Nat) (ts : List Placed) : Result Step :=
  match fuel with
  | 0 => fail stop ts .exhausted
  | fuel + 1 =>
      match ts with
      | ⟨.dot, _⟩ :: rest => .ok (.mk .self .node [], rest)
      | ⟨.doubleDot, _⟩ :: rest => .ok (.mk .parent .node [], rest)
      | _ =>
          match axis ts with
          | .error e => .error e
          | .ok (axis, rest) =>
              match nodeTest stop rest with
              | .error e => .error e
              | .ok (test, rest) =>
                  match predicates stop fuel rest with
                  | .error e => .error e
                  | .ok (ps, rest) => .ok (.mk axis test ps, rest)

/-- Predicates in brackets, any number of them. -/
def predicates (stop : Nat) (fuel : Nat) (ts : List Placed) : Result (List Expr) :=
  match fuel with
  | 0 => fail stop ts .exhausted
  | fuel + 1 =>
      match ts with
      | ⟨.leftBracket, _⟩ :: rest =>
          match expr stop fuel rest with
          | .error e => .error e
          | .ok (p, rest) =>
              match expect stop .rightBracket rest with
              | .error e => .error e
              | .ok rest =>
                  match predicates stop fuel rest with
                  | .error e => .error e
                  | .ok (ps, rest) => .ok (p :: ps, rest)
      | _ => .ok ([], ts)

/-- A primary expression with predicates and steps. -/
def filter (stop : Nat) (fuel : Nat) (ts : List Placed) : Result Expr :=
  match fuel with
  | 0 => fail stop ts .exhausted
  | fuel + 1 =>
      match primary stop fuel ts with
      | .error e => .error e
      | .ok (e, rest) =>
          match predicates stop fuel rest with
          | .error e => .error e
          | .ok (ps, rest) =>
              match moreSteps stop fuel rest with
              | .error e => .error e
              | .ok (ss, rest) =>
                  if ps.isEmpty && ss.isEmpty then .ok (e, rest)
                  else .ok (.filter e ps ss, rest)

/-- A literal, a number, an expression in parentheses, or a call. -/
def primary (stop : Nat) (fuel : Nat) (ts : List Placed) : Result Expr :=
  match fuel with
  | 0 => fail stop ts .exhausted
  | fuel + 1 =>
      match ts with
      | ⟨.literal s, _⟩ :: rest => .ok (.literal s, rest)
      | ⟨.number x, _⟩ :: rest => .ok (.number x, rest)
      | ⟨.leftParen, _⟩ :: rest =>
          match expr stop fuel rest with
          | .error e => .error e
          | .ok (e, rest) =>
              match expect stop .rightParen rest with
              | .error e => .error e
              | .ok rest => .ok (e, rest)
      | ⟨.name name, offset⟩ :: ⟨.leftParen, _⟩ :: rest =>
          match Function.ofWord? name with
          | none => .error ⟨.unknownFunction name, offset⟩
          | some f =>
              match arguments stop fuel rest with
              | .error e => .error e
              | .ok (es, rest) =>
                  if f.admits es.length then .ok (.call f es, rest)
                  else .error ⟨.argumentCount name es.length, offset⟩
      | _ => fail stop ts .noOperand

/-- The arguments of a call with the parenthesis after them. -/
def arguments (stop : Nat) (fuel : Nat) (ts : List Placed) : Result (List Expr) :=
  match fuel with
  | 0 => fail stop ts .exhausted
  | fuel + 1 =>
      match ts with
      | ⟨.rightParen, _⟩ :: rest => .ok ([], rest)
      | _ => moreArguments stop fuel ts

/-- The arguments of a call from one of them on, with the parenthesis after them. -/
def moreArguments (stop : Nat) (fuel : Nat) (ts : List Placed) : Result (List Expr) :=
  match fuel with
  | 0 => fail stop ts .exhausted
  | fuel + 1 =>
      match expr stop fuel ts with
      | .error e => .error e
      | .ok (e, ⟨.comma, _⟩ :: rest) =>
          match moreArguments stop fuel rest with
          | .error e => .error e
          | .ok (es, rest) => .ok (e :: es, rest)
      | .ok (e, rest) =>
          match expect stop .rightParen rest with
          | .error e => .error e
          | .ok rest => .ok ([e], rest)

end

/-- A bound on the nesting of calls over that many tokens: between two calls that take a token off
the list there are fewer than twenty-four that do not. -/
def fuelFor (ts : List Placed) : Nat := 24 * (ts.length + 1)

/-- The expression that a list of tokens writes, all of them used. -/
def parse (stop : Nat) (ts : List Placed) : Except Error Expr :=
  if ts.isEmpty then .error ⟨.empty, 0⟩
  else
    match expr stop (fuelFor ts) ts with
    | .error e => .error e
    | .ok (e, []) => .ok e
    | .ok (_, t :: _) => .error ⟨.unexpected t.token, t.offset⟩

end Parser

/-- A path expression that has been read, with its text. -/
structure Query where
  source : String
  expr : Expr
  deriving Repr, Inhabited

/-- Reads a path expression. -/
def Query.compile (source : String) : Except Error Query :=
  match tokens source with
  | .error e => .error e
  | .ok ts =>
      match Parser.parse source.utf8ByteSize ts with
      | .error e => .error e
      | .ok e => .ok ⟨source, e⟩

end Harvest.XPath
