import Mathlib
import Harvest.XPath.Parser

/-!
# Offsets do not matter

The parser hands the offsets of tokens on to errors and looks at them nowhere else.  Each of its
functions does with tokens that have lost their offsets what it does with the tokens themselves, up
to the offsets in the result.  Equal tokens at different offsets thus have the same expression.
-/

namespace Harvest.XPath.Parser

variable {α : Type} {stop fuel : Nat} {ts rest : List Placed}

/-- The tokens without their offsets. -/
def bare (ts : List Placed) : List Placed := ts.map fun t => ⟨t.token, 0⟩

/-- The result without offsets. -/
def erase : Result α → Result α
  | .ok (a, rest) => .ok (a, bare rest)
  | .error e => .error ⟨e.fault, 0⟩

theorem bare_cons (t : Token) (offset : Nat) (rest : List Placed) :
    bare (⟨t, offset⟩ :: rest) = ⟨t, 0⟩ :: bare rest := rfl

theorem bare_eq (ts : List Placed) :
    bare ts = (ts.map Placed.token).map fun token => ⟨token, 0⟩ := by
  rw [bare, List.map_map]
  rfl

/-- A first token that is not there is not there without offsets. -/
theorem bare_ne_cons {t : Token} (other : ∀ offset rest, ts = ⟨t, offset⟩ :: rest → False) :
    ∀ offset rest, bare ts = ⟨t, offset⟩ :: rest → False := by
  intro offset behind same
  obtain ⟨⟨token, place⟩, rest, rfl, first, -⟩ := List.map_eq_cons_iff.mp same
  obtain rfl : token = t := congrArg Placed.token first
  exact other place rest rfl

theorem fail_bare (stop : Nat) (ts : List Placed) (fault : Fault) :
    fail 0 (bare ts) fault = erase (fail stop ts fault : Result α) := by
  cases ts <;> rfl

theorem expect_bare (stop : Nat) (token : Token) (ts : List Placed) :
    expect 0 token (bare ts) =
      match expect stop token ts with
      | .ok rest => .ok (bare rest)
      | .error e => .error ⟨e.fault, 0⟩ := by
  cases ts with
  | nil => rfl
  | cons t rest =>
      rw [bare_cons, expect, expect]
      split <;> rfl

theorem startsStep_bare (ts : List Placed) : startsStep (bare ts) = startsStep ts := by
  rcases ts with _ | ⟨⟨token, offset⟩, rest⟩
  · rfl
  · cases token with
    | name s =>
        rcases rest with _ | ⟨⟨next, place⟩, rest⟩
        · rfl
        · cases next <;> rfl
    | _ => rfl

theorem axis_bare (ts : List Placed) : axis (bare ts) = erase (axis ts) := by
  rcases ts with _ | ⟨⟨token, offset⟩, rest⟩
  · rfl
  · cases token with
    | name s =>
        rcases rest with _ | ⟨⟨next, place⟩, rest⟩
        · rfl
        · cases next with
          | doubleColon =>
              rw [bare_cons, bare_cons, axis, axis]
              cases Axis.ofName? s <;> rfl
          | _ => rfl
    | _ => rfl

theorem nodeTest_bare (stop : Nat) (ts : List Placed) :
    nodeTest 0 (bare ts) = erase (nodeTest stop ts) := by
  rcases ts with _ | ⟨⟨token, offset⟩, rest⟩
  · rfl
  · cases token with
    | name s =>
        rcases rest with _ | ⟨⟨next, place⟩, rest⟩
        · rfl
        · cases next with
          | leftParen =>
              rw [bare_cons, bare_cons, nodeTest, nodeTest, expect_bare stop]
              cases isNodeType s with
              | false => rfl
              | true => cases expect stop .rightParen rest <;> rfl
          | _ => rfl
    | _ => rfl

/-- What the functions of the parser do, with some fuel, with tokens without offsets. -/
structure Erases (stop fuel : Nat) : Prop where
  expr : ∀ ts, expr 0 fuel (bare ts) = erase (expr stop fuel ts)
  binary : ∀ level ts, binary 0 fuel level (bare ts) = erase (binary stop fuel level ts)
  operators : ∀ level left ts,
    operators 0 fuel level left (bare ts) = erase (operators stop fuel level left ts)
  operand : ∀ level ts, operand 0 fuel level (bare ts) = erase (operand stop fuel level ts)
  unary : ∀ ts, unary 0 fuel (bare ts) = erase (unary stop fuel ts)
  alternatives : ∀ left ts,
    alternatives 0 fuel left (bare ts) = erase (alternatives stop fuel left ts)
  path : ∀ ts, path 0 fuel (bare ts) = erase (path stop fuel ts)
  steps : ∀ ts, steps 0 fuel (bare ts) = erase (steps stop fuel ts)
  moreSteps : ∀ ts, moreSteps 0 fuel (bare ts) = erase (moreSteps stop fuel ts)
  step : ∀ ts, step 0 fuel (bare ts) = erase (step stop fuel ts)
  predicates : ∀ ts, predicates 0 fuel (bare ts) = erase (predicates stop fuel ts)
  filter : ∀ ts, filter 0 fuel (bare ts) = erase (filter stop fuel ts)
  primary : ∀ ts, primary 0 fuel (bare ts) = erase (primary stop fuel ts)
  arguments : ∀ ts, arguments 0 fuel (bare ts) = erase (arguments stop fuel ts)
  moreArguments : ∀ ts, moreArguments 0 fuel (bare ts) = erase (moreArguments stop fuel ts)

namespace Erases

theorem zero : Erases stop 0 := by
  constructor <;> intros <;> exact fail_bare stop _ _

variable (ih : Erases stop fuel)

include ih

theorem expr_succ (ts : List Placed) :
    Parser.expr 0 (fuel + 1) (bare ts) = erase (Parser.expr stop (fuel + 1) ts) := by
  rw [Parser.expr, Parser.expr, ih.binary]

theorem binary_succ (level : Level) (ts : List Placed) :
    Parser.binary 0 (fuel + 1) level (bare ts) =
      erase (Parser.binary stop (fuel + 1) level ts) := by
  rw [Parser.binary, Parser.binary, ih.operand]
  cases Parser.operand stop fuel level ts with
  | error e => rfl
  | ok read => exact ih.operators level read.1 read.2

theorem operators_succ (level : Level) (left : Expr) (ts : List Placed) :
    Parser.operators 0 (fuel + 1) level left (bare ts) =
      erase (Parser.operators stop (fuel + 1) level left ts) := by
  cases ts with
  | nil => rfl
  | cons t rest =>
      rw [bare_cons, Parser.operators, Parser.operators, ih.operand]
      cases level.operator? t.token with
      | none => rfl
      | some apply =>
          cases Parser.operand stop fuel level rest with
          | error e => rfl
          | ok read => exact ih.operators level (apply left read.1) read.2

theorem operand_succ (level : Level) (ts : List Placed) :
    Parser.operand 0 (fuel + 1) level (bare ts) =
      erase (Parser.operand stop (fuel + 1) level ts) := by
  rw [Parser.operand, Parser.operand]
  cases level.tighter? with
  | none => exact ih.unary ts
  | some tighter => exact ih.binary tighter ts

theorem unary_succ (ts : List Placed) :
    Parser.unary 0 (fuel + 1) (bare ts) = erase (Parser.unary stop (fuel + 1) ts) := by
  rw [Parser.unary.eq_def stop]
  dsimp only
  split
  · next offset rest =>
      rw [bare_cons, Parser.unary, ih.unary]
      cases Parser.unary stop fuel rest <;> rfl
  · next other =>
      rw [Parser.unary, ih.path]
      · cases Parser.path stop fuel ts with
        | error e => rfl
        | ok read => exact ih.alternatives read.1 read.2
      · exact bare_ne_cons other

theorem alternatives_succ (left : Expr) (ts : List Placed) :
    Parser.alternatives 0 (fuel + 1) left (bare ts) =
      erase (Parser.alternatives stop (fuel + 1) left ts) := by
  rw [Parser.alternatives.eq_def stop]
  dsimp only
  split
  · next offset rest =>
      rw [bare_cons, Parser.alternatives, ih.path]
      cases Parser.path stop fuel rest with
      | error e => rfl
      | ok read => exact ih.alternatives (.union left read.1) read.2
  · next other =>
      rw [Parser.alternatives]
      · rfl
      · exact bare_ne_cons other

theorem path_succ (ts : List Placed) :
    Parser.path 0 (fuel + 1) (bare ts) = erase (Parser.path stop (fuel + 1) ts) := by
  rw [Parser.path.eq_def stop]
  dsimp only
  split
  · next offset rest =>
      rw [bare_cons, Parser.path, startsStep_bare, ih.steps]
      cases startsStep rest with
      | false => rfl
      | true => cases Parser.steps stop fuel rest <;> rfl
  · next offset rest =>
      rw [bare_cons, Parser.path, ih.steps]
      cases Parser.steps stop fuel rest <;> rfl
  · next unrooted other =>
      rw [Parser.path, startsStep_bare, ih.steps, ih.filter]
      · cases startsStep ts with
        | false => rfl
        | true => cases Parser.steps stop fuel ts <;> rfl
      · exact bare_ne_cons unrooted
      · exact bare_ne_cons other

theorem steps_succ (ts : List Placed) :
    Parser.steps 0 (fuel + 1) (bare ts) = erase (Parser.steps stop (fuel + 1) ts) := by
  rw [Parser.steps, Parser.steps, ih.step]
  cases Parser.step stop fuel ts with
  | error e => rfl
  | ok read =>
      dsimp only [erase]
      rw [ih.moreSteps]
      cases Parser.moreSteps stop fuel read.2 <;> rfl

theorem moreSteps_succ (ts : List Placed) :
    Parser.moreSteps 0 (fuel + 1) (bare ts) = erase (Parser.moreSteps stop (fuel + 1) ts) := by
  rw [Parser.moreSteps.eq_def stop]
  dsimp only
  split
  · next offset rest => rw [bare_cons, Parser.moreSteps, ih.steps]
  · next offset rest =>
      rw [bare_cons, Parser.moreSteps, ih.steps]
      cases Parser.steps stop fuel rest <;> rfl
  · next slash other =>
      rw [Parser.moreSteps]
      · rfl
      · exact bare_ne_cons slash
      · exact bare_ne_cons other

theorem step_succ (ts : List Placed) :
    Parser.step 0 (fuel + 1) (bare ts) = erase (Parser.step stop (fuel + 1) ts) := by
  rw [Parser.step.eq_def stop]
  dsimp only
  split
  · next offset rest => rw [bare_cons, Parser.step]; rfl
  · next offset rest => rw [bare_cons, Parser.step]; rfl
  · next dot other =>
      rw [Parser.step, axis_bare]
      · cases axis ts with
        | error e => rfl
        | ok found =>
            dsimp only [erase]
            rw [nodeTest_bare stop]
            cases nodeTest stop found.2 with
            | error e => rfl
            | ok tested =>
                dsimp only [erase]
                rw [ih.predicates]
                cases Parser.predicates stop fuel tested.2 <;> rfl
      · exact bare_ne_cons dot
      · exact bare_ne_cons other

theorem predicates_succ (ts : List Placed) :
    Parser.predicates 0 (fuel + 1) (bare ts) = erase (Parser.predicates stop (fuel + 1) ts) := by
  rw [Parser.predicates.eq_def stop]
  dsimp only
  split
  · next offset rest =>
      rw [bare_cons, Parser.predicates, ih.expr]
      cases Parser.expr stop fuel rest with
      | error e => rfl
      | ok read =>
          dsimp only [erase]
          rw [expect_bare stop]
          cases expect stop .rightBracket read.2 with
          | error e => rfl
          | ok behind =>
              dsimp only
              rw [ih.predicates]
              cases Parser.predicates stop fuel behind <;> rfl
  · next other =>
      rw [Parser.predicates]
      · rfl
      · exact bare_ne_cons other

theorem filter_succ (ts : List Placed) :
    Parser.filter 0 (fuel + 1) (bare ts) = erase (Parser.filter stop (fuel + 1) ts) := by
  rw [Parser.filter, Parser.filter, ih.primary]
  cases Parser.primary stop fuel ts with
  | error e => rfl
  | ok first =>
      dsimp only [erase]
      rw [ih.predicates]
      cases Parser.predicates stop fuel first.2 with
      | error e => rfl
      | ok kept =>
          dsimp only [erase]
          rw [ih.moreSteps]
          cases Parser.moreSteps stop fuel kept.2 with
          | error e => rfl
          | ok walked =>
              dsimp only [erase]
              split <;> rfl

theorem primary_succ (ts : List Placed) :
    Parser.primary 0 (fuel + 1) (bare ts) = erase (Parser.primary stop (fuel + 1) ts) := by
  rcases ts with _ | ⟨⟨token, offset⟩, rest⟩
  · rfl
  · cases token with
    | leftParen =>
        rw [bare_cons, Parser.primary, Parser.primary, ih.expr]
        cases Parser.expr stop fuel rest with
        | error e => rfl
        | ok read =>
            dsimp only [erase]
            rw [expect_bare stop]
            cases expect stop .rightParen read.2 <;> rfl
    | name s =>
        rcases rest with _ | ⟨⟨next, place⟩, rest⟩
        · rfl
        · cases next with
          | leftParen =>
              rw [bare_cons, bare_cons, Parser.primary, Parser.primary, ih.arguments]
              cases Function.ofWord? s with
              | none => rfl
              | some f =>
                  cases Parser.arguments stop fuel rest with
                  | error e => rfl
                  | ok read =>
                      dsimp only [erase]
                      split <;> rfl
          | _ => rfl
    | _ => rfl

theorem arguments_succ (ts : List Placed) :
    Parser.arguments 0 (fuel + 1) (bare ts) = erase (Parser.arguments stop (fuel + 1) ts) := by
  rw [Parser.arguments.eq_def stop]
  dsimp only
  split
  · next offset rest => rw [bare_cons, Parser.arguments]; rfl
  · next other =>
      rw [Parser.arguments, ih.moreArguments]
      exact bare_ne_cons other

theorem moreArguments_succ (ts : List Placed) :
    Parser.moreArguments 0 (fuel + 1) (bare ts) =
      erase (Parser.moreArguments stop (fuel + 1) ts) := by
  rw [Parser.moreArguments, Parser.moreArguments, ih.expr]
  cases Parser.expr stop fuel ts with
  | error e => rfl
  | ok read =>
      obtain ⟨e, behind⟩ := read
      dsimp only [erase]
      rcases behind with _ | ⟨⟨token, offset⟩, rest⟩
      · rfl
      · cases token with
        | comma =>
            rw [bare_cons]
            dsimp only
            rw [ih.moreArguments]
            cases Parser.moreArguments stop fuel rest <;> rfl
        | _ => rfl

theorem succ : Erases stop (fuel + 1) where
  expr := ih.expr_succ
  binary := ih.binary_succ
  operators := ih.operators_succ
  operand := ih.operand_succ
  unary := ih.unary_succ
  alternatives := ih.alternatives_succ
  path := ih.path_succ
  steps := ih.steps_succ
  moreSteps := ih.moreSteps_succ
  step := ih.step_succ
  predicates := ih.predicates_succ
  filter := ih.filter_succ
  primary := ih.primary_succ
  arguments := ih.arguments_succ
  moreArguments := ih.moreArguments_succ

end Erases

theorem erases (stop fuel : Nat) : Erases stop fuel := by
  induction fuel with
  | zero => exact .zero
  | succ fuel ih => exact ih.succ

/-- The parser reports the same fault, or reads the same expression. -/
theorem parse_bare (stop : Nat) (ts : List Placed) :
    parse 0 (bare ts) = (parse stop ts).mapError fun e => ⟨e.fault, 0⟩ := by
  cases ts with
  | nil => rfl
  | cons t rest =>
      have fuel : fuelFor (bare (t :: rest)) = fuelFor (t :: rest) := by
        rw [fuelFor, bare, List.length_map, fuelFor]
      have whole := (erases stop (fuelFor (t :: rest))).expr (t :: rest)
      rw [parse, parse, fuel, whole, bare_cons]
      cases expr stop (fuelFor (t :: rest)) (t :: rest) with
      | error e => rfl
      | ok read =>
          obtain ⟨e, behind⟩ := read
          cases behind <;> rfl

/-- Equal tokens have the same expression, wherever they stand. -/
theorem parse_congr {stop : Nat} {ts us : List Placed} {e : Expr} (stop' : Nat)
    (same : us.map Placed.token = ts.map Placed.token) (parsed : parse stop ts = .ok e) :
    parse stop' us = .ok e := by
  have erased : bare us = bare ts := by rw [bare_eq, same, bare_eq]
  have both := parse_bare stop' us
  rw [erased, parse_bare stop ts, parsed] at both
  cases read : parse stop' us with
  | error fault =>
      rw [read] at both
      cases both
  | ok other =>
      rw [read] at both
      exact both.symm

end Harvest.XPath.Parser
