import Mathlib
import Harvest.Proofs.XPath.Printing

/-!
# What the parser yields

Each function of the parser yields expressions that the grammar knows, so every call in them has
arguments that its function takes, and no path or filter is empty.
-/

namespace Harvest.XPath.Parser

variable {stop fuel : Nat} {ts rest : List Placed} {e : Expr}

/-- What the functions of the parser yield with some fuel. -/
structure Yields (stop fuel : Nat) : Prop where
  expr : ∀ {ts e rest}, expr stop fuel ts = .ok (e, rest) → e.Readable
  binary : ∀ {level ts e rest}, binary stop fuel level ts = .ok (e, rest) → e.Readable
  operators : ∀ {level left ts e rest}, operators stop fuel level left ts = .ok (e, rest) →
    left.Readable → e.Readable
  operand : ∀ {level ts e rest}, operand stop fuel level ts = .ok (e, rest) → e.Readable
  unary : ∀ {ts e rest}, unary stop fuel ts = .ok (e, rest) → e.Readable
  alternatives : ∀ {left ts e rest}, alternatives stop fuel left ts = .ok (e, rest) →
    left.Readable → e.Readable
  path : ∀ {ts e rest}, path stop fuel ts = .ok (e, rest) → e.Readable
  steps : ∀ {ts ss rest}, steps stop fuel ts = .ok (ss, rest) → ss ≠ [] ∧ AllStepsReadable ss
  moreSteps : ∀ {ts ss rest}, moreSteps stop fuel ts = .ok (ss, rest) → AllStepsReadable ss
  step : ∀ {ts s rest}, step stop fuel ts = .ok (s, rest) → s.Readable
  predicates : ∀ {ts ps rest}, predicates stop fuel ts = .ok (ps, rest) → AllReadable ps
  filter : ∀ {ts e rest}, filter stop fuel ts = .ok (e, rest) → e.Readable
  primary : ∀ {ts e rest}, primary stop fuel ts = .ok (e, rest) → e.Readable
  arguments : ∀ {ts es rest}, arguments stop fuel ts = .ok (es, rest) → AllReadable es
  moreArguments : ∀ {ts es rest}, moreArguments stop fuel ts = .ok (es, rest) → AllReadable es

/-- An operator makes readable expressions out of readable operands. -/
theorem readable_of_operator? {level : Level} {token : Token} {apply : Expr → Expr → Expr}
    (operator : level.operator? token = some apply) {left right : Expr} (first : left.Readable)
    (second : right.Readable) : (apply left right).Readable := by
  unfold Level.operator? at operator
  split at operator
  all_goals first
    | cases operator; exact ⟨first, second⟩
    | cases operator

theorem readable_anywhere : Step.anywhere.Readable := trivial

namespace Yields

theorem zero : Yields stop 0 := by
  constructor <;> intros <;> contradiction

variable (ih : Yields stop fuel)

include ih

theorem expr_succ (read : Parser.expr stop (fuel + 1) ts = .ok (e, rest)) : e.Readable := by
  rw [Parser.expr] at read
  exact ih.binary read

theorem binary_succ {level : Level}
    (read : Parser.binary stop (fuel + 1) level ts = .ok (e, rest)) : e.Readable := by
  rw [Parser.binary] at read
  split at read
  · cases read
  · next left behind first => exact ih.operators read (ih.operand first)

theorem operators_succ {level : Level} {left : Expr}
    (read : Parser.operators stop (fuel + 1) level left ts = .ok (e, rest))
    (readable : left.Readable) : e.Readable := by
  rw [Parser.operators.eq_def] at read
  dsimp only at read
  split at read
  · cases read
    exact readable
  · split at read
    · cases read
      exact readable
    · next apply operator =>
        split at read
        · cases read
        · next right behind second =>
            exact ih.operators read (readable_of_operator? operator readable (ih.operand second))

theorem operand_succ {level : Level}
    (read : Parser.operand stop (fuel + 1) level ts = .ok (e, rest)) : e.Readable := by
  rw [Parser.operand] at read
  split at read
  · exact ih.binary read
  · exact ih.unary read

theorem unary_succ (read : Parser.unary stop (fuel + 1) ts = .ok (e, rest)) : e.Readable := by
  rw [Parser.unary.eq_def] at read
  dsimp only at read
  split at read
  · split at read
    · cases read
    · next inner behind signed =>
        cases read
        have readable : inner.Readable := ih.unary signed
        exact readable
  · split at read
    · cases read
    · next left behind first => exact ih.alternatives read (ih.path first)

theorem alternatives_succ {left : Expr}
    (read : Parser.alternatives stop (fuel + 1) left ts = .ok (e, rest))
    (readable : left.Readable) : e.Readable := by
  rw [Parser.alternatives.eq_def] at read
  dsimp only at read
  split at read
  · split at read
    · cases read
    · next right behind member => exact ih.alternatives read ⟨readable, ih.path member⟩
  · cases read
    exact readable

theorem path_succ (read : Parser.path stop (fuel + 1) ts = .ok (e, rest)) : e.Readable := by
  rw [Parser.path.eq_def] at read
  dsimp only at read
  split at read
  · split at read
    · split at read
      · cases read
      · next ss behind walked =>
          cases read
          exact ⟨.inl rfl, (ih.steps walked).2⟩
    · cases read
      exact ⟨.inl rfl, trivial⟩
  · split at read
    · cases read
    · next ss behind walked =>
        cases read
        exact ⟨.inl rfl, readable_anywhere, (ih.steps walked).2⟩
  · split at read
    · split at read
      · cases read
      · next ss behind walked =>
          cases read
          exact ⟨.inr (ih.steps walked).1, (ih.steps walked).2⟩
    · exact ih.filter read

theorem steps_succ {ss : List Step} (read : Parser.steps stop (fuel + 1) ts = .ok (ss, rest)) :
    ss ≠ [] ∧ AllStepsReadable ss := by
  rw [Parser.steps] at read
  split at read
  · cases read
  · next s behind first =>
      split at read
      · cases read
      · next more behind others =>
          cases read
          exact ⟨List.cons_ne_nil s more, ih.step first, ih.moreSteps others⟩

theorem moreSteps_succ {ss : List Step}
    (read : Parser.moreSteps stop (fuel + 1) ts = .ok (ss, rest)) : AllStepsReadable ss := by
  rw [Parser.moreSteps.eq_def] at read
  dsimp only at read
  split at read
  · exact (ih.steps read).2
  · split at read
    · cases read
    · next more behind others =>
        cases read
        exact ⟨readable_anywhere, (ih.steps others).2⟩
  · cases read
    trivial

theorem step_succ {s : Step} (read : Parser.step stop (fuel + 1) ts = .ok (s, rest)) :
    s.Readable := by
  rw [Parser.step.eq_def] at read
  dsimp only at read
  split at read
  · cases read
    trivial
  · cases read
    trivial
  · split at read
    · cases read
    · split at read
      · cases read
      · split at read
        · cases read
        · next ps behind kept =>
            cases read
            exact ih.predicates kept

theorem predicates_succ {ps : List Expr}
    (read : Parser.predicates stop (fuel + 1) ts = .ok (ps, rest)) : AllReadable ps := by
  rw [Parser.predicates.eq_def] at read
  dsimp only at read
  split at read
  · split at read
    · cases read
    · next p behind first =>
        split at read
        · cases read
        · split at read
          · cases read
          · next more behind others =>
              cases read
              exact ⟨ih.expr first, ih.predicates others⟩
  · cases read
    trivial

theorem filter_succ (read : Parser.filter stop (fuel + 1) ts = .ok (e, rest)) : e.Readable := by
  rw [Parser.filter] at read
  split at read
  · cases read
  · next primary behind first =>
      split at read
      · cases read
      · next ps behind kept =>
          split at read
          · cases read
          · next ss behind walked =>
              split at read
              · cases read
                exact ih.primary first
              · next some =>
                  cases read
                  have filled : ps ≠ [] ∨ ss ≠ [] := by
                    by_contra empty
                    simp_all
                  exact ⟨filled, ih.primary first, ih.predicates kept, ih.moreSteps walked⟩

theorem primary_succ (read : Parser.primary stop (fuel + 1) ts = .ok (e, rest)) :
    e.Readable := by
  rw [Parser.primary.eq_def] at read
  dsimp only at read
  split at read
  · cases read
    trivial
  · cases read
    trivial
  · split at read
    · cases read
    · next inner behind whole =>
        split at read
        · cases read
        · cases read
          exact ih.expr whole
  · split at read
    · cases read
    · next f word =>
        split at read
        · cases read
        · next es behind args =>
            split at read
            · next admitted =>
                cases read
                exact ⟨admitted, ih.arguments args⟩
            · cases read
  · cases read

theorem arguments_succ {es : List Expr}
    (read : Parser.arguments stop (fuel + 1) ts = .ok (es, rest)) : AllReadable es := by
  rw [Parser.arguments.eq_def] at read
  dsimp only at read
  split at read
  · cases read
    trivial
  · exact ih.moreArguments read

theorem moreArguments_succ {es : List Expr}
    (read : Parser.moreArguments stop (fuel + 1) ts = .ok (es, rest)) : AllReadable es := by
  rw [Parser.moreArguments] at read
  split at read
  · cases read
  · next argument behind first =>
      split at read
      · cases read
      · next others behind more =>
          cases read
          exact ⟨ih.expr first, ih.moreArguments more⟩
  · next argument behind last first =>
      split at read
      · cases read
      · cases read
        exact ⟨ih.expr first, trivial⟩

theorem succ : Yields stop (fuel + 1) where
  expr := ih.expr_succ
  binary := ih.binary_succ
  operators := ih.operators_succ
  operand := ih.operand_succ
  unary := ih.unary_succ
  alternatives := ih.alternatives_succ
  path := ih.path_succ
  steps := ih.steps_succ
  moreSteps := ih.moreSteps_succ
  step := ih.step_succ
  predicates := ih.predicates_succ
  filter := ih.filter_succ
  primary := ih.primary_succ
  arguments := ih.arguments_succ
  moreArguments := ih.moreArguments_succ

end Yields

theorem yields (stop fuel : Nat) : Yields stop fuel := by
  induction fuel with
  | zero => exact .zero
  | succ fuel ih => exact ih.succ

/-- What the parser yields is readable. -/
theorem readable_of_parse (parsed : parse stop ts = .ok e) : e.Readable := by
  rw [parse] at parsed
  split at parsed
  · cases parsed
  · split at parsed
    · cases parsed
    · next whole =>
        cases parsed
        exact (yields stop _).expr whole
    · cases parsed

end Harvest.XPath.Parser
