import Mathlib
import Harvest.Proofs.XPath.Printing

/-!
# The parser comes to an end

Given fuel for the tokens that are left and for the calls that take none of them, each function of
the parser ends: it has taken tokens off the front, or it reports a fault at one of the tokens or at
the end of the expression, and the fault is never that fuel was short.
-/

namespace Harvest.XPath.Parser

variable {α β : Type} {stop fuel m n position : Nat} {ts us rest : List Placed}

/-- Whether a token begins at a position, or the expression ends there. -/
def IsPlace (stop : Nat) (ts : List Placed) (position : Nat) : Prop :=
  position = stop ∨ ∃ t ∈ ts, t.offset = position

theorem isPlace_cons (t : Placed) (ts : List Placed) : IsPlace stop (t :: ts) t.offset :=
  .inr ⟨t, List.mem_cons_self, rfl⟩

theorem IsPlace.of_suffix (place : IsPlace stop us position) (left : us <:+ ts) :
    IsPlace stop ts position :=
  place.imp_right fun ⟨t, member, own⟩ => ⟨t, left.mem member, own⟩

/-- Whether a function of the parser has come to an end with `ts`: it leaves a part of the tokens,
at least `n` fewer than there were, or it fails somewhere at them, and not for want of fuel. -/
inductive Halts (stop : Nat) (ts : List Placed) (n : Nat) : Result α → Prop
  | read {a : α} {rest : List Placed} (left : rest <:+ ts)
      (fewer : rest.length + n ≤ ts.length) : Halts stop ts n (.ok (a, rest))
  | failed {e : Error} (place : IsPlace stop ts e.position) (ended : e.fault ≠ .exhausted) :
      Halts stop ts n (.error e)

namespace Halts

variable {r : Result α} {s : Result β} {a : α} {b : β} {e : Error}

theorem nothing (stop : Nat) (ts : List Placed) (a : α) : Halts stop ts 0 (.ok (a, ts)) :=
  .read List.suffix_rfl le_rfl

theorem token (t : Placed) (ts : List Placed) (a : α) : Halts stop (t :: ts) 1 (.ok (a, ts)) :=
  .read (List.suffix_cons t ts) le_rfl

theorem fail {fault : Fault} (ended : fault ≠ .exhausted) :
    Halts stop ts n (fail stop ts fault : Result α) := by
  cases ts with
  | nil => exact .failed (.inl rfl) ended
  | cons t rest => exact .failed (isPlace_cons t rest) ended

theorem of_suffix (halts : Halts stop us m r) (left : us <:+ ts)
    (fewer : us.length + n ≤ ts.length + m) : Halts stop ts n r := by
  cases halts with
  | read further own => exact .read (further.trans left) (by omega)
  | failed place ended => exact .failed (place.of_suffix left) ended

theorem loose (halts : Halts stop ts m r) : Halts stop ts 0 r :=
  halts.of_suffix List.suffix_rfl (Nat.le_add_right _ _)

/-- What ends behind a token has taken that token. -/
theorem behind (t : Placed) (halts : Halts stop ts m r) : Halts stop (t :: ts) 1 r :=
  halts.of_suffix (List.suffix_cons t ts) (by rw [List.length_cons]; omega)

/-- The fault of a part is the fault of the whole. -/
theorem error (halts : Halts stop ts m r) (failed : r = .error e) :
    Halts stop ts n (.error e : Result β) := by
  subst failed
  cases halts with
  | failed place ended => exact .failed place ended

/-- What is read behind a part, which has taken tokens of its own. -/
theorem after (halts : Halts stop ts m r) (read : r = .ok (a, rest))
    (second : rest.length + m ≤ ts.length → Halts stop rest n s) : Halts stop ts m s := by
  subst read
  cases halts with
  | read left fewer => exact (second fewer).of_suffix left (by omega)

/-- What takes tokens behind a part. -/
theorem further (halts : Halts stop ts m r) (read : r = .ok (a, rest))
    (second : rest.length ≤ ts.length → Halts stop rest n s) : Halts stop ts n s := by
  subst read
  cases halts with
  | read left fewer => exact (second left.length_le).of_suffix left (by omega)

theorem map (halts : Halts stop ts m r) (read : r = .ok (a, rest)) :
    Halts stop ts m (.ok (b, rest)) :=
  halts.after read fun _ => .nothing stop rest b

/-- A token that is missing is reported where it should be. -/
theorem of_missing {t : Token} (missing : expect stop t ts = .error e) :
    Halts stop ts n (.error e : Result α) := by
  cases ts with
  | nil =>
      cases missing
      exact .failed (.inl rfl) nofun
  | cons first rest =>
      rw [expect] at missing
      split at missing
      · cases missing
      · cases missing
        exact .failed (isPlace_cons first rest) nofun

/-- What is read behind a token that has to be there. -/
theorem of_expect {t : Token} (found : expect stop t ts = .ok rest)
    (second : rest.length < ts.length → Halts stop rest m r) : Halts stop ts 1 r := by
  cases ts with
  | nil => cases found
  | cons first behind =>
      rw [expect] at found
      split at found
      · cases found
        exact (second (Nat.lt_succ_self _)).behind first
      · cases found

end Halts

theorem halts_axis (stop : Nat) (ts : List Placed) : Halts stop ts 0 (axis ts) := by
  unfold axis
  split
  · exact (Halts.token _ _ _).loose
  · split
    · exact ((Halts.token _ _ _).behind _).loose
    · exact .failed (isPlace_cons _ _) nofun
  · exact .nothing stop ts _

theorem halts_nodeTest (stop : Nat) (ts : List Placed) : Halts stop ts 1 (nodeTest stop ts) := by
  unfold nodeTest
  split
  · exact .token _ _ _
  · split
    · refine Halts.behind (m := 1) _ (Halts.behind (m := 1) _ ?_)
      split
      · next missing => exact .of_missing missing
      · next found => exact .of_expect found fun _ => .nothing stop _ _
    · exact .token _ _ _
  · exact .token _ _ _
  · exact .fail nofun

/-! ## The functions that call each other -/

/-- What the functions of the parser do if they have fuel enough: for all calls behind each of the
tokens, and for those in front that do not take a token. -/
structure HaltsWith (stop fuel : Nat) : Prop where
  expr : ∀ ts, 24 * ts.length + 17 ≤ fuel → Halts stop ts 1 (expr stop fuel ts)
  binary : ∀ level ts, 24 * ts.length + 18 ≤ fuel + 2 * level.rank →
    Halts stop ts 1 (binary stop fuel level ts)
  operators : ∀ level left ts, 24 * ts.length + 1 ≤ fuel →
    Halts stop ts 0 (operators stop fuel level left ts)
  operand : ∀ level ts, 24 * ts.length + 17 ≤ fuel + 2 * level.rank →
    Halts stop ts 1 (operand stop fuel level ts)
  unary : ∀ ts, 24 * ts.length + 4 ≤ fuel → Halts stop ts 1 (unary stop fuel ts)
  alternatives : ∀ left ts, 24 * ts.length + 1 ≤ fuel →
    Halts stop ts 0 (alternatives stop fuel left ts)
  path : ∀ ts, 24 * ts.length + 3 ≤ fuel → Halts stop ts 1 (path stop fuel ts)
  steps : ∀ ts, 24 * ts.length + 2 ≤ fuel → Halts stop ts 1 (steps stop fuel ts)
  moreSteps : ∀ ts, 24 * ts.length + 1 ≤ fuel → Halts stop ts 0 (moreSteps stop fuel ts)
  step : ∀ ts, 24 * ts.length + 1 ≤ fuel → Halts stop ts 1 (step stop fuel ts)
  predicates : ∀ ts, 24 * ts.length + 1 ≤ fuel → Halts stop ts 0 (predicates stop fuel ts)
  filter : ∀ ts, 24 * ts.length + 2 ≤ fuel → Halts stop ts 1 (filter stop fuel ts)
  primary : ∀ ts, 24 * ts.length + 1 ≤ fuel → Halts stop ts 1 (primary stop fuel ts)
  arguments : ∀ ts, 24 * ts.length + 19 ≤ fuel → Halts stop ts 1 (arguments stop fuel ts)
  moreArguments : ∀ ts, 24 * ts.length + 18 ≤ fuel → Halts stop ts 1 (moreArguments stop fuel ts)

namespace HaltsWith

theorem zero : HaltsWith stop 0 := by
  constructor
  case binary | operand =>
    intro level ts enough
    have := level.rank_le
    omega
  all_goals intros; omega

variable (ih : HaltsWith stop fuel)

include ih

theorem expr_succ (ts : List Placed) (enough : 24 * ts.length + 17 ≤ fuel + 1) :
    Halts stop ts 1 (Parser.expr stop (fuel + 1) ts) := by
  rw [Parser.expr]
  exact ih.binary .or ts (by rw [Level.rank]; omega)

theorem binary_succ (level : Level) (ts : List Placed)
    (enough : 24 * ts.length + 18 ≤ fuel + 1 + 2 * level.rank) :
    Halts stop ts 1 (Parser.binary stop (fuel + 1) level ts) := by
  have bound := level.rank_le
  have first := ih.operand level ts (by omega)
  rw [Parser.binary]
  split
  · next failed => exact first.error failed
  · next left rest read =>
      exact first.after read fun fewer => ih.operators level left rest (by omega)

theorem operators_succ (level : Level) (left : Expr) (ts : List Placed)
    (enough : 24 * ts.length + 1 ≤ fuel + 1) :
    Halts stop ts 0 (Parser.operators stop (fuel + 1) level left ts) := by
  cases ts with
  | nil =>
      rw [Parser.operators]
      exact .nothing stop [] left
  | cons t rest =>
      rw [List.length_cons] at enough
      have bound := level.rank_le
      have second := ih.operand level rest (by omega)
      rw [Parser.operators]
      split
      · exact .nothing stop (t :: rest) left
      · next apply operator =>
          refine (Halts.behind (m := 1) t ?_).loose
          split
          · next failed => exact second.error failed
          · next right behind read =>
              exact second.after read fun fewer => ih.operators level _ behind (by omega)

theorem operand_succ (level : Level) (ts : List Placed)
    (enough : 24 * ts.length + 17 ≤ fuel + 1 + 2 * level.rank) :
    Halts stop ts 1 (Parser.operand stop (fuel + 1) level ts) := by
  have bound := level.rank_le
  rw [Parser.operand]
  split
  · next tighter next =>
      have rank := Level.rank_of_tighter? next
      exact ih.binary tighter ts (by omega)
  · exact ih.unary ts (by omega)

theorem unary_succ (ts : List Placed) (enough : 24 * ts.length + 4 ≤ fuel + 1) :
    Halts stop ts 1 (Parser.unary stop (fuel + 1) ts) := by
  rw [Parser.unary.eq_def]
  dsimp only
  split
  · next offset rest =>
      rw [List.length_cons] at enough
      have inner := ih.unary rest (by omega)
      refine Halts.behind (m := 1) _ ?_
      split
      · next failed => exact inner.error failed
      · next read => exact inner.map read
  · have first := ih.path ts (by omega)
    split
    · next failed => exact first.error failed
    · next left rest read =>
        exact first.after read fun fewer => ih.alternatives left rest (by omega)

theorem alternatives_succ (left : Expr) (ts : List Placed)
    (enough : 24 * ts.length + 1 ≤ fuel + 1) :
    Halts stop ts 0 (Parser.alternatives stop (fuel + 1) left ts) := by
  rw [Parser.alternatives.eq_def]
  dsimp only
  split
  · next offset rest =>
      rw [List.length_cons] at enough
      have member := ih.path rest (by omega)
      refine (Halts.behind (m := 1) _ ?_).loose
      split
      · next failed => exact member.error failed
      · next right behind read =>
          exact member.after read fun fewer => ih.alternatives _ behind (by omega)
  · exact .nothing stop ts left

theorem path_succ (ts : List Placed) (enough : 24 * ts.length + 3 ≤ fuel + 1) :
    Halts stop ts 1 (Parser.path stop (fuel + 1) ts) := by
  rw [Parser.path.eq_def]
  dsimp only
  split
  · next offset rest =>
      rw [List.length_cons] at enough
      have walked := ih.steps rest (by omega)
      split
      · refine Halts.behind (m := 1) _ ?_
        split
        · next failed => exact walked.error failed
        · next read => exact walked.map read
      · exact .token _ _ _
  · next offset rest =>
      rw [List.length_cons] at enough
      have walked := ih.steps rest (by omega)
      refine Halts.behind (m := 1) _ ?_
      split
      · next failed => exact walked.error failed
      · next read => exact walked.map read
  · split
    · have walked := ih.steps ts (by omega)
      split
      · next failed => exact walked.error failed
      · next read => exact walked.map read
    · exact ih.filter ts (by omega)

theorem steps_succ (ts : List Placed) (enough : 24 * ts.length + 2 ≤ fuel + 1) :
    Halts stop ts 1 (Parser.steps stop (fuel + 1) ts) := by
  have first := ih.step ts (by omega)
  rw [Parser.steps]
  split
  · next failed => exact first.error failed
  · next s rest read =>
      refine first.after (n := 0) read fun fewer => ?_
      have others := ih.moreSteps rest (by omega)
      split
      · next failed => exact others.error failed
      · next read => exact others.map read

theorem moreSteps_succ (ts : List Placed) (enough : 24 * ts.length + 1 ≤ fuel + 1) :
    Halts stop ts 0 (Parser.moreSteps stop (fuel + 1) ts) := by
  rw [Parser.moreSteps.eq_def]
  dsimp only
  split
  · next offset rest =>
      rw [List.length_cons] at enough
      exact ((ih.steps rest (by omega)).behind _).loose
  · next offset rest =>
      rw [List.length_cons] at enough
      have others := ih.steps rest (by omega)
      refine (Halts.behind (m := 1) _ ?_).loose
      split
      · next failed => exact others.error failed
      · next read => exact others.map read
  · exact .nothing stop ts _

theorem step_succ (ts : List Placed) (enough : 24 * ts.length + 1 ≤ fuel + 1) :
    Halts stop ts 1 (Parser.step stop (fuel + 1) ts) := by
  rw [Parser.step.eq_def]
  dsimp only
  split
  · exact .token _ _ _
  · exact .token _ _ _
  · have direction := halts_axis stop ts
    split
    · next failed => exact direction.error failed
    · next axis rest found =>
        refine direction.further found fun left => ?_
        have tested := halts_nodeTest stop rest
        split
        · next failed => exact tested.error failed
        · next test behind passed =>
            refine tested.after (n := 0) passed fun fewer => ?_
            have conditions := ih.predicates behind (by omega)
            split
            · next failed => exact conditions.error failed
            · next read => exact conditions.map read

theorem predicates_succ (ts : List Placed) (enough : 24 * ts.length + 1 ≤ fuel + 1) :
    Halts stop ts 0 (Parser.predicates stop (fuel + 1) ts) := by
  rw [Parser.predicates.eq_def]
  dsimp only
  split
  · next offset rest =>
      rw [List.length_cons] at enough
      have first := ih.expr rest (by omega)
      refine (Halts.behind (m := 1) _ ?_).loose
      split
      · next failed => exact first.error failed
      · next p behind read =>
          refine first.after (n := 1) read fun fewer => ?_
          split
          · next missing => exact .of_missing missing
          · next rest found =>
              refine .of_expect (m := 0) found fun left => ?_
              have others := ih.predicates rest (by omega)
              split
              · next failed => exact others.error failed
              · next read => exact others.map read
  · exact .nothing stop ts _

theorem filter_succ (ts : List Placed) (enough : 24 * ts.length + 2 ≤ fuel + 1) :
    Halts stop ts 1 (Parser.filter stop (fuel + 1) ts) := by
  have first := ih.primary ts (by omega)
  rw [Parser.filter]
  split
  · next failed => exact first.error failed
  · next e rest read =>
      refine first.after (n := 0) read fun fewer => ?_
      have conditions := ih.predicates rest (by omega)
      split
      · next failed => exact conditions.error failed
      · next ps behind kept =>
          refine conditions.after (n := 0) kept fun left => ?_
          have walked := ih.moreSteps behind (by omega)
          split
          · next failed => exact walked.error failed
          · next read => split <;> exact walked.map read

theorem primary_succ (ts : List Placed) (enough : 24 * ts.length + 1 ≤ fuel + 1) :
    Halts stop ts 1 (Parser.primary stop (fuel + 1) ts) := by
  rw [Parser.primary.eq_def]
  dsimp only
  split
  · exact .token _ _ _
  · exact .token _ _ _
  · next offset rest =>
      rw [List.length_cons] at enough
      have inner := ih.expr rest (by omega)
      refine Halts.behind (m := 1) _ ?_
      split
      · next failed => exact inner.error failed
      · next read =>
          refine inner.after (n := 1) read fun _ => ?_
          split
          · next missing => exact .of_missing missing
          · next found => exact .of_expect found fun _ => .nothing stop _ _
  · next name offset place rest =>
      rw [List.length_cons, List.length_cons] at enough
      split
      · exact .failed (isPlace_cons _ _) nofun
      · have given := ih.arguments rest (by omega)
        split
        · next failed => exact ((given.error (n := 0) failed).behind _).behind _
        · next es behind read =>
            split
            · exact ((given.map read).behind _).behind _
            · exact .failed (isPlace_cons _ _) nofun
  · exact .fail nofun

theorem arguments_succ (ts : List Placed) (enough : 24 * ts.length + 19 ≤ fuel + 1) :
    Halts stop ts 1 (Parser.arguments stop (fuel + 1) ts) := by
  rw [Parser.arguments.eq_def]
  dsimp only
  split
  · exact .token _ _ _
  · exact ih.moreArguments ts (by omega)

theorem moreArguments_succ (ts : List Placed) (enough : 24 * ts.length + 18 ≤ fuel + 1) :
    Halts stop ts 1 (Parser.moreArguments stop (fuel + 1) ts) := by
  have first := ih.expr ts (by omega)
  rw [Parser.moreArguments]
  split
  · next failed => exact first.error failed
  · next e offset rest read =>
      refine first.after (n := 1) read fun fewer => ?_
      rw [List.length_cons] at fewer
      have others := ih.moreArguments rest (by omega)
      refine Halts.behind (m := 1) _ ?_
      split
      · next failed => exact others.error failed
      · next read => exact others.map read
  · next e rest _ read =>
      refine first.after (n := 1) read fun _ => ?_
      split
      · next missing => exact .of_missing missing
      · next found => exact .of_expect found fun _ => .nothing stop _ _

theorem succ : HaltsWith stop (fuel + 1) where
  expr := ih.expr_succ
  binary := ih.binary_succ
  operators := ih.operators_succ
  operand := ih.operand_succ
  unary := ih.unary_succ
  alternatives := ih.alternatives_succ
  path := ih.path_succ
  steps := ih.steps_succ
  moreSteps := ih.moreSteps_succ
  step := ih.step_succ
  predicates := ih.predicates_succ
  filter := ih.filter_succ
  primary := ih.primary_succ
  arguments := ih.arguments_succ
  moreArguments := ih.moreArguments_succ

end HaltsWith

theorem haltsWith (stop fuel : Nat) : HaltsWith stop fuel := by
  induction fuel with
  | zero => exact .zero
  | succ fuel ih => exact ih.succ

/-- The parser never runs out of fuel.  It fails at a token or at the end of the expression; if
there are no tokens, at the front. -/
theorem place_of_parse {e : Error} (failed : parse stop ts = .error e) :
    e.fault ≠ .exhausted ∧
      (ts = [] ∧ e.position = 0 ∨ ts ≠ [] ∧ IsPlace stop ts e.position) := by
  cases ts with
  | nil =>
      cases failed
      exact ⟨nofun, .inl ⟨rfl, rfl⟩⟩
  | cons t ts =>
      have whole := (haltsWith stop (fuelFor (t :: ts))).expr (t :: ts) (by rw [fuelFor]; omega)
      have halts : Halts stop (t :: ts) 1 (.error e : Result Expr) := by
        rw [parse, if_neg (by simp)] at failed
        split at failed
        · next own =>
            cases failed
            exact whole.error own
        · cases failed
        · next own =>
            cases failed
            exact whole.after own fun _ => .failed (n := 0) (isPlace_cons _ _) nofun
      cases halts with
      | failed place ended => exact ⟨ended, .inr ⟨List.cons_ne_nil t ts, place⟩⟩

end Harvest.XPath.Parser
