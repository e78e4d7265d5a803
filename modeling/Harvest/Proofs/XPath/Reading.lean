import Mathlib
import Harvest.Proofs.XPath.Printing

/-!
# Reading what has been written

Each function of the parser is given the tokens of the thing that it reads, with any tokens behind
them that do not take hold of it, and enough fuel for the nesting of calls.  It then reads exactly
this thing.  The functions that read operators one after the other get as far as their loop with
everything in front as the left operand, so a chain of operators of one level is read from left to
right.
-/

namespace Harvest.XPath

open Harvest.XPath.Parser

variable {stop : Nat}

/-! ## Tokens in their places -/

theorem map_token_eq_cons_iff {ts : List Placed} {t : Token} {us : List Token} :
    ts.map Placed.token = t :: us ↔
      ∃ offset rest, ts = ⟨t, offset⟩ :: rest ∧ rest.map Placed.token = us := by
  constructor
  · intro same
    obtain ⟨⟨token, offset⟩, rest, rfl, rfl, later⟩ := List.map_eq_cons_iff.mp same
    exact ⟨offset, rest, rfl, later⟩
  · rintro ⟨offset, rest, rfl, rfl⟩
    rfl

theorem map_token_eq_singleton_iff {ts : List Placed} {t : Token} :
    ts.map Placed.token = [t] ↔ ∃ offset, ts = [⟨t, offset⟩] := by
  simp only [map_token_eq_cons_iff, List.map_eq_nil_iff, exists_eq_right]

/-- How tightly a token takes hold of what stands in front of it, if it can go on with an
expression: as an operator of some level, as a sign for a further part of a union, a step or a
predicate, or as the parenthesis of a call. -/
def Token.grip : Token → Nat
  | name s =>
      if s = "or" then 1 else if s = "and" then 2 else if s = "div" ∨ s = "mod" then 6 else 0
  | equal | notEqual => 3
  | less | lessEqual | greater | greaterEqual => 4
  | plus | minus => 5
  | star => 6
  | pipe => 8
  | slash | doubleSlash => 9
  | leftBracket => 10
  | leftParen => 11
  | _ => 0

/-- Whether the next token does not take hold as tightly as `k`. -/
def Clear (k : Nat) (rest : List Placed) : Prop := ∀ t ∈ rest.head?, t.token.grip < k

/-- Whether the next token, if there is one, is one behind a complete expression. -/
def Closed (rest : List Placed) : Prop :=
  ∀ t ∈ rest.head?, t.token ∈ [Token.rightParen, Token.rightBracket, Token.comma]

theorem Clear.mono {j k : Nat} {rest : List Placed} (clear : Clear j rest) (le : j ≤ k) :
    Clear k rest :=
  fun t member => (clear t member).trans_le le

theorem Closed.clear {rest : List Placed} (closed : Closed rest) {k : Nat} (positive : 0 < k) :
    Clear k rest := by
  intro t member
  have free : t.token.grip = 0 := by
    have sign := closed t member
    simp only [List.mem_cons, List.not_mem_nil, or_false] at sign
    rcases sign with sign | sign | sign <;> rw [sign] <;> rfl
  rwa [free]

theorem clear_cons {k : Nat} {t : Token} {offset : Nat} {rest : List Placed} (less : t.grip < k) :
    Clear k (⟨t, offset⟩ :: rest) := by
  rintro u ⟨⟩
  exact less

theorem Clear.ne_cons {k : Nat} {t : Token} {offset : Nat} {rest behind : List Placed}
    (clear : Clear k rest) (tight : k ≤ t.grip) : rest ≠ ⟨t, offset⟩ :: behind := by
  rintro rfl
  exact absurd (clear _ rfl) (Nat.not_lt.mpr tight)

theorem closed_cons {t : Token} {offset : Nat} {rest : List Placed}
    (closing : t ∈ [Token.rightParen, Token.rightBracket, Token.comma]) :
    Closed (⟨t, offset⟩ :: rest) := by
  rintro u ⟨⟩
  exact closing

/-- Whether there is a first token and it is not `t`. -/
def BeginsWithout (t : Token) (ts : List Token) : Prop := ∃ first us, ts = first :: us ∧ first ≠ t

theorem BeginsWithout.append {t : Token} {ts : List Token} (begins : BeginsWithout t ts)
    (us : List Token) : BeginsWithout t (ts ++ us) := by
  obtain ⟨first, vs, rfl, other⟩ := begins
  exact ⟨first, vs ++ us, rfl, other⟩

theorem BeginsWithout.ne_cons {t : Token} {ts rest behind : List Placed} {offset : Nat}
    (begins : BeginsWithout t (ts.map Placed.token)) : ts ++ rest ≠ ⟨t, offset⟩ :: behind := by
  obtain ⟨first, us, written, other⟩ := begins
  obtain ⟨place, after, rfl, -⟩ := map_token_eq_cons_iff.mp written
  intro same
  exact other (congrArg Placed.token (List.cons.inj same).1)

/-! ## Readings -/

/-- Whether a function of the parser reads `a` from some tokens, whatever clear tokens follow.  The
fuel that it needs is that for the tokens and for the calls of a height that do not take one. -/
def Reads {α : Type} (parser : Nat → List Placed → Result α) (height : Nat)
    (clear : List Placed → Prop) (tokens : List Token) (a : α) : Prop :=
  ∀ fuel ts rest, ts.map Placed.token = tokens → clear rest → 24 * tokens.length + height ≤ fuel →
    parser fuel (ts ++ rest) = .ok (a, rest)

/-- Whether a function of the parser gets from some tokens to its loop with `e` as the left
operand. -/
def Runs (parser : Nat → List Placed → Result Expr)
    (loop : Nat → Expr → List Placed → Result Expr) (height k : Nat) (tokens : List Token)
    (e : Expr) : Prop :=
  ∀ fuel ts rest, ts.map Placed.token = tokens → Clear k rest → 24 * tokens.length + height ≤ fuel →
    ∃ left, fuel ≤ left + tokens.length + 1 ∧ parser fuel (ts ++ rest) = loop left e rest

/-! ## Node tests and steps -/

theorem ofName?_name (axis : Axis) : Axis.ofName? axis.name = some axis := by
  cases axis <;> decide

theorem nodeTest_print (test : NodeTest) {ts rest : List Placed}
    (written : ts.map Placed.token = test.print) (clear : Clear 11 rest) :
    nodeTest stop (ts ++ rest) = .ok (test, rest) := by
  cases test with
  | any =>
      obtain ⟨offset, rfl⟩ := map_token_eq_singleton_iff.mp written
      rfl
  | name s =>
      obtain ⟨offset, rfl⟩ := map_token_eq_singleton_iff.mp written
      cases rest with
      | nil => rfl
      | cons next rest =>
          -- a parenthesis behind the name would make a node type or a call of it
          obtain ⟨token, place⟩ := next
          have free : token.grip < 11 := clear _ rfl
          cases token <;> first | rfl | exact absurd free (by decide)
  | text =>
      obtain ⟨offset, types, rfl, others⟩ := map_token_eq_cons_iff.mp written
      obtain ⟨opening, closing, rfl, last⟩ := map_token_eq_cons_iff.mp others
      obtain ⟨place, rfl⟩ := map_token_eq_singleton_iff.mp last
      rfl
  | comment =>
      obtain ⟨offset, types, rfl, others⟩ := map_token_eq_cons_iff.mp written
      obtain ⟨opening, closing, rfl, last⟩ := map_token_eq_cons_iff.mp others
      obtain ⟨place, rfl⟩ := map_token_eq_singleton_iff.mp last
      rfl
  | node =>
      obtain ⟨offset, types, rfl, others⟩ := map_token_eq_cons_iff.mp written
      obtain ⟨opening, closing, rfl, last⟩ := map_token_eq_cons_iff.mp others
      obtain ⟨place, rfl⟩ := map_token_eq_singleton_iff.mp last
      rfl

/-! ## Predicates and steps -/

/-- Predicates, behind a node test or a primary expression. -/
abbrev ReadsPredicates (stop : Nat) (ps : List Expr) : Prop :=
  Reads (predicates stop) 1 (Clear 10) (printPredicates ps) ps

/-- A whole expression, up to the end or to a token that closes what is around it. -/
abbrev ReadsWhole (stop : Nat) (e : Expr) : Prop := Reads (expr stop) 16 Closed e.print e

theorem readsPredicates_nil : ReadsPredicates stop [] := by
  intro fuel ts rest written clear enough
  obtain rfl := List.map_eq_nil_iff.mp written
  obtain ⟨fuel, rfl⟩ : ∃ left, fuel = left + 1 := ⟨fuel - 1, by omega⟩
  rw [List.nil_append, predicates]
  exact fun offset behind => clear.ne_cons (by decide)

theorem readsPredicates_cons {p : Expr} {ps : List Expr} (first : ReadsWhole stop p)
    (others : ReadsPredicates stop ps) : ReadsPredicates stop (p :: ps) := by
  intro fuel ts rest written clear enough
  rw [printPredicates] at written enough
  obtain ⟨opening, inner, rfl, inner'⟩ := map_token_eq_cons_iff.mp written
  obtain ⟨inside, after, rfl, inside', after'⟩ := List.map_eq_append_iff.mp inner'
  obtain ⟨closing, more, rfl, more'⟩ := map_token_eq_cons_iff.mp after'
  simp only [List.length_cons, List.length_append] at enough
  obtain ⟨fuel, rfl⟩ : ∃ left, fuel = left + 1 := ⟨fuel - 1, by omega⟩
  have predicate := first fuel inside (⟨.rightBracket, closing⟩ :: (more ++ rest)) inside'
    (closed_cons (by decide)) (by omega)
  have remaining := others fuel more rest more' clear (by omega)
  simp [predicates, predicate, remaining, expect]

/-- Behind a node test predicates take hold of nothing but the test. -/
theorem clear_printPredicates {ps : List Expr} {ts rest : List Placed}
    (written : ts.map Placed.token = printPredicates ps) (clear : Clear 10 rest) :
    Clear 11 (ts ++ rest) := by
  cases ps with
  | nil =>
      obtain rfl := List.map_eq_nil_iff.mp written
      exact clear.mono (by decide)
  | cons p ps =>
      obtain ⟨opening, inner, rfl, -⟩ := map_token_eq_cons_iff.mp written
      exact clear_cons (by decide)

abbrev ReadsStep (stop : Nat) (s : Step) : Prop := Reads (step stop) 0 (Clear 10) s.print s

theorem readsStep {axis : Axis} {test : NodeTest} {ps : List Expr}
    (predicates : ReadsPredicates stop ps) : ReadsStep stop (.mk axis test ps) := by
  intro fuel ts rest written clear enough
  rw [Step.print] at written enough
  obtain ⟨place, colons, rfl, colons'⟩ := map_token_eq_cons_iff.mp written
  obtain ⟨behind, inner, rfl, inner'⟩ := map_token_eq_cons_iff.mp colons'
  obtain ⟨tested, conditions, rfl, tested', conditions'⟩ := List.map_eq_append_iff.mp inner'
  simp only [List.length_cons, List.length_append] at enough
  obtain ⟨fuel, rfl⟩ : ∃ left, fuel = left + 1 := ⟨fuel - 1, by omega⟩
  have node : nodeTest stop (tested ++ (conditions ++ rest)) = .ok (test, conditions ++ rest) :=
    nodeTest_print test tested' (clear_printPredicates conditions' clear)
  have kept := predicates fuel conditions rest conditions' clear (by omega)
  simp [step, Parser.axis, ofName?_name, node, kept]

theorem length_print_step_pos (s : Step) : 0 < s.print.length := by
  cases s
  simp [Step.print]

/-- What follows a step: tokens that are read as further steps, and that take hold of nothing but
the step in front of them. -/
structure ReadsTail (stop : Nat) (clear : List Placed → Prop) (us : List Token) (ss : List Step) :
    Prop where
  reads : Reads (moreSteps stop) 1 clear us ss
  apart : ∀ {ts rest}, ts.map Placed.token = us → clear rest → Clear 10 (ts ++ rest)

variable {clear : List Placed → Prop} {us : List Token}

theorem ReadsTail.nil : ReadsTail stop (Clear 9) [] [] := by
  constructor
  · intro fuel ts rest written free enough
    obtain rfl := List.map_eq_nil_iff.mp written
    obtain ⟨fuel, rfl⟩ : ∃ left, fuel = left + 1 := ⟨fuel - 1, by omega⟩
    rw [List.nil_append, moreSteps]
    · exact fun offset behind => free.ne_cons (by decide)
    · exact fun offset behind => free.ne_cons (by decide)
  · intro ts rest written free
    obtain rfl := List.map_eq_nil_iff.mp written
    exact free.mono (by decide)

theorem readsSteps {s : Step} {ss : List Step} (first : ReadsStep stop s)
    (others : ReadsTail stop clear us ss) :
    Reads (steps stop) 1 clear (s.print ++ us) (s :: ss) := by
  intro fuel ts rest written free enough
  obtain ⟨one, more, rfl, one', more'⟩ := List.map_eq_append_iff.mp written
  rw [List.length_append] at enough
  have positive := length_print_step_pos s
  obtain ⟨fuel, rfl⟩ : ∃ left, fuel = left + 1 := ⟨fuel - 1, by omega⟩
  have step := first fuel one (more ++ rest) one' (others.apart more' free) (by omega)
  have remaining := others.reads fuel more rest more' free (by omega)
  simp [steps, step, remaining]

/-- A step behind a slash, in front of what is read as further steps. -/
theorem ReadsTail.cons {s : Step} {ss : List Step} (first : ReadsStep stop s)
    (others : ReadsTail stop clear us ss) :
    ReadsTail stop clear (.slash :: (s.print ++ us)) (s :: ss) := by
  constructor
  · intro fuel ts rest written free enough
    obtain ⟨slash, inner, rfl, inner'⟩ := map_token_eq_cons_iff.mp written
    rw [List.length_cons] at enough
    obtain ⟨fuel, rfl⟩ : ∃ left, fuel = left + 1 := ⟨fuel - 1, by omega⟩
    have all := readsSteps first others fuel inner rest inner' free (by omega)
    simp [moreSteps, all]
  · intro ts rest written free
    obtain ⟨slash, inner, rfl, -⟩ := map_token_eq_cons_iff.mp written
    exact clear_cons (by decide)

/-! ## Primary expressions -/

abbrev ReadsPrimary (stop : Nat) (ts : List Token) (e : Expr) : Prop :=
  Reads (primary stop) 0 (fun _ => True) ts e

theorem readsPrimary_literal (s : String) : ReadsPrimary stop [.literal s] (.literal s) := by
  intro fuel ts rest written _ enough
  obtain ⟨offset, rfl⟩ := map_token_eq_singleton_iff.mp written
  obtain ⟨fuel, rfl⟩ : ∃ left, fuel = left + 1 := ⟨fuel - 1, by simp at enough; omega⟩
  simp [primary]

theorem readsPrimary_number (x : Float) : ReadsPrimary stop [.number x] (.number x) := by
  intro fuel ts rest written _ enough
  obtain ⟨offset, rfl⟩ := map_token_eq_singleton_iff.mp written
  obtain ⟨fuel, rfl⟩ : ∃ left, fuel = left + 1 := ⟨fuel - 1, by simp at enough; omega⟩
  simp [primary]

/-- An expression in parentheses is read as it is, whatever it is. -/
theorem readsPrimary_enclose {e : Expr} (reads : ReadsWhole stop e) :
    ReadsPrimary stop (enclose true e.print) e := by
  intro fuel ts rest written _ enough
  rw [enclose, if_pos rfl] at written enough
  obtain ⟨opening, inner, rfl, inner'⟩ := map_token_eq_cons_iff.mp written
  obtain ⟨inside, last, rfl, inside', last'⟩ := List.map_eq_append_iff.mp inner'
  obtain ⟨closing, rfl⟩ := map_token_eq_singleton_iff.mp last'
  simp only [List.length_cons, List.length_append] at enough
  obtain ⟨fuel, rfl⟩ : ∃ left, fuel = left + 1 := ⟨fuel - 1, by omega⟩
  have whole := reads fuel inside (⟨.rightParen, closing⟩ :: rest) inside'
    (closed_cons (by decide)) (by omega)
  simp [primary, whole, expect]

/-! ### Calls -/

/-- The arguments of a call from one of them on, with the parenthesis behind them. -/
theorem reads_moreArguments {e : Expr} (first : ReadsWhole stop e) {es : List Expr}
    (others : ∀ e ∈ es, ReadsWhole stop e) :
    Reads (moreArguments stop) 1 (fun _ => True) (e.print ++ printMoreArguments es ++ [.rightParen])
      (e :: es) := by
  induction es generalizing e with
  | nil =>
      intro fuel ts rest written _ enough
      rw [printMoreArguments, List.append_nil] at written enough
      obtain ⟨one, last, rfl, one', last'⟩ := List.map_eq_append_iff.mp written
      obtain ⟨closing, rfl⟩ := map_token_eq_singleton_iff.mp last'
      simp only [List.length_cons, List.length_append] at enough
      obtain ⟨fuel, rfl⟩ : ∃ left, fuel = left + 1 := ⟨fuel - 1, by omega⟩
      have argument := first fuel one (⟨.rightParen, closing⟩ :: rest) one'
        (closed_cons (by decide)) (by omega)
      simp [moreArguments, argument, expect]
  | cons next es ih =>
      intro fuel ts rest written _ enough
      rw [printMoreArguments, List.append_assoc] at written enough
      obtain ⟨one, last, rfl, one', last'⟩ := List.map_eq_append_iff.mp written
      obtain ⟨comma, more, rfl, more'⟩ := map_token_eq_cons_iff.mp last'
      simp only [List.length_cons, List.length_append] at enough
      obtain ⟨fuel, rfl⟩ : ∃ left, fuel = left + 1 := ⟨fuel - 1, by omega⟩
      have argument := first fuel one (⟨.comma, comma⟩ :: (more ++ rest)) one'
        (closed_cons (by decide)) (by omega)
      have remaining := ih (others next (.head es)) (fun e member => others e (.tail next member))
        fuel more rest more' trivial (by simp only [List.length_append, List.length_cons]; omega)
      simp [moreArguments, argument, remaining]

theorem reads_arguments {es : List Expr}
    (each : ∀ e ∈ es, ReadsWhole stop e ∧ BeginsWithout .rightParen e.print) :
    Reads (arguments stop) 2 (fun _ => True) (printArguments es ++ [.rightParen]) es := by
  cases es with
  | nil =>
      intro fuel ts rest written _ enough
      obtain ⟨closing, rfl⟩ := map_token_eq_singleton_iff.mp written
      obtain ⟨fuel, rfl⟩ : ∃ left, fuel = left + 1 := ⟨fuel - 1, by omega⟩
      simp [arguments]
  | cons e es =>
      intro fuel ts rest written _ enough
      rw [printArguments] at written enough
      obtain ⟨fuel, rfl⟩ : ∃ left, fuel = left + 1 := ⟨fuel - 1, by omega⟩
      obtain ⟨first, opens⟩ := each e (.head es)
      have all := reads_moreArguments first (fun e member => (each e (.tail _ member)).1) fuel ts
        rest written trivial (by omega)
      have begins := (opens.append (printMoreArguments es)).append [.rightParen]
      rw [← written] at begins
      rw [arguments, all]
      exact fun place after => begins.ne_cons

theorem ofWord?_word (f : Function) : Function.ofWord? f.word = some f := by
  cases f <;> decide

theorem readsPrimary_call {f : Function} {es : List Expr} (admitted : f.admits es.length)
    (each : ∀ e ∈ es, ReadsWhole stop e ∧ BeginsWithout .rightParen e.print) :
    ReadsPrimary stop (Expr.call f es).print (.call f es) := by
  intro fuel ts rest written _ enough
  rw [Expr.print] at written enough
  obtain ⟨offset, inner, rfl, inner'⟩ := map_token_eq_cons_iff.mp written
  obtain ⟨opening, inside, rfl, inside'⟩ := map_token_eq_cons_iff.mp inner'
  simp only [List.length_cons] at enough
  obtain ⟨fuel, rfl⟩ : ∃ left, fuel = left + 1 := ⟨fuel - 1, by omega⟩
  have args := reads_arguments each fuel inside rest inside' trivial (by omega)
  simp [primary, ofWord?_word, args, admitted]

/-! ## Filters and paths -/

/-- Whether tokens begin as a primary expression does, and not as a path. -/
def startsPrimary : List Token → Bool
  | .literal _ :: _ => true
  | .number _ :: _ => true
  | .leftParen :: _ => true
  | .name s :: .leftParen :: _ => !isNodeType s
  | _ => false

theorem not_isNodeType_word (f : Function) : isNodeType f.word = false := by
  cases f <;> decide

/-- A path cannot begin in this way, so the parser tries a filter. -/
theorem path_eq_filter {ts : List Placed} (primary : startsPrimary (ts.map Placed.token))
    (fuel : Nat) : path stop (fuel + 1) ts = filter stop fuel ts := by
  match ts, primary with
  | ⟨.literal s, _⟩ :: _, _ => rfl
  | ⟨.number x, _⟩ :: _, _ => rfl
  | ⟨.leftParen, _⟩ :: _, _ => rfl
  | ⟨.name s, _⟩ :: ⟨.leftParen, _⟩ :: _, primary =>
      have called : isNodeType s = false := by simpa [startsPrimary] using primary
      simp [path, startsStep, called]

theorem startsPrimary_append {ts : List Token} (primary : startsPrimary ts) (us : List Token) :
    startsPrimary (ts ++ us) := by
  match ts, primary with
  | .literal s :: _, _ => rfl
  | .number x :: _, _ => rfl
  | .leftParen :: _, _ => rfl
  | .name s :: .leftParen :: _, primary => exact primary

theorem unsigned_of_startsPrimary {ts : List Token} (primary : startsPrimary ts) :
    BeginsWithout .minus ts := by
  match ts, primary with
  | .literal s :: us, _ => exact ⟨_, us, rfl, nofun⟩
  | .number x :: us, _ => exact ⟨_, us, rfl, nofun⟩
  | .leftParen :: us, _ => exact ⟨_, us, rfl, nofun⟩
  | .name s :: .leftParen :: us, _ => exact ⟨_, _, rfl, nofun⟩

/-- A path or a filter, which binds most tightly of all. -/
abbrev ReadsPath (stop : Nat) (ts : List Token) (e : Expr) : Prop :=
  Reads (path stop) 2 (Clear 9) ts e

theorem readsPath_filter {ts : List Token} {e : Expr} {ps : List Expr} {ss : List Step}
    (starts : startsPrimary ts) (first : ReadsPrimary stop ts e) (kept : ReadsPredicates stop ps)
    (more : ReadsTail stop clear us ss) :
    Reads (path stop) 2 clear (ts ++ printPredicates ps ++ us)
      (if ps.isEmpty && ss.isEmpty then e else .filter e ps ss) := by
  intro fuel placed rest written free enough
  obtain ⟨front, last, rfl, front', last'⟩ := List.map_eq_append_iff.mp written
  obtain ⟨one, conditions, rfl, one', conditions'⟩ := List.map_eq_append_iff.mp front'
  simp only [List.length_append] at enough
  obtain ⟨fuel, rfl⟩ : ∃ left, fuel = left + 2 := ⟨fuel - 2, by omega⟩
  have filled : 0 < ts.length := by
    obtain ⟨t, us, rfl, -⟩ := unsigned_of_startsPrimary starts
    simp
  have begun : startsPrimary ((one ++ conditions ++ last ++ rest).map Placed.token) := by
    simp only [List.map_append, one', List.append_assoc]
    exact startsPrimary_append starts _
  have read := first fuel one (conditions ++ (last ++ rest)) one' trivial (by omega)
  have filtered := kept fuel conditions (last ++ rest) conditions' (more.apart last' free)
    (by omega)
  have continued := more.reads fuel last rest last' free (by omega)
  rw [path_eq_filter begun]
  simp only [List.append_assoc, filter, read, filtered, continued]
  split <;> rfl

theorem startsStep_of_print {s : Step} {us : List Token} {ts rest : List Placed}
    (written : ts.map Placed.token = s.print ++ us) : startsStep (ts ++ rest) := by
  cases s with
  | mk axis test predicates =>
      obtain ⟨place, colons, rfl, colons'⟩ := map_token_eq_cons_iff.mp written
      obtain ⟨behind, inner, rfl, -⟩ := map_token_eq_cons_iff.mp colons'
      rfl

theorem readsPath_absolute {s : Step} {ss : List Step} (first : ReadsStep stop s)
    (others : ReadsTail stop clear us ss) :
    Reads (path stop) 2 clear (.slash :: (s.print ++ us)) (.path true (s :: ss)) := by
  intro fuel ts rest written free enough
  obtain ⟨slash, inner, rfl, inner'⟩ := map_token_eq_cons_iff.mp written
  rw [List.length_cons] at enough
  obtain ⟨fuel, rfl⟩ : ∃ left, fuel = left + 1 := ⟨fuel - 1, by omega⟩
  have all := readsSteps first others fuel inner rest inner' free (by omega)
  simp [path, startsStep_of_print inner', all]

theorem readsPath_relative {s : Step} {ss : List Step} (first : ReadsStep stop s)
    (others : ReadsTail stop clear us ss) :
    Reads (path stop) 2 clear (s.print ++ us) (.path false (s :: ss)) := by
  intro fuel ts rest written free enough
  obtain ⟨fuel, rfl⟩ : ∃ left, fuel = left + 1 := ⟨fuel - 1, by omega⟩
  have all := readsSteps first others fuel ts rest written free (by omega)
  have begun : startsStep (ts ++ rest) := startsStep_of_print written
  cases s with
  | mk axis test predicates =>
      obtain ⟨place, colons, rfl, -⟩ := map_token_eq_cons_iff.mp written
      rw [List.cons_append] at all begun ⊢
      simp [path, begun, all]

/-- The path `/` is read where nothing follows that could be taken for a step. -/
theorem path_bare {offset : Nat} {rest : List Placed} (closed : Closed rest) (fuel : Nat) :
    path stop (fuel + 1) (⟨.slash, offset⟩ :: rest) = .ok (.path true [], rest) := by
  have ends : startsStep rest = false := by
    match rest, closed with
    | [], _ => rfl
    | ⟨token, place⟩ :: rest, closed =>
        have closing : token ∈ [Token.rightParen, Token.rightBracket, Token.comma] := closed _ rfl
        simp only [List.mem_cons, List.not_mem_nil, or_false] at closing
        rcases closing with rfl | rfl | rfl <;> rfl
  simp [path, ends]

/-! ## Operators -/

/-- A union from its beginning. -/
def union (stop fuel : Nat) (ts : List Placed) : Result Expr :=
  match path stop fuel ts with
  | .error e => .error e
  | .ok (left, rest) => alternatives stop fuel left rest

/-- The members of a union, one after the other. -/
abbrev RunsUnion (stop : Nat) (ts : List Token) (e : Expr) : Prop :=
  Runs (union stop) (alternatives stop) 2 9 ts e

abbrev ReadsUnary (stop : Nat) (ts : List Token) (e : Expr) : Prop :=
  Reads (unary stop) 3 (Clear 8) ts e

abbrev ReadsOperand (stop : Nat) (level : Level) (ts : List Token) (e : Expr) : Prop :=
  Reads (fun fuel => operand stop fuel level) (16 - 2 * level.rank) (Clear (level.rank + 1)) ts e

/-- The operands of a level, one after the other. -/
abbrev RunsBinary (stop : Nat) (level : Level) (ts : List Token) (e : Expr) : Prop :=
  Runs (fun fuel => binary stop fuel level) (fun fuel => operators stop fuel level)
    (17 - 2 * level.rank) (level.rank + 1) ts e

theorem runsUnion_of_path {ts : List Token} {e : Expr} (reads : ReadsPath stop ts e) :
    RunsUnion stop ts e := by
  intro fuel placed rest written clear enough
  refine ⟨fuel, by omega, ?_⟩
  rw [union, reads fuel placed rest written clear enough]

theorem runsUnion_append {ts us : List Token} {l r : Expr} (left : RunsUnion stop ts l)
    (right : ReadsPath stop us r) : RunsUnion stop (ts ++ .pipe :: us) (.union l r) := by
  intro fuel placed rest written clear enough
  obtain ⟨front, last, rfl, front', last'⟩ := List.map_eq_append_iff.mp written
  obtain ⟨pipe, behind, rfl, behind'⟩ := map_token_eq_cons_iff.mp last'
  simp only [List.length_append, List.length_cons] at enough ⊢
  obtain ⟨fuel₁, much, run⟩ := left fuel front (⟨.pipe, pipe⟩ :: (behind ++ rest)) front'
    (clear_cons (by decide)) (by omega)
  obtain ⟨fuel₂, rfl⟩ : ∃ less, fuel₁ = less + 1 := ⟨fuel₁ - 1, by omega⟩
  have member := right fuel₂ behind rest behind' clear (by omega)
  refine ⟨fuel₂, by omega, ?_⟩
  rw [List.append_assoc, List.cons_append, run, alternatives]
  simp only [member]

theorem readsUnary_of_union {ts : List Token} {e : Expr} (runs : RunsUnion stop ts e)
    (unsigned : BeginsWithout .minus ts) : ReadsUnary stop ts e := by
  intro fuel placed rest written clear enough
  obtain ⟨fuel, rfl⟩ : ∃ less, fuel = less + 1 := ⟨fuel - 1, by omega⟩
  have filled : 0 < ts.length := by
    obtain ⟨t, us, rfl, -⟩ := unsigned
    simp
  obtain ⟨left, much, run⟩ := runs fuel placed rest written (clear.mono (by decide)) (by omega)
  obtain ⟨left, rfl⟩ : ∃ less, left = less + 1 := ⟨left - 1, by omega⟩
  have whole : unary stop (fuel + 1) (placed ++ rest) = union stop fuel (placed ++ rest) := by
    rw [← written] at unsigned
    rw [unary]
    · rfl
    · exact fun place after => unsigned.ne_cons
  rw [whole, run, alternatives]
  exact fun place after => clear.ne_cons (by decide)

theorem readsUnary_negate {ts : List Token} {e : Expr} (reads : ReadsUnary stop ts e) :
    ReadsUnary stop (.minus :: ts) (.negate e) := by
  intro fuel placed rest written clear enough
  obtain ⟨sign, behind, rfl, behind'⟩ := map_token_eq_cons_iff.mp written
  rw [List.length_cons] at enough
  obtain ⟨fuel, rfl⟩ : ∃ less, fuel = less + 1 := ⟨fuel - 1, by omega⟩
  have signed := reads fuel behind rest behind' clear (by omega)
  simp [unary, signed]

/-- An operator of a level takes hold as tightly as the level says. -/
theorem grip_of_operator? {level : Level} {token : Token} {apply : Expr → Expr → Expr}
    (operator : level.operator? token = some apply) : token.grip = level.rank := by
  unfold Level.operator? at operator
  split at operator <;> first | rfl | cases operator

theorem runsBinary_of_operand (level : Level) {ts : List Token} {e : Expr}
    (reads : ReadsOperand stop level ts e) : RunsBinary stop level ts e := by
  intro fuel placed rest written clear enough
  have low := level.rank_le
  obtain ⟨fuel, rfl⟩ : ∃ less, fuel = less + 1 := ⟨fuel - 1, by omega⟩
  refine ⟨fuel, by omega, ?_⟩
  have first := reads fuel placed rest written clear (by omega)
  simp only [binary, first]

/-- An operator with a right operand makes the left operand of what follows out of the one in front
of it. -/
theorem runsBinary_append {level : Level} {ts us : List Token} {token : Token}
    {apply : Expr → Expr → Expr} {l r : Expr} (operator : level.operator? token = some apply)
    (left : RunsBinary stop level ts l) (right : ReadsOperand stop level us r) :
    RunsBinary stop level (ts ++ token :: us) (apply l r) := by
  intro fuel placed rest written clear enough
  have low := level.rank_le
  obtain ⟨front, last, rfl, front', last'⟩ := List.map_eq_append_iff.mp written
  obtain ⟨place, behind, rfl, behind'⟩ := map_token_eq_cons_iff.mp last'
  simp only [List.length_append, List.length_cons] at enough ⊢
  obtain ⟨fuel₁, much, run⟩ := left fuel front (⟨token, place⟩ :: (behind ++ rest)) front'
    (clear_cons (by rw [grip_of_operator? operator]; omega)) (by omega)
  obtain ⟨fuel₂, rfl⟩ : ∃ less, fuel₁ = less + 1 := ⟨fuel₁ - 1, by omega⟩
  have second := right fuel₂ behind rest behind' clear (by omega)
  dsimp only at run second ⊢
  refine ⟨fuel₂, by omega, ?_⟩
  rw [List.append_assoc, List.cons_append, run, operators]
  simp only [operator, second]

/-- The loop of a level stops in front of what does not take hold so tightly. -/
theorem operators_of_clear {level : Level} {rest : List Placed} (clear : Clear level.rank rest)
    (fuel : Nat) (e : Expr) : operators stop (fuel + 1) level e rest = .ok (e, rest) := by
  cases rest with
  | nil => rw [operators]
  | cons t rest =>
      rw [operators]
      cases operator : level.operator? t.token with
      | none => rfl
      | some apply =>
          have tight := clear t rfl
          rw [grip_of_operator? operator] at tight
          exact absurd tight (Nat.lt_irrefl _)

theorem reads_binary {level : Level} {ts : List Token} {e : Expr}
    (runs : RunsBinary stop level ts e) :
    Reads (fun fuel => binary stop fuel level) (17 - 2 * level.rank) (Clear level.rank) ts e := by
  intro fuel placed rest written clear enough
  have low := level.rank_le
  obtain ⟨left, much, run⟩ := runs fuel placed rest written (clear.mono (by omega)) enough
  obtain ⟨left, rfl⟩ : ∃ less, left = less + 1 := ⟨left - 1, by omega⟩
  rw [run]
  exact operators_of_clear clear left e

theorem readsOperand_of_unary {ts : List Token} {e : Expr} (reads : ReadsUnary stop ts e) :
    ReadsOperand stop .multiplicative ts e := by
  intro fuel placed rest written clear enough
  have height : 16 - 2 * Level.multiplicative.rank = 4 := rfl
  obtain ⟨fuel, rfl⟩ : ∃ less, fuel = less + 1 := ⟨fuel - 1, by omega⟩
  have signed := reads fuel placed rest written (clear.mono (by decide)) (by omega)
  simp only [operand, Level.tighter?, signed]

theorem readsOperand_of_tighter {level tighter : Level} (next : level.tighter? = some tighter)
    {ts : List Token} {e : Expr} (runs : RunsBinary stop tighter ts e) :
    ReadsOperand stop level ts e := by
  intro fuel placed rest written clear enough
  have low := tighter.rank_le
  have higher := Level.rank_of_tighter? next
  obtain ⟨fuel, rfl⟩ : ∃ less, fuel = less + 1 := ⟨fuel - 1, by omega⟩
  have whole := reads_binary runs fuel placed rest written (higher ▸ clear) (by omega)
  simp only [operand, next]
  exact whole

theorem readsWhole_of_or {e : Expr} (runs : RunsBinary stop .or e.print e) : ReadsWhole stop e := by
  intro fuel placed rest written closed enough
  have height : 17 - 2 * Level.or.rank = 15 := rfl
  obtain ⟨fuel, rfl⟩ : ∃ less, fuel = less + 1 := ⟨fuel - 1, by omega⟩
  have whole := reads_binary runs fuel placed rest written (closed.clear (by decide)) (by omega)
  rw [expr]
  exact whole

end Harvest.XPath
