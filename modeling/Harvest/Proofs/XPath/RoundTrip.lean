import Mathlib
import Harvest.Proofs.XPath.Parsed
import Harvest.Proofs.XPath.Reading

/-!
# Writing and reading agree

An expression that the grammar knows is read back from the tokens that write it.  What is written
of rank `k` can be read by the function for the operands of rank `k`, and then by all looser ones,
so an operand is read where it stands, in parentheses if it is too loose.  The parser yields only
such expressions, so what it has read can be written and read again.
-/

namespace Harvest.XPath

open Harvest.XPath.Parser

variable {stop : Nat}

/-! ## Operands of a rank -/

/-- Whether tokens are read as an expression by the function for the operands of rank `k`. -/
def ReadsAt (stop k : Nat) (ts : List Token) (e : Expr) : Prop :=
  match k with
  | 1 => RunsBinary stop .or ts e
  | 2 => RunsBinary stop .and ts e
  | 3 => RunsBinary stop .equality ts e
  | 4 => RunsBinary stop .relational ts e
  | 5 => RunsBinary stop .additive ts e
  | 6 => RunsBinary stop .multiplicative ts e
  | 7 => ReadsUnary stop ts e
  | 8 => RunsUnion stop ts e ∧ BeginsWithout .minus ts
  | _ => ReadsPath stop ts e ∧ BeginsWithout .minus ts

variable {ts : List Token} {e : Expr}

theorem readsAt_rank_iff {level : Level} :
    ReadsAt stop level.rank ts e ↔ RunsBinary stop level ts e := by
  cases level <;> exact Iff.rfl

theorem readsOperand_of_readsAt {level : Level} (reads : ReadsAt stop (level.rank + 1) ts e) :
    ReadsOperand stop level ts e := by
  cases next : level.tighter? with
  | none =>
      obtain rfl : level = .multiplicative := by cases level <;> first | rfl | cases next
      exact readsOperand_of_unary reads
  | some tighter =>
      rw [← Level.rank_of_tighter? next] at reads
      exact readsOperand_of_tighter next (readsAt_rank_iff.mp reads)

theorem ReadsAt.loosen {k : Nat} (positive : 0 < k) (reads : ReadsAt stop (k + 1) ts e) :
    ReadsAt stop k ts e := by
  match k, positive with
  | 1, _ => exact runsBinary_of_operand .or (readsOperand_of_readsAt reads)
  | 2, _ => exact runsBinary_of_operand .and (readsOperand_of_readsAt reads)
  | 3, _ => exact runsBinary_of_operand .equality (readsOperand_of_readsAt reads)
  | 4, _ => exact runsBinary_of_operand .relational (readsOperand_of_readsAt reads)
  | 5, _ => exact runsBinary_of_operand .additive (readsOperand_of_readsAt reads)
  | 6, _ => exact runsBinary_of_operand .multiplicative (readsOperand_of_readsAt reads)
  | 7, _ => exact readsUnary_of_union reads.1 reads.2
  | 8, _ => exact ⟨runsUnion_of_path reads.1, reads.2⟩
  | k + 9, _ => exact reads

/-- What is read where a tight operand is expected is read where a loose one is. -/
theorem ReadsAt.of_le {j k : Nat} (positive : 0 < k) (le : k ≤ j) (reads : ReadsAt stop j ts e) :
    ReadsAt stop k ts e := by
  induction le with
  | refl => exact reads
  | @step j le ih => exact ih (reads.loosen (positive.trans_le le))

theorem ReadsAt.whole {k : Nat} (positive : 0 < k) (reads : ReadsAt stop k e.print e) :
    ReadsWhole stop e := by
  have loosest : ReadsAt stop 1 e.print e := reads.of_le Nat.one_pos positive
  exact readsWhole_of_or loosest

theorem readsPath_primary (starts : startsPrimary ts) (primary : ReadsPrimary stop ts e) :
    ReadsPath stop ts e := by
  have reads := readsPath_filter starts primary readsPredicates_nil .nil
  simpa [printPredicates] using reads

/-! ## Expressions -/

/-- Whether an expression is read back from its tokens: as a whole, as an operand of its own rank
unless it is the path `/`, and as a primary expression if it is one. -/
structure ReadsBack (stop : Nat) (e : Expr) : Prop where
  whole : ReadsWhole stop e
  own : e.isBare = false → ReadsAt stop e.rank e.print e
  primary : e.isPrimary = true → ReadsPrimary stop e.print e ∧ startsPrimary e.print
  opens : BeginsWithout .rightParen e.print

namespace ReadsBack

theorem of_own (own : ReadsAt stop e.rank e.print e) (compound : e.isPrimary = false)
    (opens : BeginsWithout .rightParen e.print) : ReadsBack stop e where
  whole := own.whole e.rank_pos
  own := fun _ => own
  primary := fun primary => by rw [compound] at primary; cases primary
  opens := opens

theorem of_primary (tight : e.rank = 9) (starts : startsPrimary e.print)
    (opens : BeginsWithout .rightParen e.print) (primary : ReadsPrimary stop e.print e) :
    ReadsBack stop e := by
  have own : ReadsAt stop 9 e.print e :=
    ⟨readsPath_primary starts primary, unsigned_of_startsPrimary starts⟩
  exact ⟨own.whole (by decide), fun _ => tight ▸ own, fun _ => ⟨primary, starts⟩, opens⟩

theorem opens_enclose (reads : ReadsBack stop e) (needed : Bool) :
    BeginsWithout .rightParen (enclose needed e.print) := by
  cases needed with
  | true => exact ⟨.leftParen, _, rfl, nofun⟩
  | false => exact reads.opens

/-- An operand is read where it stands. -/
theorem operand (reads : ReadsBack stop e) {k : Nat} (positive : 0 < k) (le : k ≤ 9) :
    ReadsAt stop k (e.printOperand k) e := by
  rw [Expr.printOperand]
  cases loose : e.isLoose k with
  | true =>
      have enclosed : ReadsAt stop 9 (enclose true e.print) e :=
        ⟨readsPath_primary rfl (readsPrimary_enclose reads.whole), .leftParen, _, rfl, nofun⟩
      exact enclosed.of_le positive le
  | false =>
      rw [Expr.isLoose, Bool.or_eq_false_iff, decide_eq_false_iff_not, not_lt] at loose
      exact (reads.own loose.2).of_le positive loose.1

/-- Operands with an operator of a level between them. -/
theorem binary (level : Level) {token : Token} {apply : Expr → Expr → Expr} {l r : Expr}
    (left : ReadsBack stop l) (right : ReadsBack stop r)
    (operator : level.operator? token = some apply) :
    ReadsAt stop level.rank
      (l.printOperand level.rank ++ token :: r.printOperand (level.rank + 1)) (apply l r) := by
  have positive := level.rank_pos
  have low := level.rank_le
  have first := left.operand positive (by omega)
  have second := right.operand (k := level.rank + 1) (by omega) (by omega)
  exact readsAt_rank_iff.mpr
    (runsBinary_append operator (readsAt_rank_iff.mp first) (readsOperand_of_readsAt second))

theorem negate (reads : ReadsBack stop e) : ReadsBack stop (.negate e) := by
  have signed : ReadsAt stop 7 (e.printOperand 7) e := reads.operand (by decide) (by decide)
  have own : ReadsAt stop 7 (Expr.negate e).print (.negate e) := readsUnary_negate signed
  exact of_own own rfl ⟨.minus, _, rfl, nofun⟩

theorem union {l r : Expr} (left : ReadsBack stop l) (right : ReadsBack stop r) :
    ReadsBack stop (.union l r) := by
  obtain ⟨first, unsigned⟩ : ReadsAt stop 8 (l.printOperand 8) l :=
    left.operand (by decide) (by decide)
  obtain ⟨second, -⟩ : ReadsAt stop 9 (r.printOperand 9) r :=
    right.operand (by decide) (by decide)
  have own : ReadsAt stop 8 (Expr.union l r).print (.union l r) :=
    ⟨runsUnion_append first second, unsigned.append _⟩
  exact of_own own rfl ((left.opens_enclose _).append _)

end ReadsBack

/-- What the function for paths reads in front of a closing token is read there as a whole
expression. -/
theorem readsWhole_of_path (reads : Reads (path stop) 2 Closed ts e)
    (unsigned : BeginsWithout .minus ts) : Reads (expr stop) 16 Closed ts e := by
  intro fuel placed rest written closed enough
  obtain ⟨fuel, rfl⟩ : ∃ less, fuel = less + 16 := ⟨fuel - 16, by omega⟩
  have ends (level : Level) (fuel : Nat) :
      operators stop (fuel + 1) level e rest = .ok (e, rest) :=
    operators_of_clear (closed.clear level.rank_pos) fuel _
  have alone (fuel : Nat) : alternatives stop (fuel + 1) e rest = .ok (e, rest) := by
    rw [alternatives]
    have clear : Clear 8 rest := closed.clear (by decide)
    exact fun place after => clear.ne_cons (by decide)
  have member : unary stop (fuel + 3) (placed ++ rest) = .ok (e, rest) := by
    rw [← written] at unsigned
    rw [unary, reads (fuel + 2) placed rest written closed (by omega)]
    · exact alone (fuel + 1)
    · exact fun place after => unsigned.ne_cons
  simp [expr, binary, operand, Level.tighter?, member, ends]

/-- The path `/` is read where it is a whole expression. -/
theorem readsWhole_bare : ReadsWhole stop (.path true []) := by
  refine readsWhole_of_path (fun fuel ts rest written closed enough => ?_) ⟨.slash, [], rfl, nofun⟩
  obtain ⟨offset, rfl⟩ := map_token_eq_singleton_iff.mp written
  obtain ⟨fuel, rfl⟩ : ∃ less, fuel = less + 1 := ⟨fuel - 1, by omega⟩
  exact path_bare closed fuel

theorem readsPredicates_of_forall {ps : List Expr} (each : ∀ p ∈ ps, ReadsBack stop p) :
    ReadsPredicates stop ps := by
  induction ps with
  | nil => exact readsPredicates_nil
  | cons p ps ih =>
      exact readsPredicates_cons (each p (.head ps)).whole
        (ih fun other member => each other (.tail p member))

/-- Steps, each behind a slash, in front of what is read as further steps. -/
theorem readsTail_append {clear : List Placed → Prop} {us : List Token} {ss more : List Step}
    (each : ∀ s ∈ ss, ReadsStep stop s) (tail : ReadsTail stop clear us more) :
    ReadsTail stop clear (printMoreSteps ss ++ us) (ss ++ more) := by
  induction ss with
  | nil => exact tail
  | cons s ss ih =>
      have others := ih fun other member => each other (.tail s member)
      rw [printMoreSteps, List.cons_append, List.append_assoc]
      exact .cons (each s (.head ss)) others

theorem readsTail_of_forall {ss : List Step} (each : ∀ s ∈ ss, ReadsStep stop s) :
    ReadsTail stop (Clear 9) (printMoreSteps ss) ss := by
  simpa only [List.append_nil] using readsTail_append each .nil

namespace ReadsBack

theorem path {absolute : Bool} {steps : List Step} (filled : absolute = true ∨ steps ≠ [])
    (each : ∀ s ∈ steps, ReadsStep stop s) : ReadsBack stop (.path absolute steps) := by
  cases steps with
  | nil =>
      obtain rfl : absolute = true := filled.resolve_right (absurd rfl)
      exact ⟨readsWhole_bare, nofun, nofun, .slash, _, rfl, nofun⟩
  | cons s ss =>
      have first := each s (.head ss)
      have others := readsTail_of_forall fun other member => each other (.tail s member)
      cases absolute with
      | true =>
          have own : ReadsAt stop 9 (Expr.path true (s :: ss)).print (.path true (s :: ss)) :=
            ⟨readsPath_absolute first others, .slash, _, rfl, nofun⟩
          exact of_own own rfl ⟨.slash, _, rfl, nofun⟩
      | false =>
          cases s with
          | mk axis test predicates =>
              have own : ReadsAt stop 9 (Expr.path false (.mk axis test predicates :: ss)).print
                  (.path false (.mk axis test predicates :: ss)) :=
                ⟨readsPath_relative first others, .name axis.name, _, rfl, nofun⟩
              exact of_own own rfl ⟨.name axis.name, _, rfl, nofun⟩

/-- An expression is read where a primary expression is expected, in parentheses if it is none. -/
theorem enclosed (reads : ReadsBack stop e) :
    ReadsPrimary stop (enclose (!e.isPrimary) e.print) e ∧
      startsPrimary (enclose (!e.isPrimary) e.print) := by
  cases alone : e.isPrimary with
  | true => exact reads.primary alone
  | false => exact ⟨readsPrimary_enclose reads.whole, rfl⟩

theorem filter {primary : Expr} {ps : List Expr} {ss : List Step} (filled : ps ≠ [] ∨ ss ≠ [])
    (first : ReadsBack stop primary) (conditions : ∀ p ∈ ps, ReadsBack stop p)
    (each : ∀ s ∈ ss, ReadsStep stop s) : ReadsBack stop (.filter primary ps ss) := by
  obtain ⟨read, starts⟩ := first.enclosed
  have whole := readsPath_filter starts read (readsPredicates_of_forall conditions)
    (readsTail_of_forall each)
  have some : (ps.isEmpty && ss.isEmpty) = false := by
    rcases filled with some | some <;> simp [some]
  rw [some, if_neg Bool.false_ne_true] at whole
  have unsigned := ((unsigned_of_startsPrimary starts).append (printPredicates ps)).append
    (printMoreSteps ss)
  have own : ReadsAt stop 9 (Expr.filter primary ps ss).print (.filter primary ps ss) := by
    rw [Expr.print]
    exact ⟨whole, unsigned⟩
  refine of_own own rfl ?_
  rw [Expr.print]
  exact ((first.opens_enclose _).append _).append _

theorem call {f : Function} {es : List Expr} (admitted : f.admits es.length)
    (each : ∀ e ∈ es, ReadsBack stop e) : ReadsBack stop (.call f es) := by
  have opens : BeginsWithout .rightParen (Expr.call f es).print := ⟨.name f.word, _, rfl, nofun⟩
  have starts : startsPrimary (Expr.call f es).print := by
    simp [Expr.print, startsPrimary, not_isNodeType_word]
  exact of_primary rfl starts opens
    (readsPrimary_call admitted fun e member => ⟨(each e member).whole, (each e member).opens⟩)

end ReadsBack

mutual

/-- What the grammar knows is read back from its tokens. -/
theorem readsBack_of_readable (e : Expr) (readable : e.Readable) : ReadsBack stop e :=
  match e with
  | .or left right => by
      have first := readsBack_of_readable left readable.1
      have second := readsBack_of_readable right readable.2
      exact .of_own (first.binary .or second rfl) rfl
        ((first.opens_enclose _).append _)
  | .and left right => by
      have first := readsBack_of_readable left readable.1
      have second := readsBack_of_readable right readable.2
      exact .of_own (first.binary .and second rfl) rfl
        ((first.opens_enclose _).append _)
  | .compare op left right => by
      have first := readsBack_of_readable left readable.1
      have second := readsBack_of_readable right readable.2
      have operator : op.level.operator? op.token = some (.compare op) := by cases op <;> rfl
      exact .of_own (first.binary op.level second operator) rfl
        ((first.opens_enclose _).append _)
  | .arith op left right => by
      have first := readsBack_of_readable left readable.1
      have second := readsBack_of_readable right readable.2
      have operator : op.level.operator? op.token = some (.arith op) := by cases op <;> rfl
      exact .of_own (first.binary op.level second operator) rfl
        ((first.opens_enclose _).append _)
  | .negate e => (readsBack_of_readable e readable).negate
  | .union left right =>
      (readsBack_of_readable left readable.1).union (readsBack_of_readable right readable.2)
  | .path absolute steps => .path readable.1 (readsStep_of_readable steps readable.2)
  | .filter primary predicates steps =>
      .filter readable.1 (readsBack_of_readable primary readable.2.1)
        (readsBack_of_mem predicates readable.2.2.1) (readsStep_of_readable steps readable.2.2.2)
  | .literal s => .of_primary rfl rfl ⟨_, _, rfl, nofun⟩ (readsPrimary_literal s)
  | .number x => .of_primary rfl rfl ⟨_, _, rfl, nofun⟩ (readsPrimary_number x)
  | .call f args => .call readable.1 (readsBack_of_mem args readable.2)

theorem readsBack_of_mem (es : List Expr) (readable : AllReadable es) :
    ∀ e ∈ es, ReadsBack stop e :=
  match es with
  | [] => nofun
  | e :: es =>
      List.forall_mem_cons.mpr
        ⟨readsBack_of_readable e readable.1, readsBack_of_mem es readable.2⟩

theorem readsStep_of_readable (ss : List Step) (readable : AllStepsReadable ss) :
    ∀ s ∈ ss, ReadsStep stop s :=
  match ss with
  | [] => nofun
  | .mk _ _ predicates :: ss =>
      List.forall_mem_cons.mpr
        ⟨readsStep (readsPredicates_of_forall (readsBack_of_mem predicates readable.1)),
          readsStep_of_readable ss readable.2⟩

end

/-- What is read as a whole expression in front of nothing is what the parser yields. -/
theorem parse_of_reads (reads : Reads (expr stop) 16 Closed ts e) (filled : ts ≠ [])
    {qs : List Placed} (written : qs.map Placed.token = ts) : parse stop qs = .ok e := by
  have some : qs.isEmpty = false := by
    rw [List.isEmpty_eq_false_iff]
    rintro rfl
    exact filled written.symm
  have length : ts.length = qs.length := by rw [← written, List.length_map]
  have whole := reads (fuelFor qs) qs [] written nofun (by rw [fuelFor]; omega)
  rw [List.append_nil] at whole
  simp [parse, some, whole]

/-- The parser reads an expression that the grammar knows from its tokens, and uses them all. -/
theorem parse_of_readable (readable : e.Readable) {qs : List Placed}
    (written : qs.map Placed.token = e.print) : parse stop qs = .ok e := by
  have reads : ReadsBack stop e := readsBack_of_readable e readable
  obtain ⟨t, us, begun, -⟩ := reads.opens
  exact parse_of_reads reads.whole (by rw [begun]; exact List.cons_ne_nil t us) written

/-- The parser yields the expressions that the grammar knows, and no others. -/
theorem readable_iff_exists_parse : e.Readable ↔ ∃ ts, parse stop ts = .ok e := by
  constructor
  · intro readable
    have written : (e.print.map (⟨·, 0⟩)).map Placed.token = e.print := by
      simp [List.map_map, Function.comp_def]
    exact ⟨_, parse_of_readable readable written⟩
  · rintro ⟨ts, parsed⟩
    exact readable_of_parse parsed

/-- What the parser has read from any tokens it reads again from the tokens that write it. -/
theorem parse_print (stop : Nat) (ts : List Placed) (e : Expr) (parsed : parse stop ts = .ok e)
    (stop' : Nat) (qs : List Placed) (written : qs.map Placed.token = e.print) :
    parse stop' qs = .ok e :=
  parse_of_readable (readable_of_parse parsed) written

/-- `(/) | (text[or or -(div * count)])[last()]//comment`, where `text`, `div`, `count`, `comment`
and the first `or` are names of elements. -/
def wordsExpr : Expr :=
  .union (.path true [])
    (.filter
      (.path false
        [.mk .child (.name "text")
          [.or (.path false [.mk .child (.name "or") []])
            (.negate (.arith .multiply (.path false [.mk .child (.name "div") []])
              (.path false [.mk .child (.name "count") []])))]])
      [.call .last []] [.anywhere, .mk .child (.name "comment") []])

def wordsTokens : List Placed :=
  [⟨.leftParen, 0⟩, ⟨.slash, 1⟩, ⟨.rightParen, 2⟩, ⟨.pipe, 4⟩, ⟨.leftParen, 6⟩, ⟨.name "text", 7⟩,
    ⟨.leftBracket, 11⟩, ⟨.name "or", 12⟩, ⟨.name "or", 15⟩, ⟨.minus, 18⟩, ⟨.leftParen, 19⟩,
    ⟨.name "div", 20⟩, ⟨.star, 24⟩, ⟨.name "count", 26⟩, ⟨.rightParen, 31⟩, ⟨.rightBracket, 32⟩,
    ⟨.rightParen, 33⟩, ⟨.leftBracket, 34⟩, ⟨.name "last", 35⟩, ⟨.leftParen, 39⟩,
    ⟨.rightParen, 40⟩, ⟨.rightBracket, 41⟩, ⟨.doubleSlash, 42⟩, ⟨.name "comment", 44⟩]

/-- The same with all axes, and with no parentheses but those that the first text has. -/
def wordsWritten : List Token :=
  [.leftParen, .slash, .rightParen, .pipe, .leftParen, .name "child", .doubleColon, .name "text",
    .leftBracket, .name "child", .doubleColon, .name "or", .name "or", .minus, .leftParen,
    .name "child", .doubleColon, .name "div", .star, .name "child", .doubleColon, .name "count",
    .rightParen, .rightBracket, .rightParen, .leftBracket, .name "last", .leftParen, .rightParen,
    .rightBracket, .slash, .name "descendant-or-self", .doubleColon, .name "node", .leftParen,
    .rightParen, .slash, .name "child", .doubleColon, .name "comment"]

theorem parse_print_words :
    parse 51 wordsTokens = .ok wordsExpr ∧ wordsExpr.print = wordsWritten ∧
    parse 0 (wordsWritten.map (⟨·, 0⟩)) = .ok wordsExpr := by
  have parsed : parse 51 wordsTokens = .ok wordsExpr := by cbv
  have print : wordsExpr.print = wordsWritten := by cbv
  have written : (wordsWritten.map (⟨·, 0⟩)).map Placed.token = wordsExpr.print := by
    rw [print]
    rfl
  exact ⟨parsed, print, parse_print 51 wordsTokens wordsExpr parsed 0 _ written⟩

end Harvest.XPath
