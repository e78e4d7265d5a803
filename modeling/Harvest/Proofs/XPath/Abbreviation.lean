import Mathlib
import Harvest.Proofs.Document.Partition
import Harvest.Proofs.XPath.Predicates
import Harvest.Proofs.XPath.RoundTrip

/-!
# Two slashes

Two slashes stand for a step to a node or anything below it, and the step behind them leads to the
children of what this step selects.  The children of all these nodes are what lies below the first
one, but the children of different nodes are counted apart: predicates that count make a difference
between `//a[1]` and `/descendant::a[1]`, and predicates that look at the node alone make none.
-/

namespace Harvest.XPath

variable {doc : Document}

/-! ## The nodes that are selected -/

theorem accepts_node {place p : Place} (member : p ∈ doc.along place .descendantOrSelf) :
    NodeTest.node.accepts doc p := by
  obtain ⟨path, index⟩ := place
  cases index with
  | some i =>
      obtain rfl : p = ⟨path, some i⟩ := List.mem_singleton.mp member
      rfl
  | none =>
      obtain ⟨q, inside, rfl⟩ := List.mem_map.mp member
      obtain ⟨u, found⟩ := Option.isSome_iff_exists.mp (Document.isSome_node?_of_mem_subtree inside)
      have content : doc.content? q = some u.content := by rw [Document.content?, found]; rfl
      simp [NodeTest.accepts, Place.ofPath, content]

theorem mem_from_iff {ps : List Expr} (free : ∀ p ∈ ps, p.IsPositionFree) {axis : Axis}
    {test : NodeTest} {place p : Place} :
    p ∈ (Step.mk axis test ps).from doc place ↔
      p ∈ doc.along place axis ∧ test.accepts doc p ∧ ps.all (·.holds doc p) := by
  rw [Step.from, sift_eq_filter free, List.mem_filter, mem_candidates, and_assoc]

theorem mem_from_anywhere {place p : Place} :
    p ∈ Step.anywhere.from doc place ↔ p ∈ doc.along place .descendantOrSelf := by
  rw [Step.anywhere, mem_from_iff (List.forall_mem_nil _)]
  simpa using accepts_node

/-- Steps to the children of all nodes from some place on, with predicates that look at the node
alone, are one step to what is below. -/
theorem walk_anywhere {ps : List Expr} (free : ∀ p ∈ ps, p.IsPositionFree) (test : NodeTest)
    (after : List Step) (places : List Place) :
    walk doc (.anywhere :: .mk .child test ps :: after) places =
      walk doc (.mk .descendant test ps :: after) places := by
  rw [walk, walk, walk]
  refine congrArg (walk doc after) (Place.sort_congr fun p => ?_)
  simp only [List.mem_flatMap, Place.mem_sort, mem_from_anywhere, mem_from_iff free,
    Document.mem_along_descendant_iff]
  constructor
  · rintro ⟨q, ⟨place, origin, inside⟩, child, chosen⟩
    exact ⟨place, origin, ⟨q, inside, child⟩, chosen⟩
  · rintro ⟨place, origin, ⟨q, inside, child⟩, chosen⟩
    exact ⟨q, ⟨place, origin, inside⟩, child, chosen⟩

/-! ## What is read -/

open Harvest.XPath.Parser

variable {stop : Nat}

/-- In front of a node test without an axis the children are understood. -/
theorem step_child {test : NodeTest} {ts rest : List Placed}
    (written : ts.map Placed.token = test.print)
    (plain : ∀ t ∈ rest.head?, t.token ≠ .doubleColon) (fuel : Nat) :
    step stop (fuel + 1) (ts ++ rest) =
      match nodeTest stop (ts ++ rest) with
      | .error e => .error e
      | .ok (test, rest) =>
          match predicates stop fuel rest with
          | .error e => .error e
          | .ok (ps, rest) => .ok (.mk .child test ps, rest) := by
  cases test with
  | any =>
      obtain ⟨offset, rfl⟩ := map_token_eq_singleton_iff.mp written
      rfl
  | name s =>
      obtain ⟨offset, rfl⟩ := map_token_eq_singleton_iff.mp written
      cases rest with
      | nil => rfl
      | cons next rest =>
          obtain ⟨token, place⟩ := next
          have other : token ≠ .doubleColon := plain _ rfl
          cases token <;> first | rfl | exact absurd rfl other
  | text | comment | node =>
      obtain ⟨offset, types, rfl, others⟩ := map_token_eq_cons_iff.mp written
      obtain ⟨opening, closing, rfl, -⟩ := map_token_eq_cons_iff.mp others
      rfl

/-- A step to children, without an axis, as the last of an expression. -/
theorem readsStep_child {test : NodeTest} {ps : List Expr} (kept : ReadsPredicates stop ps) :
    Reads (step stop) 0 Closed (test.print ++ printPredicates ps) (.mk .child test ps) := by
  intro fuel ts rest written closed enough
  obtain ⟨tested, conditions, rfl, tested', conditions'⟩ := List.map_eq_append_iff.mp written
  have filled : 0 < test.print.length := by cases test <;> exact Nat.succ_pos _
  rw [List.length_append] at enough
  obtain ⟨fuel, rfl⟩ : ∃ left, fuel = left + 1 := ⟨fuel - 1, by omega⟩
  have plain : ∀ t ∈ (conditions ++ rest).head?, t.token ≠ .doubleColon := by
    cases ps with
    | nil =>
        obtain rfl := List.map_eq_nil_iff.mp conditions'
        intro t next same
        have closing := closed t next
        rw [same] at closing
        revert closing
        decide
    | cons p ps =>
        obtain ⟨opening, inner, rfl, -⟩ := map_token_eq_cons_iff.mp conditions'
        rintro t ⟨⟩
        exact nofun
  have node : nodeTest stop (tested ++ (conditions ++ rest)) = .ok (test, conditions ++ rest) :=
    nodeTest_print test tested' (clear_printPredicates conditions' (closed.clear (by decide)))
  have all := kept fuel conditions rest conditions' (closed.clear (by decide)) (by omega)
  rw [List.append_assoc, step_child tested' plain, node]
  simp only [all]

/-- Two slashes with a step to children behind them are read as two steps. -/
theorem readsTail_anywhere (test : NodeTest) {ps : List Expr} (kept : ReadsPredicates stop ps) :
    ReadsTail stop Closed (.doubleSlash :: (test.print ++ printPredicates ps))
      [.anywhere, .mk .child test ps] := by
  constructor
  · intro fuel ts rest written closed enough
    obtain ⟨slashes, inner, rfl, inner'⟩ := map_token_eq_cons_iff.mp written
    rw [List.length_cons] at enough
    obtain ⟨fuel, rfl⟩ : ∃ left, fuel = left + 2 := ⟨fuel - 2, by omega⟩
    have child := readsStep_child kept fuel inner rest inner' closed (by omega)
    have ends : moreSteps stop fuel rest = .ok ([], rest) :=
      ReadsTail.nil.reads fuel [] rest rfl (closed.clear (by decide)) (by simp; omega)
    simp [moreSteps, steps, child, ends]
  · intro ts rest written closed
    obtain ⟨slashes, inner, rfl, -⟩ := map_token_eq_cons_iff.mp written
    exact clear_cons (by decide)

/-- In front of two slashes the path from the root is understood. -/
theorem readsPath_anywhere (test : NodeTest) {ps : List Expr} (kept : ReadsPredicates stop ps) :
    Reads (path stop) 2 Closed (.doubleSlash :: (test.print ++ printPredicates ps))
      (.path true [.anywhere, .mk .child test ps]) := by
  intro fuel ts rest written closed enough
  have tail := (readsTail_anywhere test kept).reads fuel ts rest written closed (by omega)
  obtain ⟨slashes, inner, rfl, -⟩ := map_token_eq_cons_iff.mp written
  obtain ⟨fuel, rfl⟩ : ∃ left, fuel = left + 1 := ⟨fuel - 1, by omega⟩
  rw [List.cons_append, moreSteps] at tail
  rw [List.cons_append, path]
  cases behind : steps stop fuel (inner ++ rest) with
  | error fault =>
      rw [behind] at tail
      cases tail
  | ok found =>
      rw [behind] at tail
      obtain ⟨same, left⟩ := Prod.mk.inj (Except.ok.inj tail)
      exact congrArg Except.ok (Prod.ext (congrArg (Expr.path true) same) left)

namespace Stem

/-- The tokens that write what stands in front of further steps.  Of the path from the root nothing
is written: its slash is the one that the first of the further steps stands behind. -/
def print : Stem → List Token
  | path _ [] => []
  | path absolute (s :: ss) => (Expr.path absolute (s :: ss)).print
  | filter primary predicates steps => (Expr.filter primary predicates steps).print

/-- Whether the grammar knows what stands in front of further steps. -/
def Readable : Stem → Prop
  | path absolute steps => (Expr.path absolute steps).Readable
  | filter primary predicates steps =>
      primary.Readable ∧ AllReadable predicates ∧ AllStepsReadable steps

/-- Behind anything that steps may be added to, two slashes and a step to children are read as a
step to all nodes from there on and this step. -/
theorem reads_anywhere (stop : Nat) {stem : Stem} (readable : stem.Readable) (test : NodeTest)
    {ps : List Expr} (conditions : AllReadable ps) :
    Reads (Parser.path stop) 2 Closed
        (stem.print ++ .doubleSlash :: (test.print ++ printPredicates ps))
        (stem.extend [.anywhere, .mk .child test ps]) ∧
      BeginsWithout .minus (stem.print ++ .doubleSlash :: (test.print ++ printPredicates ps)) := by
  have kept : ReadsPredicates stop ps := readsPredicates_of_forall (readsBack_of_mem ps conditions)
  have tail := readsTail_anywhere test kept
  cases stem with
  | path absolute steps =>
      obtain ⟨filled, readable⟩ := readable
      have each : ∀ s ∈ steps, ReadsStep stop s := readsStep_of_readable steps readable
      cases steps with
      | nil =>
          obtain rfl : absolute = true := filled.resolve_right (absurd rfl)
          exact ⟨readsPath_anywhere test kept, .doubleSlash, _, rfl, by rintro ⟨⟩⟩
      | cons s ss =>
          have first := each s (.head ss)
          have others := readsTail_append (fun other member => each other (.tail s member)) tail
          cases absolute with
          | true =>
              have whole := readsPath_absolute first others
              rw [print, Expr.print, if_pos rfl, printSteps]
              simp only [List.append_assoc, List.cons_append, List.nil_append]
              exact ⟨whole, .slash, _, rfl, by rintro ⟨⟩⟩
          | false =>
              have whole := readsPath_relative first others
              rw [print, Expr.print, if_neg Bool.false_ne_true, printSteps]
              simp only [List.append_assoc, List.nil_append]
              refine ⟨whole, ?_⟩
              cases s with
              | mk axis test predicates => exact ⟨.name axis.name, _, rfl, by rintro ⟨⟩⟩
  | filter primary predicates steps =>
      obtain ⟨first, given, readable⟩ := readable
      have whole : ReadsBack stop primary := readsBack_of_readable primary first
      obtain ⟨read, starts⟩ := whole.enclosed
      have all := readsPath_filter starts read
        (readsPredicates_of_forall (readsBack_of_mem predicates given))
        (readsTail_append (readsStep_of_readable steps readable) tail)
      rw [print, Expr.print]
      have more : (steps ++ [Step.anywhere, Step.mk .child test ps]).isEmpty = false := by simp
      rw [more, Bool.and_false, if_neg Bool.false_ne_true] at all
      rw [List.append_assoc]
      exact ⟨all, ((unsigned_of_startsPrimary starts).append _).append _⟩

/-- `P//T` is read as `P/descendant-or-self::node()/child::T`, for any `P` that steps may be added
to, and with predicates that look at the node alone it selects the same nodes as
`P/descendant::T`. -/
theorem eval_anywhere (stem : Stem) (test : NodeTest) (ps : List Expr) :
    (stem.Readable → AllReadable ps → ∀ (stop : Nat) (ts : List Placed),
      ts.map Placed.token = stem.print ++ .doubleSlash :: (test.print ++ printPredicates ps) →
      parse stop ts = .ok (stem.extend [.anywhere, .mk .child test ps])) ∧
    ((∀ p ∈ ps, p.IsPositionFree) → ∀ (doc : Document) (ctx : Context), ∃ places,
      (stem.extend [.anywhere, .mk .child test ps]).eval doc ctx = .nodes places ∧
      (stem.extend [.mk .descendant test ps]).eval doc ctx = .nodes places) := by
  refine ⟨fun readable conditions stop ts written => ?_, fun free doc ctx => ?_⟩
  · obtain ⟨reads, unsigned⟩ := reads_anywhere stop readable test conditions
    exact parse_of_reads (readsWhole_of_path reads unsigned)
      (List.append_ne_nil_of_right_ne_nil _ (List.cons_ne_nil _ _)) written
  · refine ⟨_, stem.eval_extend _ ctx, ?_⟩
    rw [eval_extend, walk_anywhere free]

/-- Boxes in boxes, two of them with a class. -/
def boxesDocument : Document :=
  ⟨.node .document
    [.node (.element .html "div" [⟨"class", "m", none⟩])
      [.node (.element .html "div" [])
        [.node (.element .html "div" [⟨"class", "n", none⟩]) [.node (.text "x") []]],
       .node (.text "y") []]]⟩

/-- `//div[attribute::class]` -/
def boxesTokens : List Placed :=
  [⟨.doubleSlash, 0⟩, ⟨.name "div", 2⟩, ⟨.leftBracket, 5⟩, ⟨.name "attribute", 6⟩,
    ⟨.doubleColon, 15⟩, ⟨.name "class", 17⟩, ⟨.rightBracket, 22⟩]

theorem eval_anywhere_boxes :
    (Stem.path true []).Readable ∧ AllReadable [Slot.hasClass] ∧ Slot.hasClass.IsPositionFree ∧
    boxesTokens.map Placed.token = (Stem.path true []).print ++
      .doubleSlash :: ((NodeTest.name "div").print ++ printPredicates [Slot.hasClass]) ∧
    parse 23 boxesTokens =
      .ok (.path true [.anywhere, .mk .child (.name "div") [Slot.hasClass]]) ∧
    (Expr.path true [.anywhere, .mk .child (.name "div") [Slot.hasClass]]).eval boxesDocument
      (.alone .root) = .nodes [⟨[0], none⟩, ⟨[0, 0, 0], none⟩] ∧
    (Expr.path true [.mk .descendant (.name "div") [Slot.hasClass]]).eval boxesDocument
      (.alone .root) = .nodes [⟨[0], none⟩, ⟨[0, 0, 0], none⟩] := by
  have classed : Slot.hasClass.IsPositionFree := by decide
  have value : (Expr.path true [.mk .descendant (.name "div") [Slot.hasClass]]).eval boxesDocument
      (.alone .root) = .nodes [⟨[0], none⟩, ⟨[0, 0, 0], none⟩] := by cbv
  obtain ⟨read, selected⟩ := eval_anywhere (.path true []) (.name "div") [Slot.hasClass]
  have readable : (Stem.path true []).Readable := ⟨.inl rfl, trivial⟩
  have conditions : AllReadable [Slot.hasClass] := ⟨⟨.inr (List.cons_ne_nil _ _), trivial, trivial⟩, trivial⟩
  obtain ⟨places, first, second⟩ :=
    selected (List.forall_mem_singleton.mpr classed) boxesDocument (.alone .root)
  have same : Value.nodes places = _ := second.symm.trans value
  exact ⟨readable, conditions, classed, rfl, read readable conditions 23 boxesTokens rfl,
    first.trans same, value⟩

end Stem

end Harvest.XPath
