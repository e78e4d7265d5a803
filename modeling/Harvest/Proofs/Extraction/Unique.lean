import Mathlib
import Harvest.Proofs.Datum
import Harvest.Proofs.Extraction.Markup
import Harvest.Proofs.Extraction.Multiplicity

/-!
# Values that count once

A field that wants each value once has for its value the list that it would have otherwise, without
the items that are equal to an item before them.  It does not matter whether this is decided as the
items are found, one after the other, or in the end: equality of data is symmetric and transitive,
so an item is equal to one of those that were kept if and only if it is equal to one of all those
before it.
-/

namespace Harvest

namespace Datum

/-! ## First occurrences -/

/-- The items of a list that are equal to no item before them. -/
def firsts (items : List Datum) : List Datum :=
  items.zipIdx.filterMap fun (d, i) => if (items.take i).contains d then none else some d

theorem firsts_append_singleton (items : List Datum) (d : Datum) :
    firsts (items ++ [d]) = if items.contains d then firsts items else firsts items ++ [d] := by
  have earlier : items.zipIdx.filterMap (fun (e, i) =>
      if ((items ++ [d]).take i).contains e then none else some e) = firsts items := by
    refine List.filterMap_congr fun (e, i) member => ?_
    have inside : i ≤ items.length := (List.snd_lt_of_mem_zipIdx member).le
    simp [List.take_append_of_le_length inside]
  rw [firsts, List.zipIdx_append, List.filterMap_append, earlier]
  cases known : items.contains d with
  | true => simp [known]
  | false => simp [known]

/-- Leaving out what occurs again does not change what the list has an equal of. -/
theorem contains_firsts (items : List Datum) (d : Datum) :
    (firsts items).contains d = items.contains d := by
  induction items using List.reverseRecOn with
  | nil => rfl
  | append_singleton items last ih =>
      rw [firsts_append_singleton]
      cases known : items.contains last with
      | true =>
          rw [if_pos rfl, ih, List.contains_append]
          cases equal : d == last with
          | true =>
              have known : items.contains d = true := by
                rw [List.contains_iff_exists_mem_beq] at known ⊢
                obtain ⟨first, member, same⟩ := known
                exact ⟨first, member, PartialEquivBEq.trans equal same⟩
              rw [known, Bool.true_or]
          | false => simp [equal]
      | false => rw [if_neg Bool.false_ne_true, List.contains_append, ih, List.contains_append]

theorem firsts_sublist (items : List Datum) : (firsts items).Sublist items := by
  induction items using List.reverseRecOn with
  | nil => exact .slnil
  | append_singleton items last ih =>
      rw [firsts_append_singleton]
      split
      · exact ih.trans (List.sublist_append_left items [last])
      · exact ih.append_right [last]

/-- No two of the items that are kept are equal. -/
theorem pairwise_firsts (items : List Datum) :
    (firsts items).Pairwise fun d e => (d == e) = false ∧ (e == d) = false := by
  induction items using List.reverseRecOn with
  | nil => exact .nil
  | append_singleton items last ih =>
      rw [firsts_append_singleton]
      split
      · exact ih
      · next fresh =>
          refine List.pairwise_append.mpr ⟨ih, List.pairwise_singleton _ last, ?_⟩
          rintro d member _ (_ | ⟨_, ⟨⟩⟩)
          have different : (last == d) = false := by
            rw [← contains_firsts] at fresh
            refine Bool.eq_false_iff.mpr fun same => fresh ?_
            exact List.contains_iff_exists_mem_beq.mpr ⟨d, member, same⟩
          exact ⟨BEq.comm.trans different, different⟩

end Datum

/-! ## Fields -/

namespace FieldPlan

variable {f : FieldPlan}

/-- The field that wants each value once, and is like another in all else. -/
def once (f : FieldPlan) : FieldPlan := { f with unique := true }

/-- Deciding about each value as it is found comes to the same as leaving out in the end what occurs
again: at each value, those that were kept have an equal of it if and only if those that were found
have one. -/
theorem collect_once (f : FieldPlan) (values : List Datum) :
    f.once.collect values = Datum.firsts values := by
  induction values using List.reverseRecOn with
  | nil => rfl
  | append_singleton values last ih =>
      have step : f.once.collect (values ++ [last]) = f.once.push (f.once.collect values) last :=
        List.foldl_append
      rw [step, ih, Datum.firsts_append_singleton, push, Datum.contains_firsts]
      simp [once]

theorem collect_of_not_unique (repeats : f.unique = false) (values : List Datum) :
    f.collect values = values := by
  rw [collect_eq, repeats, if_neg Bool.false_ne_true]

/-- What a query finds for a field with lists for values, and for the one that wants each value
once. -/
theorem candidate?_once (repeats : f.unique = false) (multiple : f.isMultiple = true)
    (doc : Document) (place : Place) (q : XPath.Query) :
    ∃ items, f.candidate? doc place q = some (.list items) ∧
      f.once.candidate? doc place q = some (.list (Datum.firsts items)) := by
  have multiple' : f.once.isMultiple = true := multiple
  rw [candidate?, candidate?, if_pos multiple, if_pos multiple']
  refine ⟨_, rfl, congrArg (some ∘ Datum.list) ?_⟩
  by_cases html : f.shape.kind = .html
  · have html' : f.once.shape.kind = .html := html
    rw [if_pos html, if_pos html', markupList_eq, markupList_eq, collect_once,
      collect_of_not_unique repeats]
    rfl
  · have html' : f.once.shape.kind ≠ .html := html
    rw [if_neg html, if_neg html', textList, textList, collect_once,
      collect_of_not_unique repeats]
    rfl

theorem leaf?_once (repeats : f.unique = false) (multiple : f.isMultiple = true)
    (queries : f.candidates ≠ []) (doc : Document) (place : Place) :
    ∃ items, f.leaf? doc place = some (.list items) ∧
      f.once.leaf? doc place = some (.list (Datum.firsts items)) := by
  obtain ⟨q, rest, own⟩ := List.exists_cons_of_ne_nil queries
  have own' : f.once.candidates = q :: rest := own
  obtain ⟨items, plain, kept⟩ := candidate?_once repeats multiple doc place q
  refine ⟨items, ?_, ?_⟩
  · rw [leaf?_of_isMultiple multiple, own, List.head?_cons, Option.bind_some, plain]
  · rw [leaf?_of_isMultiple (p := f.once) multiple, own', List.head?_cons, Option.bind_some, kept]

end FieldPlan

namespace Plan

/-- A field with lists for values that wants each value once compiles if it does without this wish.
Its list then is the one that it has otherwise, without the items that are equal to one before them:
the others stay in their order, no two of them are equal, and each of those that were left out is
equal to one of them.  If the field has no queries, it has no list either way. -/
theorem retrieve_once (f : Definition.Field) (p : Plan)
    (compiled : compile { f with unique := false } = .ok p) (leaf : p.field.shape.kind ≠ .struct)
    (multiple : p.field.isMultiple = true) :
    ∃ q, compile { f with unique := true } = .ok q ∧ ∀ doc place,
      (p.field.candidates = [] → p.retrieve doc place = none ∧ q.retrieve doc place = none) ∧
      (p.field.candidates ≠ [] → ∃ items,
        p.retrieve doc place = some (.list items) ∧
        q.retrieve doc place = some (.list (Datum.firsts items)) ∧
        (Datum.firsts items).Sublist items ∧
        (Datum.firsts items).Pairwise (fun d e => (d == e) = false ∧ (e == d) = false) ∧
        ∀ d, (Datum.firsts items).contains d = items.contains d) := by
  obtain ⟨fits, below⟩ := compile_eq_ok_iff.mp compiled
  have repeats : p.field.unique = false := fits.unique
  have leaf' : p.field.once.shape.kind ≠ .struct := leaf
  refine ⟨.node p.field.once p.children,
    compile_eq_ok_iff.mpr ⟨{ fits with unique := rfl }, below⟩, fun doc place => ⟨?_, ?_⟩⟩
  · intro none
    have none' : p.field.once.candidates = [] := none
    rw [retrieve_eq, retrieve_eq, if_neg leaf, Plan.field, if_neg leaf', FieldPlan.leaf?, none,
      FieldPlan.leaf?, none']
    exact ⟨rfl, rfl⟩
  · intro queries
    obtain ⟨items, plain, kept⟩ := FieldPlan.leaf?_once repeats multiple queries doc place
    refine ⟨items, ?_, ?_, Datum.firsts_sublist items, Datum.pairwise_firsts items,
      Datum.contains_firsts items⟩
    · rw [retrieve_eq, if_neg leaf, plain]
    · rw [retrieve_eq, Plan.field, if_neg leaf', kept]

/-- The whole numbers in what is bold. -/
def numbersField : Definition.Field :=
  { title := "numbers", type := "int", path := ⟨["//b"]⟩, multiple := true }

def numbersPlan : Plan :=
  .node ⟨"numbers", ⟨.int, false⟩,
    [⟨"//b", .path true [.mk .descendantOrSelf .node [], .mk .child (.name "b") []]⟩], {}, {},
    false, false, true, false, false⟩ []

/-- One, in two spellings, before two, no number, and one again. -/
def numbersDocument : Document :=
  ⟨.node .document (["1", "+01", "2", "x", "1"].map fun s =>
    .node (.element .html "b" []) [.node (.text s) []])⟩

theorem retrieve_once_numbers :
    compile { numbersField with unique := false } = .ok numbersPlan ∧
    numbersPlan.field.shape.kind ≠ .struct ∧ numbersPlan.field.isMultiple = true ∧
    numbersPlan.retrieve numbersDocument .root =
      some (.list [.int 1, .int 1, .int 2, .int 1]) ∧
    ∃ q, compile { numbersField with unique := true } = .ok q ∧
      q.retrieve numbersDocument .root = some (.list [.int 1, .int 2]) := by
  have compiled : compile { numbersField with unique := false } = .ok numbersPlan :=
    compile_eq_ok_iff.mpr ⟨⟨rfl, by cbv, rfl, rfl, by cbv, rfl, rfl, rfl, rfl, rfl⟩, .nil⟩
  have found : numbersPlan.retrieve numbersDocument .root =
      some (.list [.int 1, .int 1, .int 2, .int 1]) := by cbv
  have leaf : numbersPlan.field.shape.kind ≠ .struct := by decide
  obtain ⟨q, compiled', values⟩ := retrieve_once numbersField numbersPlan compiled leaf rfl
  obtain ⟨items, plain, kept, -⟩ := (values numbersDocument .root).2 (List.cons_ne_nil _ _)
  obtain rfl := Datum.list.inj (Option.some.inj (found.symm.trans plain))
  exact ⟨compiled, leaf, rfl, found, q, compiled', kept.trans (by cbv)⟩

end Plan

end Harvest
