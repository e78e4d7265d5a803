import Mathlib
import Harvest.Extraction

/-!
# Markup from working copies

The removals of a node are the addresses that some remove of the filter selects.  Nodes with the
same removals may share a working copy, and the markup of each is the same as if it had one of its
own.
-/

namespace Harvest

namespace NodeFilter

variable {f : NodeFilter} {doc : Document} {place : Place} {path : Path}

theorem mem_foldl_push {paths found : List Path} :
    path ∈ paths.foldl
        (fun found path => if found.contains path then found else found ++ [path]) found ↔
      path ∈ found ∨ path ∈ paths := by
  induction paths generalizing found with
  | nil => simp
  | cons other paths ih =>
      rw [List.foldl_cons, ih, List.mem_cons]
      by_cases known : other ∈ found
      · have seen : found.contains other = true := by simpa using known
        rw [seen, if_pos rfl]
        constructor
        · rintro (earlier | later)
          · exact .inl earlier
          · exact .inr (.inr later)
        · rintro (earlier | rfl | later)
          · exact .inl earlier
          · exact .inl known
          · exact .inr later
      · have fresh : found.contains other = false := by simpa using known
        rw [fresh, if_neg Bool.false_ne_true, List.mem_append, List.mem_singleton, or_assoc]

/-- The removals are what the removes select and can be taken out. -/
theorem mem_removals : path ∈ f.removals doc place ↔
    ∃ q ∈ f.removes, ∃ p ∈ q.select doc place, target? p = some path := by
  have added (removes : List XPath.Query) (found : List Path) :
      path ∈ removes.foldl (fun found q =>
          ((q.select doc place).filterMap target?).foldl
            (fun found path =>
              if found.contains path then found else found ++ [path]) found) found ↔
        path ∈ found ∨ ∃ q ∈ removes, ∃ p ∈ q.select doc place, target? p = some path := by
    induction removes generalizing found with
    | nil => simp
    | cons q removes ih =>
        rw [List.foldl_cons, ih, mem_foldl_push, List.mem_filterMap, or_assoc]
        simp
  rw [removals, added]
  simp

/-- An address that can be taken out is that of a node below the root. -/
theorem target?_eq_some_iff {p : Place} :
    target? p = some path ↔ p = .ofPath path ∧ path ≠ [] := by
  obtain ⟨own, index⟩ := p
  cases index with
  | none =>
      simp only [target?, Option.isNone_none, Bool.true_and, Place.ofPath, Place.mk.injEq, and_true]
      constructor
      · intro targeted
        split at targeted
        · next inside =>
            obtain rfl := Option.some.inj targeted
            exact ⟨rfl, by simpa using inside⟩
        · cases targeted
      · rintro ⟨rfl, inside⟩
        simpa using inside
  | some i => simp [target?, Place.ofPath]

end NodeFilter

namespace FieldPlan

variable (f : FieldPlan) (doc : Document)

/-- Sharing working copies does not show: each node that is accepted is written from a copy that is
as good as its own. -/
theorem markupFrom_eq {shared : Option (List Path × WorkingCopy)}
    (made : ∀ paths copy, shared = some (paths, copy) → copy = doc.without paths)
    (targets : List Place) :
    f.markupFrom doc shared targets =
      (targets.filter (f.nodeFilter.accepts doc)).map fun target =>
        .text (f.markup doc target) := by
  induction targets generalizing shared with
  | nil => rfl
  | cons target targets ih =>
      rw [markupFrom]
      by_cases accepted : f.nodeFilter.accepts doc target
      · have later (copy : WorkingCopy)
            (own : copy = doc.without (f.nodeFilter.removals doc target)) :
            f.markupFrom doc (some (f.nodeFilter.removals doc target, copy)) targets = _ :=
          ih fun paths other same => by
            obtain ⟨rfl, rfl⟩ := Prod.mk.inj (Option.some.inj same)
            exact own
        rw [if_pos accepted, List.filter_cons_of_pos accepted, List.map_cons]
        cases shared with
        | none =>
            dsimp only
            rw [later _ rfl]
            rfl
        | some pair =>
            obtain ⟨paths, copy⟩ := pair
            obtain rfl := made paths copy rfl
            have own : (if paths = f.nodeFilter.removals doc target then doc.without paths
                else doc.without (f.nodeFilter.removals doc target)) =
                  doc.without (f.nodeFilter.removals doc target) := by
              split
              · next same => rw [same]
              · rfl
            dsimp only
            rw [own, later _ rfl]
            rfl
      · rw [if_neg accepted, List.filter_cons_of_neg accepted, ih made]

theorem markupList_eq (place : Place) (q : XPath.Query) :
    f.markupList doc place q = f.collect (((q.select doc place).filter
      (f.nodeFilter.accepts doc)).map fun target => .text (f.markup doc target)) := by
  rw [markupList, markupFrom_eq]
  rintro paths copy ⟨⟩

/-! ## Repeated values -/

/-- Adding values that are not there yet, one after the other, leaves the first of those that are
equal. -/
theorem foldl_push_unique (values found : List Datum) :
    values.foldl (fun found value => if found.contains value then found else found ++ [value])
      found = List.eraseDupsBy.loop (· == ·) values found.reverse := by
  induction values generalizing found with
  | nil => simp [List.eraseDupsBy.loop]
  | cons value values ih =>
      have seen : found.reverse.any (value == ·) = found.contains value := by
        rw [List.any_reverse, List.contains_eq_any_beq]
      rw [List.foldl_cons, ih, List.eraseDupsBy.loop, seen]
      cases found.contains value with
      | true => rfl
      | false => simp

/-- What is collected are the values, without those that are equal to an earlier one if the field
wants each once. -/
theorem collect_eq (values : List Datum) :
    f.collect values = if f.unique then values.eraseDups else values := by
  cases unique : f.unique with
  | true =>
      have push : f.push = fun found value =>
          if found.contains value then found else found ++ [value] := by
        funext found value
        simp [FieldPlan.push, unique]
      rw [collect, push, foldl_push_unique, if_pos rfl]
      rfl
  | false =>
      have push : f.push = fun found value => found ++ [value] := by
        funext found value
        simp [FieldPlan.push, unique]
      rw [collect, push, List.foldl_append_eq_append, ← List.flatMap_def, List.flatMap_singleton']
      rfl

end FieldPlan

end Harvest
