import Mathlib.Data.List.Sort
import Harvest.Document.Order

/-!
# Document order is linear

Addresses are compared as lists of numbers and places by their addresses first, so document order
inherits the laws of the lexicographic order.  `Place.sort` puts places into strictly increasing
order and neither adds nor loses one; two such lists with the same members are the same list.
-/

namespace Harvest

/-! ## Runs of equal elements -/

section EraseReps

variable {α : Type} [BEq α]

theorem eraseRepsLoop_append (a : α) (rest acc : List α) :
    List.eraseRepsBy.loop (· == ·) a rest acc = acc.reverse ++ (a :: rest).eraseReps := by
  induction rest generalizing a acc with
  | nil => simp [List.eraseReps, List.eraseRepsBy, List.eraseRepsBy.loop]
  | cons b rest ih =>
      simp only [List.eraseReps, List.eraseRepsBy, List.eraseRepsBy.loop]
      cases a == b with
      | true => exact ih a acc
      | false =>
          simp only
          rw [ih b (a :: acc), ih b [a]]
          simp

theorem eraseReps_cons_cons (a b : α) (rest : List α) :
    (a :: b :: rest).eraseReps =
      if a == b then (a :: rest).eraseReps else a :: (b :: rest).eraseReps := by
  simp only [List.eraseReps, List.eraseRepsBy, List.eraseRepsBy.loop]
  cases a == b with
  | true => rfl
  | false =>
      simp only [eraseRepsLoop_append]
      rfl

variable [LawfulBEq α]

theorem mem_eraseReps {x : α} {items : List α} : x ∈ items.eraseReps ↔ x ∈ items := by
  cases items with
  | nil => rfl
  | cons a rest =>
      induction rest generalizing a with
      | nil => rfl
      | cons b rest ih =>
          rw [eraseReps_cons_cons]
          by_cases same : a = b
          · subst same
            simp [ih]
          · rw [if_neg (by simpa using same)]
            simp only [List.mem_cons, ih]

/-- In a list that never decreases only neighbours can be equal, so without them it increases. -/
theorem pairwise_eraseReps {le lt : α → α → Prop} {items : List α}
    (strict : ∀ {a b c}, le a b → a ≠ b → (b = c ∨ le b c) → lt a c)
    (sorted : items.Pairwise le) : items.eraseReps.Pairwise lt := by
  cases items with
  | nil => exact .nil
  | cons a rest =>
      induction rest generalizing a with
      | nil => exact List.pairwise_singleton lt a
      | cons b rest ih =>
          rw [eraseReps_cons_cons]
          obtain ⟨first, tail⟩ := List.pairwise_cons.mp sorted
          by_cases same : a = b
          · subst same
            simpa using ih a tail
          · rw [if_neg (by simpa using same)]
            refine List.pairwise_cons.mpr ⟨fun c found => ?_, ih b tail⟩
            rcases List.mem_cons.mp (mem_eraseReps.mp found) with rfl | later
            · exact strict (first c (by simp)) same (.inl rfl)
            · exact strict (first b (by simp)) same
                (.inr ((List.pairwise_cons.mp tail).1 c later))

end EraseReps

/-! ## The order of addresses and places -/

theorem Path.compare_eq (p q : Path) : Path.compare p q = Ord.compare p q := by
  induction p generalizing q with
  | nil => cases q <;> rfl
  | cons i p ih =>
      cases q with
      | nil => rfl
      | cons j q =>
          rw [Path.compare, List.compare_cons_cons, ih]
          cases Ord.compare i j <;> rfl

namespace Place

theorem compareIndex_eq (i j : Option Nat) : compareIndex i j = Ord.compare i j := by
  cases i <;> cases j <;> rfl

theorem compare_eq : compare = compareLex (compareOn path) (compareOn index) := by
  funext a b
  simp only [compare, compareLex, compareOn, Path.compare_eq, compareIndex_eq]
  cases Ord.compare a.path b.path <;> rfl

instance : Std.TransCmp compare := compare_eq ▸ inferInstance

instance : Std.LawfulEqCmp compare where
  eq_of_compare {a b} equal := by
    rw [compare_eq, compareLex_eq_eq] at equal
    obtain ⟨paths, indices⟩ := equal
    cases a
    cases b
    exact congrArg₂ Place.mk (Std.LawfulEqOrd.eq_of_compare paths)
      (Std.LawfulEqOrd.eq_of_compare indices)

/-- Whether `a` comes before `b` in document order. -/
def Before (a b : Place) : Prop := compare a b = .lt

instance (a b : Place) : Decidable (Before a b) := inferInstanceAs (Decidable (_ = _))

theorem Before.trans {a b c : Place} (first : Before a b) (second : Before b c) : Before a c :=
  Std.TransCmp.lt_trans first second

theorem compare_self (a : Place) : compare a a = .eq := Std.ReflCmp.compare_self

theorem Before.irrefl (a : Place) : ¬ Before a a := by
  simp [Before, compare_self]

theorem Before.asymm {a b : Place} (first : Before a b) : ¬ Before b a :=
  fun second => Before.irrefl a (first.trans second)

instance : Std.Irrefl Before := ⟨Before.irrefl⟩

instance : Std.Antisymm Before := ⟨fun _ _ first second => absurd second first.asymm⟩

/-- Of two different places one comes before the other. -/
theorem before_or_before {a b : Place} (different : a ≠ b) : Before a b ∨ Before b a := by
  cases order : compare a b with
  | lt => exact .inl order
  | eq => exact absurd (Std.LawfulEqCmp.eq_of_compare order) different
  | gt => exact .inr (Std.OrientedCmp.lt_of_gt order)

theorem le_iff {a b : Place} : le a b = true ↔ a = b ∨ Before a b := by
  simp only [le, Before]
  cases order : compare a b with
  | lt => simp
  | eq => simp [Std.LawfulEqCmp.eq_of_compare order]
  | gt =>
      have different : a ≠ b := by
        rintro rfl
        simp [compare_self] at order
      simp [different]

/-! ## Sorting -/

@[simp]
theorem mem_sort {p : Place} {places : List Place} : p ∈ sort places ↔ p ∈ places := by
  rw [sort, mem_eraseReps]
  exact (List.mergeSort_perm places le).mem_iff

theorem pairwise_sort (places : List Place) : (sort places).Pairwise Before := by
  have total (a b : Place) : (le a b || le b a) = true := by
    rw [Bool.or_eq_true, le_iff, le_iff]
    by_cases same : a = b
    · exact .inl (.inl same)
    · exact (before_or_before same).imp .inr .inr
  have sorted : (places.mergeSort le).Pairwise fun a b => le a b = true :=
    List.pairwise_mergeSort (fun a b c => Std.TransCmp.isLE_trans) total places
  refine pairwise_eraseReps (fun {a b c} first different second => ?_) sorted
  have step : Before a b := (le_iff.mp first).resolve_left different
  rcases second with rfl | second
  · exact step
  · rcases le_iff.mp second with rfl | later
    · exact step
    · exact step.trans later

/-- Lists in document order are determined by their members. -/
theorem eq_of_mem_iff {ps qs : List Place} (first : ps.Pairwise Before) (second : qs.Pairwise Before)
    (members : ∀ p, p ∈ ps ↔ p ∈ qs) : ps = qs :=
  first.eq_of_mem_iff second members

theorem sort_congr {ps qs : List Place} (members : ∀ p, p ∈ ps ↔ p ∈ qs) : sort ps = sort qs :=
  eq_of_mem_iff (pairwise_sort ps) (pairwise_sort qs) fun p => by simp [members p]

theorem sort_of_pairwise {places : List Place} (sorted : places.Pairwise Before) :
    sort places = places :=
  eq_of_mem_iff (pairwise_sort places) sorted fun _ => mem_sort

/-- A selection from a list in document order is in document order itself only if it keeps the
order of the list. -/
theorem sublist_of_subset {ps qs : List Place} (first : ps.Pairwise Before)
    (second : qs.Pairwise Before) (within : ps ⊆ qs) : List.Sublist ps qs :=
  List.sublist_of_subperm_of_pairwise (List.subperm_of_subset first.nodup within) first second

end Place

end Harvest
