import Mathlib
import Harvest.Datum

/-!
# Comparing data

Equality of data is symmetric and transitive, though not every number is equal to itself.  A datum
extends another if all that the other holds is in it too, and maybe more: more items of a list, with
those of the other among them in their order, and more entries of a mapping.
-/

namespace Harvest

namespace Datum

/-- What holds of scalars, and of lists and mappings if it holds of what is in them, holds of all
data. -/
theorem inductionOn {motive : Datum → Prop} (d : Datum) (int : ∀ n, motive (.int n))
    (float : ∀ x, motive (.float x)) (text : ∀ s, motive (.text s))
    (list : ∀ items, (∀ item ∈ items, motive item) → motive (.list items))
    (map : ∀ entries, (∀ entry ∈ entries, motive entry.2) → motive (.map entries)) : motive d :=
  match d with
  | .int n => int n
  | .float x => float x
  | .text s => text s
  | .list items => list items fun item _ => inductionOn item int float text list map
  | .map entries => map entries fun (_, e) _ => inductionOn e int float text list map
decreasing_by
  · simp_wf
    have smaller := List.sizeOf_lt_of_mem ‹item ∈ items›
    omega
  · simp_wf
    have smaller := List.sizeOf_lt_of_mem ‹_ ∈ entries›
    simp only [Prod.mk.sizeOf_spec] at smaller
    omega

/-! ## Equality of data -/

theorem equalItems_iff {ds es : List Datum} :
    equalItems ds es = true ↔ List.Forall₂ (fun d e => equal d e = true) ds es := by
  induction ds generalizing es with
  | nil => cases es <;> simp [equalItems]
  | cons d ds ih =>
      cases es with
      | nil => simp [equalItems]
      | cons e es => rw [equalItems, Bool.and_eq_true, ih, List.forall₂_cons]

theorem equalEntries_iff {ds es : List (String × Datum)} :
    equalEntries ds es = true ↔
      List.Forall₂ (fun d e => d.1 = e.1 ∧ equal d.2 e.2 = true) ds es := by
  induction ds generalizing es with
  | nil => cases es <;> simp [equalEntries]
  | cons d ds ih =>
      cases es with
      | nil => simp [equalEntries]
      | cons e es =>
          rw [equalEntries, Bool.and_eq_true, Bool.and_eq_true, beq_iff_eq, ih, List.forall₂_cons]

theorem equal_symm {d e : Datum} (same : equal d e = true) : equal e d = true := by
  induction d using inductionOn generalizing e with
  | int m => cases e <;> simp_all [equal]
  | float x => cases e <;> simp_all [equal, BEq.comm]
  | text s => cases e <;> simp_all [equal]
  | list items ih =>
      cases e with
      | list others =>
          rw [equal, equalItems_iff] at same ⊢
          exact ((List.forall₂_and_left _ _).mpr ⟨ih, same⟩).flip.imp fun _ _ pair => pair.1 pair.2
      | _ => cases same
  | map entries ih =>
      cases e with
      | map others =>
          rw [equal, equalEntries_iff] at same ⊢
          exact ((List.forall₂_and_left _ _).mpr ⟨ih, same⟩).flip.imp fun _ _ pair =>
            ⟨pair.2.1.symm, pair.1 pair.2.2⟩
      | _ => cases same

/-- Relations between lists chain up if those between their elements do. -/
theorem forall₂_chain {α : Type} {R S T : α → α → Prop} {as bs cs : List α}
    (chain : ∀ a ∈ as, ∀ b c, R a b → S b c → T a c) (first : List.Forall₂ R as bs)
    (second : List.Forall₂ S bs cs) : List.Forall₂ T as cs := by
  induction first generalizing cs with
  | nil =>
      cases second
      exact .nil
  | @cons a b as bs related _ ih =>
      cases second with
      | cons related' second =>
          exact .cons (chain a (.head as) b _ related related')
            (ih (fun other member => chain other (.tail a member)) second)

theorem equal_trans {d e f : Datum} (first : equal d e = true) (second : equal e f = true) :
    equal d f = true := by
  induction d using inductionOn generalizing e f with
  | int m => cases e <;> cases f <;> simp_all [equal]
  | float x =>
      cases e with
      | float y =>
          cases f with
          | float z =>
              rw [equal] at first second ⊢
              exact PartialEquivBEq.trans first second
          | _ => cases second
      | _ => cases first
  | text s => cases e <;> cases f <;> simp_all [equal]
  | list items ih =>
      cases e with
      | list others =>
          cases f with
          | list rest =>
              rw [equal, equalItems_iff] at first second ⊢
              exact forall₂_chain (fun d member e f (here : equal d e = true)
                (there : equal e f = true) => ih d member here there) first second
          | _ => cases second
      | _ => cases first
  | map entries ih =>
      cases e with
      | map others =>
          cases f with
          | map rest =>
              rw [equal, equalEntries_iff] at first second ⊢
              exact forall₂_chain (fun d member _ _ here there =>
                ⟨here.1.trans there.1, ih d member here.2 there.2⟩) first second
          | _ => cases second
      | _ => cases first

instance : PartialEquivBEq Datum where
  symm := equal_symm
  trans := equal_trans

/-! ## Extension -/

/-- Whether another datum extends a datum: it is the same if this is no list and no mapping, it has
extensions of all items of a list in their order, and extensions of the values under all keys of a
mapping. -/
inductive ExtendsTo : Datum → Datum → Prop where
  | int (n : Int) : ExtendsTo (.int n) (.int n)
  | float (x : Float) : ExtendsTo (.float x) (.float x)
  | text (s : String) : ExtendsTo (.text s) (.text s)
  | list {items others : List Datum} (each : List.SublistForall₂ ExtendsTo items others) :
      ExtendsTo (.list items) (.list others)
  | map {entries others : List (String × Datum)}
      (keys : ∀ key ∈ entries.map Prod.fst, key ∈ others.map Prod.fst)
      (each : ∀ key d e, entries.lookup key = some d → others.lookup key = some e →
        ExtendsTo d e) :
      ExtendsTo (.map entries) (.map others)

theorem ExtendsTo.refl (d : Datum) : d.ExtendsTo d := by
  induction d using inductionOn with
  | int n => exact .int n
  | float x => exact .float x
  | text s => exact .text s
  | list items ih =>
      refine .list (List.sublistForall₂_iff.mpr ⟨items, ?_, .refl items⟩)
      exact List.forall₂_same.mpr ih
  | map entries ih =>
      refine .map (fun key member => member) fun key d e own other => ?_
      obtain rfl : d = e := Option.some.inj (own.symm.trans other)
      obtain ⟨front, back, rfl, -⟩ := List.lookup_eq_some_iff.mp own
      exact ih (key, d) (List.mem_append_right front (.head back))

end Datum

end Harvest
