import Mathlib
import Harvest.Extraction
import Harvest.Proofs.Keyed

/-!
# What a structure is read as

A structure has a value if each of its fields has one that is not optional.  The value then has an
entry for each field with a value, where of two fields with one title the later counts.
-/

namespace Harvest.Plan

variable {doc : Document} {place : Place} {value : Datum}

theorem retrieve_eq (doc : Document) (p : Plan) (place : Place) :
    p.retrieve doc place =
      if p.field.shape.kind = .struct then
        if p.field.isMultiple then
          some (.list ((p.field.roots doc place).filterMap fun root =>
            record doc p.children root []))
        else (p.field.roots doc place).head?.bind fun root => record doc p.children root []
      else p.field.leaf? doc place := by
  obtain ⟨field, children⟩ := p
  rw [retrieve, Plan.field, Plan.children]
  cases field.roots doc place <;> rfl

/-- The entry of a field in the structure around it, if the field has a value. -/
def titled? (doc : Document) (place : Place) (p : Plan) : Option (String × Datum) :=
  (p.retrieve doc place).map fun value => (p.title, value)

/-- Whether each of some fields has a value that the structure around it cannot do without. -/
def Suffices (doc : Document) (place : Place) (ps : List Plan) : Prop :=
  ∀ p ∈ ps, p.field.optional = false → (p.retrieve doc place).isSome

theorem suffices_cons {p : Plan} {ps : List Plan} :
    Suffices doc place (p :: ps) ↔
      (p.field.optional = false → (p.retrieve doc place).isSome) ∧ Suffices doc place ps :=
  List.forall_mem_cons

theorem record_eq_some_iff {ps : List Plan} {found : List (String × Datum)} :
    record doc ps place found = some value ↔
      Suffices doc place ps ∧
        value = Datum.ofEntries (found ++ ps.filterMap (titled? doc place)) := by
  induction ps generalizing found with
  | nil =>
      rw [record, List.filterMap_nil, List.append_nil, Option.some_inj]
      exact ⟨fun same => ⟨nofun, same.symm⟩, fun whole => whole.2.symm⟩
  | cons p ps ih =>
      rw [record, suffices_cons]
      cases retrieved : p.retrieve doc place with
      | some d =>
          have here : titled? doc place p = some (p.title, d) := by
            rw [titled?, retrieved, Option.map_some]
          rw [List.filterMap_cons_some here, ih]
          simp
      | none =>
          have here : titled? doc place p = none := by rw [titled?, retrieved, Option.map_none]
          rw [List.filterMap_cons_none here]
          cases optional : p.field.optional with
          | true => simp [ih]
          | false => simp

theorem isSome_record_iff {ps : List Plan} {found : List (String × Datum)} :
    (record doc ps place found).isSome ↔ Suffices doc place ps := by
  rw [Option.isSome_iff_exists]
  constructor
  · rintro ⟨value, recorded⟩
    exact (record_eq_some_iff.mp recorded).1
  · intro enough
    exact ⟨_, record_eq_some_iff.mpr ⟨enough, rfl⟩⟩

/-- The value of a structure is a mapping in the order of keys, each entry of which is that of a
field, and which has the title of each field with a value. -/
theorem record_eq_some {ps : List Plan} (recorded : record doc ps place [] = some value) :
    Suffices doc place ps ∧
      ∃ entries, value = .map entries ∧ Keyed.Sorted entries ∧
        (∀ entry ∈ entries, ∃ p ∈ ps, p.titled? doc place = some entry) ∧
        ∀ p ∈ ps, (p.retrieve doc place).isSome → p.title ∈ entries.map Prod.fst := by
  obtain ⟨enough, rfl⟩ := record_eq_some_iff.mp recorded
  refine ⟨enough, _, Datum.ofEntries_eq _, Keyed.sorted_ofList, fun entry member => ?_,
    fun p member retrieved => ?_⟩
  · exact List.mem_filterMap.mp (Keyed.mem_of_mem_ofList member)
  · obtain ⟨d, valued⟩ := Option.isSome_iff_exists.mp retrieved
    have here : p.titled? doc place = some (p.title, d) := by rw [titled?, valued, Option.map_some]
    exact Keyed.mem_keys_ofList.mpr
      (List.mem_map_of_mem (List.mem_filterMap.mpr ⟨p, member, here⟩))

end Harvest.Plan
