import Mathlib
import Harvest.Folder
import Harvest.Proofs.Keyed

/-!
# Folders that hold files only

A program that writes and removes files by usable names keeps a folder flat.  What it finds under a
name then depends on the last change under that name and on nothing else.
-/

namespace Harvest.Folder

variable {name other : String} {bytes : Bytes} {f g : Folder} {d : Directory Bytes}

/-- Whether a file can stand under a name. -/
def Usable (name : String) : Prop :=
  name ∉ ["", ".", ".."] ∧ name.utf8ByteSize ≤ longestName

instance : DecidablePred Usable := fun _ => inferInstanceAs (Decidable (_ ∧ _))

/-- Whether a folder is there, and holds files with usable names and nothing else. -/
def Flat (f : Folder) : Prop :=
  ∃ d, f.contents? = some d ∧ Keyed.Sorted d ∧
    ∀ entry ∈ d, Usable entry.1 ∧ ∃ bytes, entry.2 = .item bytes

theorem flat_empty : Flat {} := ⟨[], rfl, Keyed.sorted_nil, nofun⟩

/-! ## What stands under a name -/

theorem not_usable_iff :
    (["", ".", ".."].contains name || decide (longestName < name.utf8ByteSize)) = true ↔
      ¬Usable name := by
  rw [Bool.or_eq_true, List.contains_iff_mem, decide_eq_true_eq, Usable, not_and_or, not_not,
    not_le]

theorem find_eq (contents : f.contents? = some d) (usable : Usable name) :
    f.find name =
      match d.lookup name with
      | some (.item bytes) => .file bytes
      | some (.directory _) => .unusable
      | none => .nothing := by
  rw [find, contents]
  exact if_neg fun reserved => not_usable_iff.mp reserved usable

theorem find_of_not_usable (contents : f.contents? = some d) (reserved : ¬Usable name) :
    f.find name = .unusable := by
  rw [find, contents]
  exact if_pos (not_usable_iff.mpr reserved)

theorem find_empty_ne_file : find name {} ≠ .file bytes := by
  by_cases usable : Usable name
  · rw [find_eq (d := []) rfl usable]
    exact nofun
  · rw [find_of_not_usable (d := []) rfl usable]
    exact nofun

/-- The files of a flat folder are what can be found in it. -/
theorem mem_iff_find_eq_file (contents : f.contents? = some d) (sorted : Keyed.Sorted d)
    (files : ∀ entry ∈ d, Usable entry.1 ∧ ∃ bytes, entry.2 = .item bytes) :
    (name, .item bytes) ∈ d ↔ f.find name = .file bytes := by
  by_cases usable : Usable name
  · rw [find_eq contents usable, ← Keyed.lookup_eq_some_iff sorted]
    cases stands : d.lookup name with
    | none => simp
    | some entry => cases entry <;> simp
  · rw [find_of_not_usable contents usable]
    exact ⟨fun member => absurd (files _ member).1 usable, nofun⟩

theorem Flat.find_ne_unusable (flat : Flat f) (usable : Usable name) : f.find name ≠ .unusable := by
  obtain ⟨d, contents, sorted, files⟩ := flat
  rw [find_eq contents usable]
  cases stands : d.lookup name with
  | none => exact nofun
  | some entry =>
      obtain ⟨-, bytes, rfl⟩ := files _ ((Keyed.lookup_eq_some_iff sorted).mp stands)
      exact nofun

theorem Flat.find_of_not_usable (flat : Flat f) (reserved : ¬Usable name) :
    f.find name = .unusable := by
  obtain ⟨d, contents, -⟩ := flat
  exact Folder.find_of_not_usable contents reserved

/-! ## Changes -/

theorem Flat.write?_of_not_usable (flat : Flat f) (reserved : ¬Usable name) :
    f.write? name bytes = none := by
  rw [write?, flat.find_of_not_usable reserved]
  cases f.contents? <;> rfl

/-- A file can be written under each usable name, and changes what stands under this name only. -/
theorem Flat.write? (flat : Flat f) (usable : Usable name) (bytes : Bytes) :
    ∃ g, f.write? name bytes = some g ∧ Flat g ∧
      ∀ other, g.find other = if other = name then .file bytes else f.find other := by
  have free := flat.find_ne_unusable usable
  obtain ⟨d, contents, sorted, files⟩ := flat
  have written : (⟨some (d.insert name (.item bytes))⟩ : Folder).contents? =
      some (Keyed.insert name (.item bytes) d) := by
    rw [Directory.insert_eq]
  refine ⟨⟨some (d.insert name (.item bytes))⟩, ?_, ⟨_, written, Keyed.sorted_insert sorted,
    fun entry member => ?_⟩, fun other => ?_⟩
  · rw [Folder.write?, contents]
    cases stands : f.find name with
    | unusable => exact absurd stands free
    | nothing => rfl
    | file old => rfl
  · rcases Keyed.mem_of_mem_insert member with rfl | earlier
    · exact ⟨usable, bytes, rfl⟩
    · exact files entry earlier
  · by_cases reachable : Usable other
    · rw [find_eq written reachable, find_eq contents reachable, Keyed.lookup_insert]
      by_cases same : other = name
      · simp [same]
      · simp [same]
    · have different : other ≠ name := fun same => reachable (same ▸ usable)
      rw [if_neg different, Folder.find_of_not_usable written reachable,
        Folder.find_of_not_usable contents reachable]

theorem Flat.remove?_of_not_usable (flat : Flat f) (reserved : ¬Usable name) :
    f.remove? name = none := by
  rw [remove?, flat.find_of_not_usable reserved]

/-- What stands under a usable name can be removed, and nothing else is. -/
theorem Flat.remove? (flat : Flat f) (usable : Usable name) :
    ∃ g, f.remove? name = some (decide (f.find name ≠ .nothing), g) ∧ Flat g ∧
      ∀ other, g.find other = if other = name then .nothing else f.find other := by
  cases stands : f.find name with
  | unusable => exact absurd stands (flat.find_ne_unusable usable)
  | nothing =>
      refine ⟨f, by rw [Folder.remove?, stands]; rfl, flat, fun other => ?_⟩
      split
      · next same => rw [same, stands]
      · rfl
  | file old =>
      obtain ⟨d, contents, sorted, files⟩ := flat
      have erased : (⟨f.contents?.map (Directory.erase [name])⟩ : Folder).contents? =
          some (d.filter fun entry => entry.1 ≠ name) := by
        rw [contents]
        rfl
      refine ⟨⟨f.contents?.map (Directory.erase [name])⟩, by rw [Folder.remove?, stands]; rfl,
        ⟨_, erased, Keyed.sorted_filter sorted, fun entry member =>
          files entry (List.mem_of_mem_filter member)⟩, fun other => ?_⟩
      by_cases reachable : Usable other
      · rw [find_eq erased reachable, find_eq contents reachable, Keyed.lookup_erase]
        by_cases same : other = name
        · simp [same]
        · simp [same]
      · have different : other ≠ name := fun same => reachable (same ▸ usable)
        rw [if_neg different, Folder.find_of_not_usable erased reachable,
          Folder.find_of_not_usable contents reachable]

end Harvest.Folder
