import Mathlib
import Harvest.Proofs.Keyed
import Harvest.Proofs.Path

/-!
# What is in a directory

A directory is looked at as the list of its items, each with the names that lead to it, and the list
of the directories below it.  In a directory of the file system names are names, and no name stands
twice beside another.  Sifting such a directory loses nothing: each item is kept where it was,
rejected with its reason, or ignored, and each directory stays.
-/

namespace Harvest.Directory

variable {α β ε : Type}

/-! ## Items and directories -/

mutual

/-- The items of an entry called `name`, with the names that lead to them. -/
def filesOf (name : String) : Entry α → List (List String × α)
  | .item a => [([name], a)]
  | .directory entries => (files entries).map fun file => (name :: file.1, file.2)

/-- The items of a directory and of those below it, with the names that lead to them. -/
def files : List (String × Entry α) → List (List String × α)
  | [] => []
  | (name, entry) :: entries => filesOf name entry ++ files entries

end

mutual

/-- The directories of an entry called `name`, by the names that lead to them. -/
def directoriesOf (name : String) : Entry α → List (List String)
  | .item _ => []
  | .directory entries => [name] :: (directories entries).map (name :: ·)

/-- The directories below a directory, by the names that lead to them. -/
def directories : List (String × Entry α) → List (List String)
  | [] => []
  | (name, entry) :: entries => directoriesOf name entry ++ directories entries

end

mutual

/-- Whether every name below an entry is a name of the file system. -/
def NamedEntry : Entry α → Prop
  | .item _ => True
  | .directory entries => Named entries

/-- Whether every name in a directory, and in the directories below it, is one of the file system. -/
def Named : List (String × Entry α) → Prop
  | [] => True
  | (name, entry) :: entries => Path.IsName name ∧ NamedEntry entry ∧ Named entries

end

mutual

/-- Whether what is below an entry is well-named. -/
def WellNamedEntry : Entry α → Prop
  | .item _ => True
  | .directory entries => WellNamed entries

/-- Whether everything in a directory has a name of its own, and so in the directories below it. -/
def WellNamed : List (String × Entry α) → Prop
  | [] => True
  | (name, entry) :: entries =>
      Path.IsName name ∧ name ∉ entries.map Prod.fst ∧ WellNamedEntry entry ∧ WellNamed entries

end

/-- What holds of the empty directory, and of a directory if it holds of it without its first entry,
and of the directory that this entry may be, holds of all directories. -/
theorem inductionOn {motive : Directory α → Prop} (d : Directory α) (nil : motive [])
    (item : ∀ name a d, motive d → motive ((name, .item a) :: d))
    (directory : ∀ name below d, motive below → motive d → motive ((name, .directory below) :: d)) :
    motive d :=
  match d with
  | [] => nil
  | (name, .item a) :: d => item name a d (inductionOn d nil item directory)
  | (name, .directory below) :: d =>
      directory name below d (inductionOn below nil item directory)
        (inductionOn d nil item directory)

@[simp] theorem files_nil : files ([] : Directory α) = [] := rfl

@[simp] theorem files_item (name : String) (a : α) (d : Directory α) :
    files ((name, .item a) :: d) = ([name], a) :: files d := by
  rw [files, filesOf, List.singleton_append]

@[simp] theorem files_directory (name : String) (below d : Directory α) :
    files ((name, .directory below) :: d) =
      (files below).map (fun file => (name :: file.1, file.2)) ++ files d := by
  rw [files, filesOf]

@[simp] theorem directories_nil : directories ([] : Directory α) = [] := rfl

@[simp] theorem directories_item (name : String) (a : α) (d : Directory α) :
    directories ((name, .item a) :: d) = directories d := by
  rw [directories, directoriesOf, List.nil_append]

@[simp] theorem directories_directory (name : String) (below d : Directory α) :
    directories ((name, .directory below) :: d) =
      ([name] :: (directories below).map (name :: ·)) ++ directories d := by
  rw [directories, directoriesOf]

theorem files_perm {d e : Directory α} (same : d.Perm e) : (files d).Perm (files e) := by
  induction same with
  | nil => exact .nil
  | cons entry _ ih => exact ih.append_left _
  | swap first second rest =>
      obtain ⟨name, entry⟩ := first
      obtain ⟨other, entry'⟩ := second
      simp only [files, ← List.append_assoc]
      exact List.perm_append_comm.append_right _
  | trans _ _ first second => exact first.trans second

theorem directories_perm {d e : Directory α} (same : d.Perm e) :
    (directories d).Perm (directories e) := by
  induction same with
  | nil => exact .nil
  | cons entry _ ih => exact ih.append_left _
  | swap first second rest =>
      obtain ⟨name, entry⟩ := first
      obtain ⟨other, entry'⟩ := second
      simp only [directories, ← List.append_assoc]
      exact List.perm_append_comm.append_right _
  | trans _ _ first second => exact first.trans second

/-! ## Names -/

theorem WellNamed.named {d : Directory α} (well : WellNamed d) : Named d := by
  induction d using inductionOn with
  | nil => trivial
  | item name a d ih =>
      obtain ⟨ordinary, -, -, rest⟩ := well
      exact ⟨ordinary, trivial, ih rest⟩
  | directory name below d ihBelow ih =>
      obtain ⟨ordinary, -, inside, rest⟩ := well
      exact ⟨ordinary, ihBelow inside, ih rest⟩

theorem Named.ordinary {d : Directory α} (named : Named d) :
    ∀ file ∈ files d, file.1 ≠ [] ∧ ∀ name ∈ file.1, Path.IsName name := by
  induction d using inductionOn with
  | nil => nofun
  | item name a d ih =>
      obtain ⟨ordinary, -, rest⟩ := named
      rw [files_item, List.forall_mem_cons]
      exact ⟨⟨by simp, by simpa using ordinary⟩, ih rest⟩
  | directory name below d ihBelow ih =>
      obtain ⟨ordinary, inside, rest⟩ := named
      rw [files_directory, List.forall_mem_append]
      refine ⟨fun file member => ?_, ih rest⟩
      obtain ⟨inner, innerMember, rfl⟩ := List.mem_map.mp member
      exact ⟨by simp, List.forall_mem_cons.mpr ⟨ordinary, (ihBelow inside inner innerMember).2⟩⟩

theorem Named.ordinary_directories {d : Directory α} (named : Named d) :
    ∀ names ∈ directories d, ∀ name ∈ names, Path.IsName name := by
  induction d using inductionOn with
  | nil => nofun
  | item name a d ih =>
      rw [directories_item]
      exact ih named.2.2
  | directory name below d ihBelow ih =>
      obtain ⟨ordinary, inside, rest⟩ := named
      rw [directories_directory, List.cons_append, List.forall_mem_cons, List.forall_mem_append]
      refine ⟨by simpa using ordinary, fun names member => ?_, ih rest⟩
      obtain ⟨inner, innerMember, rfl⟩ := List.mem_map.mp member
      exact List.forall_mem_cons.mpr ⟨ordinary, ihBelow inside inner innerMember⟩

theorem WellNamed.ordinary {d : Directory α} (well : WellNamed d) :
    ∀ file ∈ files d, file.1 ≠ [] ∧ ∀ name ∈ file.1, Path.IsName name :=
  well.named.ordinary

theorem head?_mem_keys {d : Directory α} {names : List String} {name : String}
    (member : names ∈ (files d).map Prod.fst) (first : names.head? = some name) :
    name ∈ d.map Prod.fst := by
  induction d using inductionOn with
  | nil => cases member
  | item other a d ih =>
      rw [files_item, List.map_cons, List.mem_cons] at member
      rcases member with rfl | later
      · obtain rfl : other = name := Option.some.inj first
        exact .head _
      · exact .tail _ (ih later)
  | directory other below d _ ih =>
      rw [files_directory, List.map_append, List.mem_append, List.map_map] at member
      rcases member with inside | later
      · obtain ⟨file, -, rfl⟩ := List.mem_map.mp inside
        obtain rfl : other = name := Option.some.inj first
        exact .head _
      · exact .tail _ (ih later)

theorem foldl_fullName {base : String} {names : List String} (filled : base ≠ "")
    (some : names ≠ []) : names.foldl fullName base = base ++ "/" ++ Path.slashed names := by
  induction names generalizing base with
  | nil => exact absurd rfl some
  | cons name names ih =>
      have below : fullName base name = base ++ "/" ++ name :=
        if_neg (by simpa using filled)
      rw [List.foldl_cons, below]
      cases names with
      | nil => simp [Path.slashed]
      | cons other names =>
          rw [ih (by simp) (by simp), Path.slashed_cons name (by simp)]
          simp [String.append_assoc]

theorem foldl_fullName_empty {names : List String} (filled : ∀ name ∈ names, name ≠ "") :
    names.foldl fullName "" = Path.slashed names := by
  cases names with
  | nil => rfl
  | cons name names =>
      have top : fullName "" name = name := rfl
      rw [List.foldl_cons, top]
      cases names with
      | nil => simp [Path.slashed]
      | cons other names =>
          rw [foldl_fullName (filled name (.head _)) (by simp),
            Path.slashed_cons name (by simp)]

theorem namesBelow_eq (base : String) (d : Directory α) :
    namesBelow base d = (files d).map fun file => file.1.foldl fullName base := by
  induction d using inductionOn generalizing base with
  | nil => rfl
  | item name a d ih =>
      rw [namesBelow, entryNames, ih, files_item]
      rfl
  | directory name below d ihBelow ih =>
      rw [namesBelow, entryNames, ihBelow, ih, files_directory, List.map_append, List.map_map]
      rfl

/-- The listed names are those that lead to the items, with slashes between them, in order. -/
theorem names_eq_of_filled {d : Directory α}
    (filled : ∀ file ∈ files d, ∀ name ∈ file.1, name ≠ "") :
    names d =
      ((files d).map fun file => Path.slashed file.1).mergeSort fun a b => decide (a ≤ b) := by
  have slashed : namesBelow "" d = (files d).map fun file => Path.slashed file.1 := by
    rw [namesBelow_eq]
    exact List.map_congr_left fun file member => foldl_fullName_empty (filled file member)
  rw [names, slashed]

theorem wellNamed_perm {d e : Directory α} (same : d.Perm e) (well : WellNamed d) :
    WellNamed e := by
  induction same with
  | nil => exact well
  | cons entry rest ih =>
      obtain ⟨name, entry⟩ := entry
      obtain ⟨ordinary, fresh, inside, well⟩ := well
      exact ⟨ordinary, (rest.map Prod.fst).mem_iff.not.mp fresh, inside, ih well⟩
  | swap first second rest =>
      obtain ⟨name, entry⟩ := first
      obtain ⟨other, entry'⟩ := second
      obtain ⟨ordinary, fresh, inside, ordinary', fresh', inside', well⟩ := well
      rw [List.map_cons, List.mem_cons, not_or] at fresh
      refine ⟨ordinary', ?_, inside', ordinary, fresh.2, inside, well⟩
      rw [List.map_cons, List.mem_cons, not_or]
      exact ⟨Ne.symm fresh.1, fresh'⟩
  | trans _ _ first second => exact second (first well)

/-! ## New entries -/

section Insert

variable {d : Directory α} {name : String} {entry : Entry α}

theorem files_insert (fresh : name ∉ d.map Prod.fst) :
    (files (d.insert name entry)).Perm (files ((name, entry) :: d)) := by
  rw [insert_eq]
  exact files_perm (Keyed.insert_perm fresh)

theorem directories_insert (fresh : name ∉ d.map Prod.fst) :
    (directories (d.insert name entry)).Perm (directories ((name, entry) :: d)) := by
  rw [insert_eq]
  exact directories_perm (Keyed.insert_perm fresh)

theorem wellNamed_insert (ordinary : Path.IsName name) (fresh : name ∉ d.map Prod.fst)
    (inside : WellNamedEntry entry) (well : WellNamed d) : WellNamed (d.insert name entry) := by
  rw [insert_eq]
  exact wellNamed_perm (Keyed.insert_perm fresh).symm ⟨ordinary, fresh, inside, well⟩

/-- Where a name is there already, nothing is inserted. -/
theorem insertAbsent_cases (name : String) (entry : Entry α) (d : Directory α) :
    (name ∈ d.map Prod.fst ∧ d.insertAbsent name entry = d) ∨
      name ∉ d.map Prod.fst ∧ (d.insertAbsent name entry).Perm ((name, entry) :: d) := by
  have known : (d.get? name).isSome ↔ name ∈ d.map Prod.fst := by
    rw [get?, List.lookup_isSome_iff, List.mem_map]
    exact exists_congr fun e => and_congr_right fun _ => beq_iff_eq.trans eq_comm
  rw [insertAbsent]
  split
  · next there => exact .inl ⟨known.mp there, rfl⟩
  · next absent =>
      have fresh := known.not.mp absent
      rw [insert_eq]
      exact .inr ⟨fresh, Keyed.insert_perm fresh⟩

theorem mem_keys_of_mem_keys_insertAbsent {other : String}
    (member : other ∈ (d.insertAbsent name entry).map Prod.fst) :
    other = name ∨ other ∈ d.map Prod.fst := by
  rcases insertAbsent_cases name entry d with ⟨-, same⟩ | ⟨-, new⟩
  · exact .inr (same ▸ member)
  · exact List.mem_cons.mp ((new.map Prod.fst).mem_iff.mp member)

theorem wellNamed_insertAbsent (ordinary : Path.IsName name) (inside : WellNamedEntry entry)
    (well : WellNamed d) : WellNamed (d.insertAbsent name entry) := by
  rcases insertAbsent_cases name entry d with ⟨-, same⟩ | ⟨fresh, new⟩
  · rwa [same]
  · exact wellNamed_perm new.symm ⟨ordinary, fresh, inside, well⟩

theorem files_insertAbsent_subperm (name : String) (entry : Entry α) (d : Directory α) :
    (files (d.insertAbsent name entry)).Subperm (files ((name, entry) :: d)) := by
  rcases insertAbsent_cases name entry d with ⟨-, same⟩ | ⟨-, new⟩
  · rw [same, files]
    exact (List.sublist_append_right _ _).subperm
  · exact (files_perm new).subperm

theorem directories_insertAbsent_subperm (name : String) (entry : Entry α) (d : Directory α) :
    (directories (d.insertAbsent name entry)).Subperm (directories ((name, entry) :: d)) := by
  rcases insertAbsent_cases name entry d with ⟨-, same⟩ | ⟨-, new⟩
  · rw [same, directories]
    exact (List.sublist_append_right _ _).subperm
  · exact (directories_perm new).subperm

theorem files_subset_insertAbsent (name : String) (entry : Entry α) (d : Directory α) :
    files d ⊆ files (d.insertAbsent name entry) := by
  rcases insertAbsent_cases name entry d with ⟨-, same⟩ | ⟨-, new⟩
  · rw [same]
    exact List.Subset.refl _
  · rw [(files_perm new).subset_congr_right, files]
    exact List.subset_append_right _ _

theorem directories_subset_insertAbsent (name : String) (entry : Entry α) (d : Directory α) :
    directories d ⊆ directories (d.insertAbsent name entry) := by
  rcases insertAbsent_cases name entry d with ⟨-, same⟩ | ⟨-, new⟩
  · rw [same]
    exact List.Subset.refl _
  · rw [(directories_perm new).subset_congr_right, directories]
    exact List.subset_append_right _ _

theorem insertAbsent_perm (fresh : name ∉ d.map Prod.fst) :
    (d.insertAbsent name entry).Perm ((name, entry) :: d) := by
  rcases insertAbsent_cases name entry d with ⟨there, -⟩ | ⟨-, new⟩
  · exact absurd there fresh
  · exact new

end Insert

/-! ## Sifting -/

namespace Fate

def kept? : Fate β ε → Option β
  | kept b => some b
  | _ => none

def rejected? : Fate β ε → Option ε
  | rejected reason => some reason
  | _ => none

end Fate

section Sift

variable {fate : String → α → Fate β ε} {base : String}

theorem sift_item (name : String) (a : α) (d : Directory α) :
    sift fate base ((name, .item a) :: d) =
      ⟨match (fate (Path.join base name) a).kept? with
        | some b => (sift fate base d).kept.insert name (.item b)
        | none => (sift fate base d).kept,
        (fate (Path.join base name) a).rejected?.toList ++ (sift fate base d).rejected⟩ := by
  rw [sift, siftEntry]
  cases fate (Path.join base name) a <;> rfl

theorem sift_directory (name : String) (below d : Directory α) :
    sift fate base ((name, .directory below) :: d) =
      ⟨(sift fate base d).kept.insert name
          (.directory (sift fate (Path.join base name) below).kept),
        (sift fate (Path.join base name) below).rejected ++ (sift fate base d).rejected⟩ := by
  rw [sift, siftEntry]

theorem mem_keys_of_mem_keys_sift {d : Directory α} {name : String}
    (member : name ∈ (sift fate base d).kept.map Prod.fst) : name ∈ d.map Prod.fst := by
  induction d using inductionOn generalizing base with
  | nil => cases member
  | item other a d ih =>
      rw [sift_item] at member
      rw [List.map_cons, List.mem_cons]
      split at member
      · rw [insert_eq, Keyed.mem_keys_insert] at member
        exact member.imp_right ih
      · exact .inr (ih member)
  | directory other below d _ ih =>
      rw [sift_directory, insert_eq, Keyed.mem_keys_insert] at member
      rw [List.map_cons, List.mem_cons]
      exact member.imp_right ih

theorem not_mem_keys_sift {d : Directory α} {name : String} (fresh : name ∉ d.map Prod.fst) :
    name ∉ (sift fate base d).kept.map Prod.fst :=
  fun member => fresh (mem_keys_of_mem_keys_sift member)

/-- What is kept of a well-named directory is well-named. -/
theorem WellNamed.sift {d : Directory α} (well : WellNamed d) :
    WellNamed (Directory.sift fate base d).kept := by
  induction d using inductionOn generalizing base with
  | nil => trivial
  | item name a d ih =>
      obtain ⟨ordinary, fresh, -, rest⟩ := well
      rw [sift_item]
      dsimp only
      split
      · exact wellNamed_insert ordinary (not_mem_keys_sift fresh) trivial (ih rest)
      · exact ih rest
  | directory name below d ihBelow ih =>
      obtain ⟨ordinary, fresh, inside, rest⟩ := well
      rw [sift_directory]
      exact wellNamed_insert ordinary (not_mem_keys_sift fresh) (ihBelow inside) (ih rest)

/-- What is kept are the items with that fate, each under the names that it had. -/
theorem WellNamed.files_sift {d : Directory α} (well : WellNamed d) :
    (files (Directory.sift fate base d).kept).Perm
      ((files d).filterMap fun file =>
        (fate (file.1.foldl Path.join base) file.2).kept?.map fun b => (file.1, b)) := by
  induction d using inductionOn generalizing base with
  | nil => exact .nil
  | item name a d ih =>
      obtain ⟨-, fresh, -, rest⟩ := well
      rw [sift_item, files_item, List.filterMap_cons]
      simp only [List.foldl_cons, List.foldl_nil]
      cases (fate (Path.join base name) a).kept? with
      | some b =>
          refine (files_insert (not_mem_keys_sift fresh)).trans ?_
          rw [files_item]
          exact (ih rest).cons _
      | none => exact ih rest
  | directory name below d ihBelow ih =>
      obtain ⟨-, fresh, inside, rest⟩ := well
      rw [sift_directory, files_directory, List.filterMap_append]
      refine (files_insert (not_mem_keys_sift fresh)).trans ?_
      rw [files_directory]
      refine .append (((ihBelow inside).map _).trans (.of_eq ?_)) (ih rest)
      rw [List.map_filterMap, List.filterMap_map]
      exact List.filterMap_congr fun file _ => by simp [Function.comp_def]

/-- Directories are kept, also those in which nothing else is. -/
theorem WellNamed.directories_sift {d : Directory α} (well : WellNamed d) :
    (directories (Directory.sift fate base d).kept).Perm (directories d) := by
  induction d using inductionOn generalizing base with
  | nil => exact .nil
  | item name a d ih =>
      obtain ⟨-, fresh, -, rest⟩ := well
      rw [sift_item, directories_item]
      dsimp only
      split
      · refine (directories_insert (not_mem_keys_sift fresh)).trans ?_
        rw [directories_item]
        exact ih rest
      · exact ih rest
  | directory name below d ihBelow ih =>
      obtain ⟨-, fresh, inside, rest⟩ := well
      rw [sift_directory, directories_directory]
      refine (directories_insert (not_mem_keys_sift fresh)).trans ?_
      rw [directories_directory]
      exact .append (((ihBelow inside).map _).cons _) (ih rest)

/-- The reasons are those of the rejected items, in order. -/
theorem rejected_sift (d : Directory α) :
    (sift fate base d).rejected =
      (files d).filterMap fun file => (fate (file.1.foldl Path.join base) file.2).rejected? := by
  induction d using inductionOn generalizing base with
  | nil => rfl
  | item name a d ih =>
      rw [sift_item, files_item, List.filterMap_cons, ih]
      simp only [List.foldl_cons, List.foldl_nil]
      cases (fate (Path.join base name) a).rejected? <;> rfl
  | directory name below d ihBelow ih =>
      rw [sift_directory, files_directory, List.filterMap_append, List.filterMap_map, ihBelow, ih]
      rfl

end Sift

end Harvest.Directory
