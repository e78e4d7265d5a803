import Mathlib
import Harvest.Catalog.Loading
import Harvest.Proofs.Stored

/-!
# Reading what is seen

Reading the definitions in a directory decides on each item that is seen there: a file is read, and
a directory that cannot be listed is rejected.  Besides, each entry that is lost is reported with the
path of the directory in whose listing it was.  Of two entries under one name only one can be kept,
so nothing is kept twice, and what has no rival is kept.
-/

namespace Harvest.Sources

open Directory (Fate Named WellNamed Sole files directories)
open Stored (Contents seen seenEntry losses lossesOf)

/-- What becomes of an item that is seen at a path. -/
def readContents (path : String) : Contents → Fate Definition LoadError
  | .file bytes? => readFile path bytes?
  | .locked => .rejected (.unreadable path)

section Read

variable {path : String} {s : Stored} {entries : List Stored} {contents : Contents}

theorem readEntry_of_lost (lost : seenEntry s = none) :
    readEntry path s = (none, [.unreadable path]) := by
  cases s with
  | file name access bytes =>
      cases access with
      | lost => rfl
      | _ => cases lost
  | directory name access entries =>
      cases access with
      | lost => rfl
      | _ => cases lost

theorem readEntry_of_item (known : seenEntry s = some (.item contents)) :
    readEntry path s = (readContents (Path.join path s.shown) contents).outcome := by
  cases s with
  | file name access bytes =>
      cases access with
      | lost => cases known
      | _ => cases known; rfl
  | directory name access entries =>
      cases access with
      | free => cases known
      | lost => cases known
      | _ => cases known; rfl

theorem read_cons_of_lost (lost : seenEntry s = none) :
    read path (s :: entries) =
      ⟨(read path entries).kept, .unreadable path :: (read path entries).rejected⟩ := by
  rw [read, readEntry_of_lost lost]
  rfl

theorem read_cons_of_item (known : seenEntry s = some (.item contents)) :
    read path (s :: entries) =
      ⟨match (readContents (Path.join path s.shown) contents).kept? with
        | some d => (read path entries).kept.insertAbsent s.shown (.item d)
        | none => (read path entries).kept,
        (readContents (Path.join path s.shown) contents).rejected?.toList ++
          (read path entries).rejected⟩ := by
  rw [read, readEntry_of_item known]
  cases readContents (Path.join path s.shown) contents <;> rfl

theorem read_directory (name : Bytes) (below entries : List Stored) :
    read path (.directory name .free below :: entries) =
      ⟨(read path entries).kept.insertAbsent (Utf8.lossy name)
          (.directory (read (Path.join path (Utf8.lossy name)) below).kept),
        (read (Path.join path (Utf8.lossy name)) below).rejected ++
          (read path entries).rejected⟩ := by
  rw [read, readEntry, Stored.shown]

/-! ## What is kept -/

theorem mem_keys_of_mem_keys_read {name : String}
    (member : name ∈ (read path entries).kept.map Prod.fst) :
    name ∈ (seen entries).map Prod.fst := by
  induction entries using Stored.inductionOn with
  | nil => cases member
  | lost s entries lost _ ih =>
      rw [read_cons_of_lost lost] at member
      rw [Stored.seen_cons_of_lost lost]
      exact ih member
  | item s contents entries known _ ih =>
      rw [read_cons_of_item known] at member
      rw [Stored.seen_cons known, List.map_cons, List.mem_cons]
      dsimp only at member
      split at member
      · exact (Directory.mem_keys_of_mem_keys_insertAbsent member).imp_right ih
      · exact .inr (ih member)
  | directory name below entries _ ih =>
      rw [read_directory] at member
      rw [Stored.seen_directory, List.map_cons, List.mem_cons]
      exact (Directory.mem_keys_of_mem_keys_insertAbsent member).imp_right ih

/-- Nothing has been kept under a name without a rival when its entry is read. -/
theorem insertAbsent_read_perm {name : String} {rest : List String} {e : Entry Contents}
    (sole : Sole (name :: rest) ((name, e) :: seen entries)) (path : String)
    (entry : Entry Definition) :
    ((read path entries).kept.insertAbsent name entry).Perm
      ((name, entry) :: (read path entries).kept) :=
  Directory.insertAbsent_perm (mt mem_keys_of_mem_keys_read sole.fresh)

/-- Whatever is read, no two definitions have one name. -/
theorem wellNamed_read (named : Named (seen entries)) : WellNamed (read path entries).kept := by
  induction entries using Stored.inductionOn generalizing path with
  | nil => trivial
  | lost s entries lost _ ih =>
      rw [Stored.seen_cons_of_lost lost] at named
      rw [read_cons_of_lost lost]
      exact ih named
  | item s contents entries known _ ih =>
      rw [Stored.seen_cons known] at named
      obtain ⟨ordinary, -, rest⟩ := named
      rw [read_cons_of_item known]
      dsimp only
      split
      · exact Directory.wellNamed_insertAbsent ordinary trivial (ih rest)
      · exact ih rest
  | directory name below entries ihBelow ih =>
      rw [Stored.seen_directory] at named
      obtain ⟨ordinary, inside, rest⟩ := named
      rw [read_directory]
      exact Directory.wellNamed_insertAbsent ordinary (ihBelow inside) (ih rest)

/-- No definition is kept but of a file that is seen, and this once for each. -/
theorem files_read_subperm (path : String) (entries : List Stored) :
    (files (read path entries).kept).Subperm
      ((files (seen entries)).filterMap fun file =>
        (readContents (file.1.foldl Path.join path) file.2).kept?.map fun d => (file.1, d)) := by
  induction entries using Stored.inductionOn generalizing path with
  | nil => exact .refl _
  | lost s entries lost _ ih =>
      rw [Stored.seen_cons_of_lost lost, read_cons_of_lost lost]
      exact ih path
  | item s contents entries known _ ih =>
      rw [Stored.seen_cons known, read_cons_of_item known, Directory.files_item,
        List.filterMap_cons]
      simp only [List.foldl_cons, List.foldl_nil]
      cases (readContents (Path.join path s.shown) contents).kept? with
      | none => exact ih path
      | some d =>
          refine (Directory.files_insertAbsent_subperm _ _ _).trans ?_
          rw [Directory.files_item]
          exact (List.subperm_cons _).mpr (ih path)
  | directory name below entries ihBelow ih =>
      rw [Stored.seen_directory, read_directory, Directory.files_directory, List.filterMap_append]
      refine (Directory.files_insertAbsent_subperm _ _ _).trans ?_
      rw [Directory.files_directory, List.filterMap_map]
      refine .append ?_ (ih path)
      refine (List.Subperm.map ?injective (ihBelow _)).trans (List.Perm.of_eq ?_).subperm
      case injective => exact fun file other same => by simpa [Prod.ext_iff] using same
      rw [List.map_filterMap]
      exact List.filterMap_congr fun file _ => by simp [Function.comp_def]

/-- The definition in a file is kept unless there is another entry under one of its names. -/
theorem mem_files_read {names : List String} (sole : Sole names (seen entries)) {d : Definition}
    (member : (names, contents) ∈ files (seen entries))
    (kept : (readContents (names.foldl Path.join path) contents).kept? = some d) :
    (names, d) ∈ files (read path entries).kept := by
  induction entries using Stored.inductionOn generalizing path names with
  | nil => cases member
  | lost s entries lost _ ih =>
      rw [Stored.seen_cons_of_lost lost] at member sole
      rw [read_cons_of_lost lost]
      exact ih sole member kept
  | item s other entries known _ ih =>
      rw [Stored.seen_cons known] at member sole
      rw [Directory.files_item, List.mem_cons] at member
      rw [read_cons_of_item known]
      dsimp only
      rcases member with here | later
      · cases here
        rw [List.foldl_cons, List.foldl_nil] at kept
        rw [kept]
        rw [(Directory.files_perm (insertAbsent_read_perm sole path _)).mem_iff,
          Directory.files_item]
        exact .head _
      · have rest := ih sole.of_cons later kept
        split
        · exact Directory.files_subset_insertAbsent _ _ _ rest
        · exact rest
  | directory name below entries ihBelow ih =>
      rw [Stored.seen_directory] at member sole
      rw [Directory.files_directory, List.mem_append] at member
      rw [read_directory]
      rcases member with inside | later
      · obtain ⟨⟨rest, _⟩, deeper, same⟩ := List.mem_map.mp inside
        cases same
        rw [(Directory.files_perm (insertAbsent_read_perm sole path _)).mem_iff,
          Directory.files_directory, List.mem_append]
        exact .inl (List.mem_map.mpr
          ⟨_, ihBelow (sole.2 _ (.head _)) deeper kept, rfl⟩)
      · exact Directory.files_subset_insertAbsent _ _ _ (ih sole.of_cons later kept)

/-- No directory is kept but one that is seen, and this once for each. -/
theorem directories_read_subperm (path : String) (entries : List Stored) :
    (directories (read path entries).kept).Subperm (directories (seen entries)) := by
  induction entries using Stored.inductionOn generalizing path with
  | nil => exact .refl _
  | lost s entries lost _ ih =>
      rw [Stored.seen_cons_of_lost lost, read_cons_of_lost lost]
      exact ih path
  | item s contents entries known _ ih =>
      rw [Stored.seen_cons known, read_cons_of_item known, Directory.directories_item]
      dsimp only
      split
      · refine (Directory.directories_insertAbsent_subperm _ _ _).trans ?_
        rw [Directory.directories_item]
        exact ih path
      · exact ih path
  | directory name below entries ihBelow ih =>
      rw [Stored.seen_directory, read_directory, Directory.directories_directory]
      refine (Directory.directories_insertAbsent_subperm _ _ _).trans ?_
      rw [Directory.directories_directory]
      exact .append ((List.subperm_cons _).mpr ((ihBelow _).map List.cons_injective)) (ih path)

/-- A directory is kept, even if nothing in it is, unless there is another entry under one of its
names. -/
theorem mem_directories_read {names : List String} (sole : Sole names (seen entries))
    (member : names ∈ directories (seen entries)) :
    names ∈ directories (read path entries).kept := by
  induction entries using Stored.inductionOn generalizing path names with
  | nil => cases member
  | lost s entries lost _ ih =>
      rw [Stored.seen_cons_of_lost lost] at member sole
      rw [read_cons_of_lost lost]
      exact ih sole member
  | item s contents entries known _ ih =>
      rw [Stored.seen_cons known] at member sole
      rw [Directory.directories_item] at member
      rw [read_cons_of_item known]
      have rest : names ∈ directories (read path entries).kept := ih sole.of_cons member
      dsimp only
      split
      · exact Directory.directories_subset_insertAbsent _ _ _ rest
      · exact rest
  | directory name below entries ihBelow ih =>
      rw [Stored.seen_directory] at member sole
      rw [Directory.directories_directory, List.mem_append, List.mem_cons] at member
      rw [read_directory]
      rcases member with (rfl | inside) | later
      · rw [(Directory.directories_perm (insertAbsent_read_perm sole path _)).mem_iff,
          Directory.directories_directory]
        exact .head _
      · obtain ⟨rest, deeper, rfl⟩ := List.mem_map.mp inside
        rw [(Directory.directories_perm (insertAbsent_read_perm sole path _)).mem_iff,
          Directory.directories_directory]
        exact List.mem_append_left _ (.tail _
          (List.mem_map_of_mem (ihBelow (sole.2 _ (.head _)) deeper)))
      · exact Directory.directories_subset_insertAbsent _ _ _ (ih sole.of_cons later)

/-! ## What is reported -/

/-- What is reported are the reasons for which something seen is rejected, and the directories where
something is lost. -/
theorem rejected_read (path : String) (entries : List Stored) :
    (read path entries).rejected.Perm
      (((files (seen entries)).filterMap fun file =>
          (readContents (file.1.foldl Path.join path) file.2).rejected?) ++
        (losses entries).map fun names => .unreadable (names.foldl Path.join path)) := by
  induction entries using Stored.inductionOn generalizing path with
  | nil => exact .nil
  | lost s entries lost loss ih =>
      rw [Stored.seen_cons_of_lost lost, read_cons_of_lost lost, losses, loss,
        List.singleton_append, List.map_cons]
      exact ((ih path).cons _).trans List.perm_middle.symm
  | item s contents entries known none ih =>
      rw [Stored.seen_cons known, read_cons_of_item known, Directory.files_item,
        List.filterMap_cons, losses, none, List.nil_append]
      simp only [List.foldl_cons, List.foldl_nil]
      cases (readContents (Path.join path s.shown) contents).rejected? with
      | none => exact ih path
      | some reason => exact (ih path).cons _
  | directory name below entries ihBelow ih =>
      rw [Stored.seen_directory, read_directory, Directory.files_directory, List.filterMap_append,
        List.filterMap_map, losses, lossesOf, List.map_append, List.map_map, List.append_assoc,
        ← List.append_assoc _ (List.map _ _)]
      refine ((ihBelow _).append (ih path)).trans ?_
      rw [List.append_assoc]
      refine .append_left _ ?_
      rw [← List.append_assoc]
      exact List.perm_append_comm.append_right _

end Read

end Harvest.Sources
