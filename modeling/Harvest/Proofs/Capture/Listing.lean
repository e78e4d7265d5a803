import Mathlib
import Harvest.Proofs.Capture.History

/-!
# What a tidy archive answers

The list of a tidy archive never fails.  It names the pages that the archive holds, each once and in
order, so it is determined by them.
-/

namespace Harvest.Archive

variable {u v w : String} {a b : Archive} {name : String} {bytes : Bytes}

/-! ## The address of the page in a file -/

theorem Holds.usable (held : a.Holds u) (flat : a.folder.Flat) : u ∉ ["", ".", ".."] := by
  obtain ⟨body, stands⟩ := held.page
  rw [← usable_fileName_iff]
  by_contra reserved
  rw [flat.find_of_not_usable reserved] at stands
  cases stands

theorem endsWith_iff : name.endsWith ".url" = true ↔ ".url".toList <:+ name.toList := by
  rw [String.endsWith, String.Slice.endsWith_string_iff, String.copy_toSlice]

theorem addressOf_of_holds (flat : a.folder.Flat) (held : a.Holds u) :
    addressOf (fileName u) a.folder = .ok (some u) := by
  rw [addressOf]
  by_cases long : Long u
  · have hashed : isHashed (fileName u) = true := isHashed_fileName.mpr long
    have page : (fileName u).endsWith ".url" = false := by
      refine eq_false_of_ne_true fun ending => not_mem_toList_fileName long ?_
      exact (endsWith_iff.mp ending).subset (by decide)
    simp only [hashed, page, held.address long, Bytes.text?_ofString, Bool.not_true,
      Bool.false_eq_true, if_false]
  · have plain : isHashed (fileName u) = false :=
      eq_false_of_ne_true (isHashed_fileName.not.mpr long)
    have filled : u ≠ "" := fun empty => held.usable flat (empty ▸ .head _)
    rw [plain, fileName_of_short long, FormEncoding.firstName?_encode filled]
    rfl

theorem addressOf_addressName (long : Long u) :
    addressOf (addressName (fileName u)) a.folder = .ok none := by
  have ending : (addressName (fileName u)).endsWith ".url" = true := by
    rw [endsWith_iff, addressName, String.toList_append]
    exact List.suffix_append _ _
  rw [addressOf]
  simp only [isHashed_addressName long, ending, Bool.not_true, Bool.false_eq_true, if_false, if_true]

/-- The address of the page in a file, if there is one and the file can tell. -/
def address? (a : Archive) (name : String) : Option String :=
  match addressOf name a.folder with
  | .ok url? => url?
  | .error _ => none

/-- Each file of a tidy archive can tell whether it is that of a page. -/
theorem Tidy.addressOf (tidy : a.Tidy) (stands : a.folder.find name = .file bytes) :
    Archive.addressOf name a.folder = .ok (a.address? name) := by
  rw [address?]
  obtain ⟨u, held, rfl | ⟨long, rfl⟩⟩ := tidy.owned name bytes stands
  · rw [addressOf_of_holds tidy.flat held]
  · rw [addressOf_addressName long]

/-- A file of a tidy archive tells the address of the page that it is the file of. -/
theorem Tidy.address?_eq_some_iff (tidy : a.Tidy) (stands : a.folder.find name = .file bytes) :
    a.address? name = some w ↔ a.Holds w ∧ fileName w = name := by
  obtain ⟨u, held, rfl | ⟨long, rfl⟩⟩ := tidy.owned name bytes stands
  · have answer := addressOf_of_holds tidy.flat held
    rw [address?, answer]
    constructor
    · rintro ⟨⟩
      exact ⟨held, rfl⟩
    · rintro ⟨heldW, same⟩
      rw [← same, addressOf_of_holds tidy.flat heldW] at answer
      exact (Except.ok.inj answer).symm
  · rw [address?, addressOf_addressName long]
    refine ⟨nofun, ?_⟩
    rintro ⟨-, same⟩
    exact absurd same (fileName_ne_addressName long)

/-! ## The list -/

theorem addresses_eq {entries : Directory Bytes}
    (known : ∀ entry ∈ entries, (∃ bytes, entry.2 = .item bytes) ∧
      addressOf entry.1 a.folder = .ok (a.address? entry.1)) :
    addresses a.folder entries = .ok ((entries.map Prod.fst).filterMap a.address?) := by
  induction entries with
  | nil => rfl
  | cons entry entries ih =>
      obtain ⟨⟨⟨bytes, item⟩, answer⟩, later⟩ := List.forall_mem_cons.mp known
      obtain ⟨name, entry⟩ := entry
      obtain rfl : entry = .item bytes := item
      rw [addresses, answer, ih later, List.map_cons]
      cases found : a.address? name with
      | none => simp [found, bind, Except.bind, pure, Except.pure]
      | some url => simp [found, bind, Except.bind, pure, Except.pure]

/-- The names of the files in a tidy archive, and what their addresses are. -/
theorem Tidy.addresses (tidy : a.Tidy) :
    ∃ (d : Directory Bytes) (names : List String), a.folder.contents? = some d ∧
      Archive.addresses a.folder d = .ok (names.filterMap a.address?) ∧
      names.Pairwise (· < ·) ∧ ∀ name, name ∈ names ↔ ∃ bytes, a.folder.find name = .file bytes := by
  obtain ⟨d, contents, sorted, files⟩ := tidy.flat
  have stands {name : String} {bytes : Bytes} :
      (name, .item bytes) ∈ d ↔ a.folder.find name = .file bytes :=
    Folder.mem_iff_find_eq_file contents sorted files
  refine ⟨d, d.map Prod.fst, contents, addresses_eq fun entry member => ?_, sorted, fun name => ?_⟩
  · obtain ⟨name, entry⟩ := entry
    obtain ⟨bytes, rfl⟩ := (files _ member).2
    exact ⟨⟨bytes, rfl⟩, tidy.addressOf (stands.mp member)⟩
  · constructor
    · intro member
      obtain ⟨⟨_, entry⟩, here, rfl⟩ := List.mem_map.mp member
      obtain ⟨bytes, rfl⟩ := (files _ here).2
      exact ⟨bytes, stands.mp here⟩
    · rintro ⟨bytes, found⟩
      exact List.mem_map_of_mem (stands.mpr found)

section

variable {names : List String}
  (files : ∀ name, name ∈ names ↔ ∃ bytes, a.folder.find name = .file bytes)

include files

theorem Tidy.mem_filterMap_address? (tidy : a.Tidy) :
    w ∈ names.filterMap a.address? ↔ a.Holds w := by
  rw [List.mem_filterMap]
  constructor
  · rintro ⟨name, member, found⟩
    obtain ⟨bytes, stands⟩ := (files name).mp member
    exact ((tidy.address?_eq_some_iff stands).mp found).1
  · intro held
    obtain ⟨body, stands⟩ := held.page
    exact ⟨fileName w, (files _).mpr ⟨body, stands⟩,
      (tidy.address?_eq_some_iff stands).mpr ⟨held, rfl⟩⟩

/-- No two files are those of pages with one address, because the address determines the name. -/
theorem Tidy.nodup_filterMap_address? (tidy : a.Tidy) (sorted : names.Pairwise (· < ·)) :
    (names.filterMap a.address?).Nodup := by
  refine List.pairwise_filterMap.mpr (sorted.imp_of_mem fun member memberOther before => ?_)
  rintro u foundU v foundV rfl
  obtain ⟨bytes, stands⟩ := (files _).mp member
  obtain ⟨other, standsOther⟩ := (files _).mp memberOther
  have name := ((tidy.address?_eq_some_iff stands).mp foundU).2
  have nameOther := ((tidy.address?_eq_some_iff standsOther).mp foundV).2
  exact before.ne (name.symm.trans nameOther)

end

/-- The list of a tidy archive names the pages that it holds, each once and in order. -/
theorem Tidy.list (tidy : a.Tidy) :
    ∃ urls, a.list = .ok urls ∧ urls.Pairwise (· < ·) ∧ ∀ w, w ∈ urls ↔ a.Holds w := by
  obtain ⟨d, names, contents, listed, sorted, files⟩ := tidy.addresses
  refine ⟨(names.filterMap a.address?).mergeSort fun u v => decide (u ≤ v), ?_,
    Keyed.pairwise_mergeSort (tidy.nodup_filterMap_address? files sorted), fun w => ?_⟩
  · rw [Archive.list, contents]
    simp only [listed, bind, Except.bind, pure, Except.pure]
  · rw [List.mem_mergeSort, tidy.mem_filterMap_address? files]

end Harvest.Archive
