import Mathlib
import Harvest.Proofs.Catalog.Application

/-!
# The list of a catalog

A directory is listed by joining names with slashes, and looked into by splitting at them.  If no
name is empty or has a slash, the one undoes the other: exactly the names in the list lead to
something, each to an item of its own.
-/

namespace Harvest.Directory

variable {α : Type} {d : Directory α} {s : String}

/-- A name leads to an item if and only if it is in the list. -/
theorem Parted.mem_names_iff (parted : Parted d) (distinct : Distinct d) :
    s ∈ d.names ↔ ∃ a, d.item? s = some a := by
  rw [(parted.names distinct).1.mem_iff, List.mem_map]
  constructor
  · rintro ⟨file, member, rfl⟩
    refine ⟨file.2, ?_⟩
    rw [item?, parted.splitAt_slashed member]
    exact distinct.mem_files_iff.mp member
  · rintro ⟨a, reached⟩
    exact ⟨(Text.splitAt '/' s, a), distinct.mem_files_iff.mpr reached, Path.slashed_splitAt s⟩

end Harvest.Directory

namespace Harvest.Catalog

open Directory

/-- The list of a catalog is in strictly increasing order, a text is in it if and only if it leads
to an extractor, and each extractor has a place of its own in it: its names with slashes between
them, which are those of no other. -/
theorem names_exact (c : Catalog) (distinct : Distinct c) (parted : Parted c) :
    c.names.Pairwise (· < ·) ∧
    (∀ s, s ∈ c.names ↔ ∃ e, c.extractor? s = some e) ∧
    ∀ file ∈ files c,
      Path.slashed file.1 ∈ c.names ∧ c.extractor? (Path.slashed file.1) = some file.2 ∧
      ∀ other ∈ files c, Path.slashed other.1 = Path.slashed file.1 → other = file := by
  refine ⟨(parted.names distinct).2, fun s => parted.mem_names_iff distinct, ?_⟩
  intro file member
  have reached : c.extractor? (Path.slashed file.1) = some file.2 := by
    rw [extractor?, item?, parted.splitAt_slashed member]
    exact distinct.mem_files_iff.mp member
  refine ⟨(parted.mem_names_iff distinct).mpr ⟨file.2, reached⟩, reached, ?_⟩
  intro other member' same
  exact parted.eq_of_slashed distinct member' member same

/-- Extractors in directories that are not in order, one of which is empty and one of which has an
extractor with the name of a directory. -/
def unorderedCatalog : Catalog :=
  [("shop", .directory [("..", .item (textExtractor "Price" "p")),
      ("old", .directory [("shop", .item (textExtractor "Name" "h"))]), ("none", .directory [])]),
    ("a.xml", .item (textExtractor "Heading" "h"))]

theorem names_exact_unordered :
    Distinct unorderedCatalog ∧ Parted unorderedCatalog ∧
    unorderedCatalog.names.Pairwise (· < ·) ∧
    "shop/old/shop" ∈ unorderedCatalog.names ∧
    unorderedCatalog.extractor? "shop/old/shop" = some (textExtractor "Name" "h") ∧
    ∀ s ∈ ["", "shop", "shop/", "shop//old", "shop/none", "a.xml/"], s ∉ unorderedCatalog.names := by
  have distinct : Distinct unorderedCatalog := by
    simp only [unorderedCatalog, Distinct, DistinctEntry]
    decide
  have parted : Parted unorderedCatalog := by
    simp only [Parted, unorderedCatalog, files, filesOf]
    decide
  obtain ⟨increasing, resolved, placed⟩ := names_exact unorderedCatalog distinct parted
  obtain ⟨listed, reached, -⟩ := placed (["shop", "old", "shop"], textExtractor "Name" "h")
    (by simp [unorderedCatalog, files, filesOf])
  refine ⟨distinct, parted, increasing, listed, reached, ?_⟩
  intro s member
  rw [resolved]
  rintro ⟨e, found⟩
  simp only [List.mem_cons, List.not_mem_nil, or_false] at member
  rcases member with rfl | rfl | rfl | rfl | rfl | rfl <;> cases found

end Harvest.Catalog
