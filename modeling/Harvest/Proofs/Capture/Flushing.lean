import Mathlib
import Harvest.Proofs.Capture.Listing

/-!
# Flushing an archive

Flushing removes the pages in the list one after the other.  A page may be gone when its turn comes,
because it went with an earlier one; but only its name could make the removal fail, and pages in an
archive have usable names.  In the end the archive holds none of its pages, so there is no file left
that one of them could own.
-/

namespace Harvest.Archive

variable {u w : String} {a : Archive} {urls : List String}

/-- Pages with usable names are all removed, and with each of them those that have one of its two
names. -/
theorem Tidy.removeEach_of_usable (tidy : a.Tidy)
    (usable : ∀ u ∈ urls, Folder.Usable (fileName u)) :
    ∃ b, Archive.removeEach urls a = (b, .ok ()) ∧ b.Tidy ∧
      ∀ w, b.Holds w ↔ a.Holds w ∧
        ∀ u ∈ urls, fileName w ≠ fileName u ∧ fileName w ≠ addressName (fileName u) := by
  induction urls generalizing a with
  | nil => exact ⟨a, rfl, tidy, fun w => by simp⟩
  | cons u urls ih =>
      obtain ⟨here, later⟩ := List.forall_mem_cons.mp usable
      obtain ⟨b, done, removed⟩ := remove_of_usable tidy.flat here
      obtain ⟨c, rest, tidyC, holdsC⟩ := ih (removed.tidy tidy) later
      refine ⟨c, ?_, tidyC, fun w => ?_⟩
      · rw [Archive.removeEach, done]
        exact rest
      · rw [holdsC, removed.holds_iff, List.forall_mem_cons, and_assoc]

/-- Each file of a tidy archive belongs to a page, so there is none without pages. -/
theorem Tidy.eq_empty (tidy : a.Tidy) (none : ∀ w, ¬a.Holds w) : a = {} := by
  obtain ⟨d, contents, sorted, files⟩ := tidy.flat
  have nothing : d = [] := by
    refine List.eq_nil_iff_forall_not_mem.mpr fun entry member => ?_
    obtain ⟨name, entry⟩ := entry
    obtain ⟨bytes, rfl⟩ := (files _ member).2
    have stands := (Folder.mem_iff_find_eq_file contents sorted files).mp member
    obtain ⟨u, held, -⟩ := tidy.owned name bytes stands
    exact none u held
  subst nothing
  obtain ⟨⟨found⟩⟩ := a
  obtain rfl : found = some [] := contents
  rfl

/-- Flushing a tidy archive removes all of its pages and counts them. -/
theorem Tidy.flush (tidy : a.Tidy) :
    ∃ urls, a.list = .ok urls ∧ (∀ w, w ∈ urls ↔ a.Holds w) ∧
      a.flush = ({}, .ok urls.length) := by
  obtain ⟨urls, listed, -, members⟩ := tidy.list
  have usable : ∀ u ∈ urls, Folder.Usable (fileName u) := fun u member =>
    usable_fileName_iff.mpr (((members u).mp member).usable tidy.flat)
  obtain ⟨b, done, tidyB, holdsB⟩ := tidy.removeEach_of_usable usable
  have none : ∀ w, ¬b.Holds w := by
    intro w held
    obtain ⟨before, others⟩ := (holdsB w).mp held
    exact (others w ((members w).mpr before)).1 rfl
  obtain rfl := tidyB.eq_empty none
  refine ⟨urls, listed, members, ?_⟩
  rw [Archive.flush, listed]
  simp only [done]

/-- Flushing succeeds, whatever was done before, and tells how many addresses the list had.  It leaves
an archive without any file, which lists and loads nothing. -/
theorem flush_run (steps : List Step) :
    ∃ urls, (run steps {}).list = .ok urls ∧ ∃ b, (run steps {}).flush = (b, .ok urls.length) ∧
      b.folder.contents? = some [] ∧ b.files = .ok [] ∧ b.list = .ok [] ∧ b.loadAll = .ok [] := by
  obtain ⟨urls, listed, -, flushed⟩ := (tidy_empty.run steps).flush
  have nothing : list {} = .ok [] := by
    simp [list, addresses, bind, Except.bind, pure, Except.pure]
  refine ⟨urls, listed, {}, flushed, rfl, ?_, nothing, ?_⟩
  · simp [files, Folder.names?]
  · rw [loadAll, nothing]
    rfl

end Harvest.Archive
