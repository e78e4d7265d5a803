import Mathlib
import Harvest.Proofs.Capture.Listing

/-!
# What removing a page removes

Removing a page takes away the file with its name and the file beside it, in which its address would
be if its name were a digest.  The second of them may be the page of another address.
-/

namespace Harvest.Archive

variable {u v w : String} {a b : Archive}

/-- Whether the page with one address goes when that with another is removed: because it has the
name of its address file, or shares its digest. -/
def Overlaps (u v : String) : Prop :=
  v = u ++ ".url" ∧ ¬Long v ∨ Long u ∧ Long v ∧ digest u = digest v

instance (u v : String) : Decidable (Overlaps u v) := inferInstanceAs (Decidable (_ ∨ _))

theorem overlaps_iff (different : v ≠ u) :
    Overlaps u v ↔ fileName v = fileName u ∨ fileName v = addressName (fileName u) := by
  have shared : fileName v = fileName u ↔ Long u ∧ Long v ∧ digest u = digest v := by
    rw [eq_comm, fileName_eq_iff, or_iff_right different.symm]
  rw [shared, fileName_eq_addressName_iff, Overlaps, or_comm]

theorem Removed.load (removed : Removed u a b) (different : v ≠ u) :
    b.load v = if Overlaps u v then .ok none else a.load v := by
  by_cases overlap : Overlaps u v
  · rw [if_pos overlap, Archive.load, removed.find, if_pos ((overlaps_iff different).mp overlap)]
  · rw [if_neg overlap, Archive.load, removed.find,
      if_neg ((overlaps_iff different).not.mp overlap), Archive.load]

theorem Removed.load_self (removed : Removed u a b) : b.load u = .ok none := by
  rw [Archive.load, removed.find, if_pos (.inl rfl)]

/-- The list of what is left is the list without the page and what goes with it. -/
theorem Removed.list (removed : Removed u a b) (tidy : a.Tidy) {urls : List String}
    (listed : a.list = .ok urls) :
    b.list = .ok (urls.filter fun w => w ≠ u ∧ ¬Overlaps u w) := by
  obtain ⟨_, before, sorted, members⟩ := tidy.list
  obtain rfl := Except.ok.inj (before.symm.trans listed)
  obtain ⟨left, after, sortedLeft, membersLeft⟩ := (removed.tidy tidy).list
  rw [after]
  refine congrArg Except.ok (sortedLeft.eq_of_mem_iff (sorted.filter _) fun w => ?_)
  rw [membersLeft, removed.holds_iff, List.mem_filter, members, decide_eq_true_eq]
  refine and_congr_right fun _ => ?_
  by_cases same : w = u
  · simp [same]
  · rw [overlaps_iff same, not_or]
    simp [same]

theorem Holds.load (held : a.Holds u) : ∃ body, a.load u = .ok (some ⟨u, body⟩) := by
  obtain ⟨body, stands⟩ := held.page
  exact ⟨body, by rw [Archive.load, stands]⟩

/-- Whether the answers of two archives differ in nothing but the page with an address. -/
def DiffersAt (u : String) (a b : Archive) : Prop :=
  (∀ v, v ≠ u → b.load v = a.load v) ∧
    ∃ urls, a.list = .ok urls ∧ b.list = .ok (urls.filter fun w => w ≠ u)

theorem Removed.differsAt_iff (removed : Removed u a b) (tidy : a.Tidy) :
    DiffersAt u a b ↔ ∀ v, v ≠ u → Overlaps u v → a.load v = .ok none := by
  constructor
  · rintro ⟨loads, -⟩ v different overlap
    rw [← loads v different, removed.load different, if_pos overlap]
  · intro absent
    obtain ⟨urls, listed, -, members⟩ := tidy.list
    refine ⟨fun v different => ?_, urls, listed, ?_⟩
    · rw [removed.load different]
      split
      · next overlap => exact (absent v different overlap).symm
      · rfl
    · rw [removed.list tidy listed]
      refine congrArg Except.ok (List.filter_congr fun w member => ?_)
      refine decide_eq_decide.mpr (and_iff_left_of_imp fun different overlap => ?_)
      obtain ⟨body, loaded⟩ := ((members w).mp member).load
      rw [absent w different overlap] at loaded
      cases loaded

/-- Removing a page, whatever was done before, removes those that overlap with it and no others: the
page itself is gone, other pages load as before unless they overlap with it, and the list loses them
and nothing else.  So it touches no other page exactly if the archive holds none that overlaps. -/
theorem remove_eq (steps : List Step) (u : String) (b : Archive) (present : Bool)
    (done : (run steps {}).remove u = (b, .ok present)) :
    b.load u = .ok none ∧
      (∀ v, v ≠ u → b.load v = if Overlaps u v then .ok none else (run steps {}).load v) ∧
      (∃ urls, (run steps {}).list = .ok urls ∧
        b.list = .ok (urls.filter fun w => w ≠ u ∧ ¬Overlaps u w)) ∧
      (DiffersAt u (run steps {}) b ↔
        ∀ v, v ≠ u → Overlaps u v → (run steps {}).load v = .ok none) := by
  have tidy : (run steps {}).Tidy := tidy_empty.run steps
  rcases tidy.remove u with failed | ⟨c, removal, removed⟩
  · rw [failed] at done
    cases (Prod.mk.inj done).2
  · obtain rfl : c = b := (Prod.mk.inj (removal.symm.trans done)).1
    obtain ⟨urls, listed, -⟩ := tidy.list
    exact ⟨removed.load_self, fun v different => removed.load different,
      ⟨urls, listed, removed.list tidy listed⟩, removed.differsAt_iff tidy⟩

/-- Two pages, the first of which takes the second with it. -/
def overlapping : List Step := [.save "foo" [0x31], .save "foo.url" [0x32]]

theorem fileName_foo : fileName "foo" = "foo" ∧ fileName "foo.url" = "foo.url" := by decide

theorem run_overlapping :
    run overlapping {} = ⟨⟨some [("foo", .item [0x31]), ("foo.url", .item [0x32])]⟩⟩ := by
  have plain : isHashed "foo" = false ∧ isHashed "foo.url" = false := by simp [isHashed]
  simp only [overlapping, run, List.foldl, Step.apply, save, fileName_foo, plain]
  cbv

theorem remove_foo : (run overlapping {}).remove "foo" = (⟨⟨some []⟩⟩, .ok true) := by
  rw [run_overlapping]
  simp only [remove, fileName_foo]
  cbv

theorem load_foo_url : (run overlapping {}).load "foo.url" = .ok (some ⟨"foo.url", [0x32]⟩) := by
  rw [run_overlapping]
  simp only [load, fileName_foo]
  cbv

theorem load_foo_url_removed : load "foo.url" ⟨⟨some []⟩⟩ = .ok none := by
  simp only [load, fileName_foo]
  cbv

theorem remove_eq_overlapping :
    (run overlapping {}).remove "foo" = (⟨⟨some []⟩⟩, .ok true) ∧
    (run overlapping {}).load "foo.url" = .ok (some ⟨"foo.url", [0x32]⟩) ∧
    Overlaps "foo" "foo.url" ∧ load "foo.url" ⟨⟨some []⟩⟩ = .ok none := by
  have overlap : Overlaps "foo" "foo.url" := .inl (by decide)
  obtain ⟨-, loads, -⟩ := remove_eq overlapping "foo" ⟨⟨some []⟩⟩ true remove_foo
  exact ⟨remove_foo, load_foo_url, overlap, (loads "foo.url" (by decide)).trans (if_pos overlap)⟩

/-- Removing a page can remove another. -/
theorem remove_not_local :
    ¬∀ (steps : List Step) (u : String) (b : Archive) (present : Bool),
      (run steps {}).remove u = (b, .ok present) → DiffersAt u (run steps {}) b := by
  intro isolated
  obtain ⟨loads, -⟩ := isolated overlapping "foo" _ true remove_foo
  have kept := loads "foo.url" (by decide)
  rw [load_foo_url, load_foo_url_removed] at kept
  cases kept

end Harvest.Archive
