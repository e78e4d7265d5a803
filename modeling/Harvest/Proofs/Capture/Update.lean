import Mathlib
import Harvest.Proofs.Capture.Listing

/-!
# What saving a page changes

Unless digests collide, an archive is a map from addresses to pages, and saving a page is an update of
this map under the address of the page.
-/

namespace Harvest.Archive

variable {u v w : String} {body : Bytes} {a b : Archive}

/-- Whether no two of some addresses that go by their digests share one. -/
def Apart (urls : List String) : Prop :=
  ∀ u ∈ urls, ∀ v ∈ urls, Long u → Long v → digest u = digest v → u = v

theorem Apart.eq_of_fileName {urls : List String} (apart : Apart urls) (memberU : u ∈ urls)
    (memberV : v ∈ urls) (same : fileName u = fileName v) : u = v := by
  rcases fileName_eq_iff.mp same with equal | ⟨longU, longV, collision⟩
  · exact equal
  · exact apart u memberU v memberV longU longV collision

theorem Saved.load_self (saved : Saved u body a b) : b.load u = .ok (some ⟨u, body⟩) := by
  rw [Archive.load, saved.find, if_pos rfl]

theorem Saved.load (saved : Saved u body a b) (different : fileName v ≠ fileName u) :
    b.load v = a.load v := by
  have unrelated : ¬(Long u ∧ fileName v = addressName (fileName u)) := fun shared =>
    fileName_ne_addressName shared.1 shared.2
  rw [Archive.load, saved.find, if_neg different, if_neg unrelated, Archive.load]

/-- The list of an archive with a page saved has the address of the page and what it had before,
unless another page is lost because it has the name of this one. -/
theorem Saved.list (saved : Saved u body a b) (tidy : a.Tidy)
    (apart : ∀ w, a.Holds w → fileName w = fileName u → w = u) :
    ∃ before after, a.list = .ok before ∧ b.list = .ok after ∧ after.Pairwise (· < ·) ∧
      ∀ w, w ∈ after ↔ w = u ∨ w ∈ before := by
  obtain ⟨before, listedBefore, -, membersBefore⟩ := tidy.list
  obtain ⟨after, listedAfter, sorted, membersAfter⟩ := (saved.tidy tidy).list
  refine ⟨before, after, listedBefore, listedAfter, sorted, fun w => ?_⟩
  rw [membersAfter, membersBefore, saved.holds_iff]
  constructor
  · rintro (same | ⟨held, -⟩)
    · exact .inl same
    · exact .inr held
  · rintro (same | held)
    · exact .inl same
    · by_cases shared : fileName w = fileName u
      · exact .inl (apart w held shared)
      · exact .inr ⟨held, shared⟩

/-- Saving a page, whatever was done before, changes what is loaded for its address and nothing else,
and the list is that of before with the address in its place; if it fails, nothing changes. -/
theorem save_eq (steps : List Step) (u : String) (body : Bytes)
    (apart : Apart (u :: steps.flatMap Step.saved)) :
    (∀ b, (run steps {}).save u body = (b, .ok ()) →
      b.load u = .ok (some ⟨u, body⟩) ∧
      (∀ v, v ≠ u → Apart [u, v] → b.load v = (run steps {}).load v) ∧
      ∃ before after, (run steps {}).list = .ok before ∧ b.list = .ok after ∧
        after.Pairwise (· < ·) ∧ ∀ w, w ∈ after ↔ w = u ∨ w ∈ before) ∧
    ∀ b e, (run steps {}).save u body = (b, .error e) →
      (∀ v, b.load v = (run steps {}).load v) ∧ b.list = (run steps {}).list := by
  have tidy : (run steps {}).Tidy := tidy_empty.run steps
  have known (w : String) (held : (run steps {}).Holds w) : w ∈ steps.flatMap Step.saved :=
    (tidy_empty.of_holds_run held).resolve_right not_holds_empty
  rcases tidy.save u body with failed | ⟨c, done, saved⟩
  · rw [failed]
    refine ⟨fun b success => ?_, fun b e failure => ?_⟩
    · cases (Prod.mk.inj success).2
    · obtain rfl := (Prod.mk.inj failure).1
      exact ⟨fun v => rfl, rfl⟩
  · rw [done]
    refine ⟨fun b success => ?_, fun b e failure => ?_⟩
    · obtain rfl := (Prod.mk.inj success).1
      refine ⟨saved.load_self, fun v different others => saved.load fun same => different ?_,
        saved.list tidy fun w held same => ?_⟩
      · exact others.eq_of_fileName (by simp) (by simp) same
      · exact apart.eq_of_fileName (.tail u (known w held)) (.head _) same
    · cases (Prod.mk.inj failure).2

theorem save_eq_second_page :
    Apart ["a", "b"] ∧
    (run [.save "b" [0x62]] {}).save "a" [0x61] =
      (⟨⟨some [("a", .item [0x61]), ("b", .item [0x62])]⟩⟩, .ok ()) ∧
    load "b" ⟨⟨some [("a", .item [0x61]), ("b", .item [0x62])]⟩⟩ =
      load "b" (run [.save "b" [0x62]] {}) := by
  have apart : Apart ["a", "b"] := by
    intro u memberU v _ longU
    have short : ∀ url ∈ ["a", "b"], ¬Long url := by decide
    exact absurd longU (short u memberU)
  have names : fileName "a" = "a" ∧ fileName "b" = "b" := by decide
  have plain : isHashed "a" = false ∧ isHashed "b" = false := by simp [isHashed]
  have done : (run [.save "b" [0x62]] {}).save "a" [0x61] =
      (⟨⟨some [("a", .item [0x61]), ("b", .item [0x62])]⟩⟩, .ok ()) := by
    simp only [run, List.foldl, Step.apply, save, names, plain]
    cbv
  obtain ⟨success, -⟩ := save_eq [.save "b" [0x62]] "a" [0x61] apart
  obtain ⟨-, loads, -⟩ := success _ done
  exact ⟨apart, done, loads "b" (by decide) apart⟩

end Harvest.Archive
