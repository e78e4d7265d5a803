import Mathlib
import Harvest.Proofs.Capture.Naming

/-!
# Archives over time

An archive changes by saving and removing pages and by flushing.  Whatever was done to one that was
empty, each file in it is that of a page it holds, or the address file of one.
-/

namespace Harvest.Archive

variable {u v w : String} {body : Bytes} {a b : Archive} {name : String}

/-! ## What one change does to the files -/

/-- Whether `b` has the files of `a`, but a page and its address file as they are saved. -/
structure Saved (u : String) (body : Bytes) (a b : Archive) : Prop where
  flat : b.folder.Flat
  find : ∀ name, b.folder.find name =
    if name = fileName u then .file body
    else if Long u ∧ name = addressName (fileName u) then .file (Bytes.ofString u)
    else a.folder.find name

/-- Whether `b` has the files of `a`, but none under the two names of an address. -/
structure Removed (u : String) (a b : Archive) : Prop where
  flat : b.folder.Flat
  find : ∀ name, b.folder.find name =
    if name = fileName u ∨ name = addressName (fileName u) then .nothing
    else a.folder.find name

/-- A page with a usable name can be saved. -/
theorem save_of_usable (flat : a.folder.Flat) (usable : Folder.Usable (fileName u)) :
    ∃ b, a.save u body = (b, .ok ()) ∧ Saved u body a b := by
  obtain ⟨f, written, flatF, findF⟩ := flat.write? usable body
  by_cases long : Long u
  · obtain ⟨g, addressed, flatG, findG⟩ :=
      flatF.write? (usable_addressName u) (Bytes.ofString u)
    refine ⟨⟨g⟩, ?_, flatG, fun name => ?_⟩
    · simp only [save, written, isHashed_fileName.mpr long, addressed, if_true]
    · have different : addressName (fileName u) ≠ fileName u :=
        (fileName_ne_addressName long).symm
      rw [findG, findF]
      by_cases page : name = fileName u
      · rw [if_pos page, if_neg (page.trans_ne different.symm), if_pos page]
      · simp [page, long]
  · refine ⟨⟨f⟩, ?_, flatF, fun name => ?_⟩
    · have plain : isHashed (fileName u) = false :=
        eq_false_of_ne_true (isHashed_fileName.not.mpr long)
      simp only [save, written, plain, Bool.false_eq_true, if_false]
    · rw [findF]
      simp [long]

theorem save_of_not_usable (flat : a.folder.Flat) (reserved : ¬Folder.Usable (fileName u)) :
    a.save u body = (a, .error .unusable) := by
  simp only [save, flat.write?_of_not_usable reserved]

theorem remove_of_usable (flat : a.folder.Flat) (usable : Folder.Usable (fileName u)) :
    ∃ b, a.remove u = (b, .ok (decide (a.folder.find (fileName u) ≠ .nothing))) ∧
      Removed u a b := by
  obtain ⟨f, erased, flatF, findF⟩ := flat.remove? usable
  obtain ⟨g, unaddressed, flatG, findG⟩ := flatF.remove? (usable_addressName u)
  refine ⟨⟨g⟩, ?_, flatG, fun name => ?_⟩
  · simp only [remove, erased, unaddressed]
  · rw [findG, findF]
    by_cases address : name = addressName (fileName u)
    · simp [address]
    · simp [address]

theorem remove_of_not_usable (flat : a.folder.Flat) (reserved : ¬Folder.Usable (fileName u)) :
    a.remove u = (a, .error .unusable) := by
  simp only [remove, flat.remove?_of_not_usable reserved]

/-! ## Pages that an archive holds -/

/-- Whether an archive holds a page with an address: its file is there, and so is its address file,
if it needs one. -/
structure Holds (a : Archive) (u : String) : Prop where
  page : ∃ body, a.folder.find (fileName u) = .file body
  address : Long u → a.folder.find (addressName (fileName u)) = .file (Bytes.ofString u)

/-- Whether a name is that of the file of a page or of its address file. -/
def Owns (u name : String) : Prop :=
  name = fileName u ∨ Long u ∧ name = addressName (fileName u)

theorem Saved.holds_iff (saved : Saved u body a b) :
    b.Holds w ↔ w = u ∨ a.Holds w ∧ fileName w ≠ fileName u := by
  have page : fileName w ≠ fileName u →
      b.folder.find (fileName w) = a.folder.find (fileName w) := fun different => by
    rw [saved.find, if_neg different, if_neg fun shared =>
      fileName_ne_addressName shared.1 shared.2]
  have address : fileName w ≠ fileName u → Long w →
      b.folder.find (addressName (fileName w)) = a.folder.find (addressName (fileName w)) :=
    fun different long => by
      rw [saved.find, if_neg (fileName_ne_addressName long).symm, if_neg fun shared =>
        different (addressName_injective shared.2)]
  constructor
  · intro held
    by_cases same : fileName w = fileName u
    · -- Digests that collide do not matter: the address file names the page that was saved last.
      rcases fileName_eq_iff.mp same with rfl | ⟨longW, longU, -⟩
      · exact .inl rfl
      · have written := held.address longW
        rw [same, saved.find, if_neg (fileName_ne_addressName longU).symm,
          if_pos ⟨longU, rfl⟩] at written
        exact .inl (Bytes.ofString_injective (Folder.Found.file.inj written)).symm
    · refine .inr ⟨⟨?_, fun long => ?_⟩, same⟩
      · exact page same ▸ held.page
      · exact (address same long).symm.trans (held.address long)
  · rintro (rfl | ⟨held, different⟩)
    · refine ⟨⟨body, by rw [saved.find, if_pos rfl]⟩, fun long => ?_⟩
      rw [saved.find, if_neg (fileName_ne_addressName long).symm, if_pos ⟨long, rfl⟩]
    · refine ⟨?_, fun long => ?_⟩
      · rw [page different]
        exact held.page
      · rw [address different long]
        exact held.address long

theorem Removed.holds_iff (removed : Removed u a b) :
    b.Holds w ↔
      a.Holds w ∧ fileName w ≠ fileName u ∧ fileName w ≠ addressName (fileName u) := by
  have address : fileName w ≠ fileName u → Long w →
      b.folder.find (addressName (fileName w)) = a.folder.find (addressName (fileName w)) :=
    fun different long => by
      have kept : ¬(addressName (fileName w) = fileName u ∨
          addressName (fileName w) = addressName (fileName u)) := by
        rintro (shared | shared)
        · exact fileName_ne_addressName long shared.symm
        · exact different (addressName_injective shared)
      rw [removed.find, if_neg kept]
  constructor
  · intro held
    obtain ⟨body, stands⟩ := held.page
    have kept : ¬(fileName w = fileName u ∨ fileName w = addressName (fileName u)) := by
      intro shared
      rw [removed.find, if_pos shared] at stands
      cases stands
    rw [removed.find, if_neg kept] at stands
    obtain ⟨different, unrelated⟩ := not_or.mp kept
    exact ⟨⟨⟨body, stands⟩, fun long => (address different long).symm.trans (held.address long)⟩,
      different, unrelated⟩
  · rintro ⟨held, different, unrelated⟩
    have kept : ¬(fileName w = fileName u ∨ fileName w = addressName (fileName u)) :=
      not_or.mpr ⟨different, unrelated⟩
    refine ⟨?_, fun long => ?_⟩
    · rw [removed.find, if_neg kept]
      exact held.page
    · rw [address different long]
      exact held.address long

/-! ## Tidy archives -/

/-- Whether there are files only, each of them for a page that the archive holds. -/
structure Tidy (a : Archive) : Prop where
  flat : a.folder.Flat
  owned : ∀ name bytes, a.folder.find name = .file bytes → ∃ u, a.Holds u ∧ Owns u name

theorem tidy_empty : Tidy {} :=
  ⟨Folder.flat_empty, fun _ _ stands => absurd stands Folder.find_empty_ne_file⟩

theorem Saved.tidy (saved : Saved u body a b) (tidy : a.Tidy) : b.Tidy := by
  refine ⟨saved.flat, fun name bytes stands => ?_⟩
  by_cases own : Owns u name
  · exact ⟨u, saved.holds_iff.mpr (.inl rfl), own⟩
  · obtain ⟨page, address⟩ := not_or.mp own
    rw [saved.find, if_neg page, if_neg address] at stands
    obtain ⟨w, held, owns⟩ := tidy.owned name bytes stands
    have different : fileName w ≠ fileName u := by
      intro same
      rcases owns with rfl | ⟨long, rfl⟩
      · exact page same
      · have longU : Long u := by rwa [← isHashed_fileName, ← same, isHashed_fileName]
        exact address ⟨longU, congrArg addressName same⟩
    exact ⟨w, saved.holds_iff.mpr (.inr ⟨held, different⟩), owns⟩

theorem Removed.tidy (removed : Removed u a b) (tidy : a.Tidy) : b.Tidy := by
  refine ⟨removed.flat, fun name bytes stands => ?_⟩
  have kept : ¬(name = fileName u ∨ name = addressName (fileName u)) := by
    intro shared
    rw [removed.find, if_pos shared] at stands
    cases stands
  rw [removed.find, if_neg kept] at stands
  obtain ⟨different, unrelated⟩ := not_or.mp kept
  obtain ⟨w, held, owns⟩ := tidy.owned name bytes stands
  refine ⟨w, removed.holds_iff.mpr ⟨held, ?_⟩, owns⟩
  rcases owns with rfl | ⟨long, rfl⟩
  · exact ⟨different, unrelated⟩
  · -- A page whose address file is kept is kept, since its name ends in no address file's ending.
    exact ⟨fun same => unrelated (congrArg addressName same), fun same =>
      (fileName_eq_addressName_iff.mp same).2 long⟩

/-! ## Runs -/

/-- Something that can be done to an archive. -/
inductive Step where
  | save (url : String) (body : Bytes)
  | remove (url : String)
  | flush
  deriving DecidableEq, Repr

/-- What becomes of an archive, whether the step succeeds or not. -/
def Step.apply : Step → Archive → Archive
  | save url body, a => (a.save url body).1
  | remove url, a => (a.remove url).1
  | flush, a => a.flush.1

/-- What becomes of an archive in the end. -/
def run (steps : List Step) (a : Archive) : Archive := steps.foldl (fun a step => step.apply a) a

/-- Saving either fails and changes nothing, or saves. -/
theorem Tidy.save (tidy : a.Tidy) (u : String) (body : Bytes) :
    a.save u body = (a, .error .unusable) ∨
      ∃ b, a.save u body = (b, .ok ()) ∧ Saved u body a b := by
  by_cases usable : Folder.Usable (fileName u)
  · exact .inr (save_of_usable tidy.flat usable)
  · exact .inl (save_of_not_usable tidy.flat usable)

/-- Removing either fails and changes nothing, or removes. -/
theorem Tidy.remove (tidy : a.Tidy) (u : String) :
    a.remove u = (a, .error .unusable) ∨
      ∃ b, a.remove u = (b, .ok (decide (a.folder.find (fileName u) ≠ .nothing))) ∧
        Removed u a b := by
  by_cases usable : Folder.Usable (fileName u)
  · exact .inr (remove_of_usable tidy.flat usable)
  · exact .inl (remove_of_not_usable tidy.flat usable)

theorem Tidy.removeEach (tidy : a.Tidy) (urls : List String) : (removeEach urls a).1.Tidy := by
  induction urls generalizing a with
  | nil => exact tidy
  | cons u urls ih =>
      rcases tidy.remove u with failed | ⟨b, done, removed⟩
      · rw [Archive.removeEach, failed]
        exact tidy
      · rw [Archive.removeEach, done]
        exact ih (removed.tidy tidy)

theorem flush_fst (a : Archive) : a.flush.1 = a ∨ ∃ urls, a.flush.1 = (removeEach urls a).1 := by
  rw [flush]
  split
  · exact .inl rfl
  · next urls listed =>
      refine .inr ⟨urls, ?_⟩
      split
      · next done => rw [done]
      · next failed => rw [failed]

theorem Tidy.apply (tidy : a.Tidy) (step : Step) : (step.apply a).Tidy := by
  cases step with
  | save u body =>
      rcases tidy.save u body with failed | ⟨b, done, saved⟩
      · rwa [Step.apply, failed]
      · rw [Step.apply, done]
        exact saved.tidy tidy
  | remove u =>
      rcases tidy.remove u with failed | ⟨b, done, removed⟩
      · rwa [Step.apply, failed]
      · rw [Step.apply, done]
        exact removed.tidy tidy
  | flush =>
      rw [Step.apply]
      rcases flush_fst a with kept | ⟨urls, removed⟩
      · rwa [kept]
      · rw [removed]
        exact tidy.removeEach urls

theorem Tidy.run (tidy : a.Tidy) (steps : List Step) : (run steps a).Tidy := by
  induction steps generalizing a with
  | nil => exact tidy
  | cons step steps ih => exact ih (tidy.apply step)

/-! ## The addresses of the pages in an archive -/

/-- The addresses of the pages that a step saves. -/
def Step.saved : Step → List String
  | save url _ => [url]
  | remove _ => []
  | flush => []

theorem Tidy.of_holds_removeEach (tidy : a.Tidy) {urls : List String}
    (held : (Archive.removeEach urls a).1.Holds w) : a.Holds w := by
  induction urls generalizing a with
  | nil => exact held
  | cons u urls ih =>
      rcases tidy.remove u with failed | ⟨b, done, removed⟩
      · rwa [Archive.removeEach, failed] at held
      · rw [Archive.removeEach, done] at held
        exact (removed.holds_iff.mp (ih (removed.tidy tidy) held)).1

/-- A step puts no pages into an archive but those it saves. -/
theorem Tidy.of_holds_apply (tidy : a.Tidy) {step : Step} (held : (step.apply a).Holds w) :
    w ∈ step.saved ∨ a.Holds w := by
  cases step with
  | save u body =>
      rcases tidy.save u body with failed | ⟨b, done, saved⟩
      · rw [Step.apply, failed] at held
        exact .inr held
      · rw [Step.apply, done] at held
        rcases saved.holds_iff.mp held with rfl | ⟨earlier, -⟩
        · exact .inl (.head [])
        · exact .inr earlier
  | remove u =>
      rcases tidy.remove u with failed | ⟨b, done, removed⟩
      · rw [Step.apply, failed] at held
        exact .inr held
      · rw [Step.apply, done] at held
        exact .inr (removed.holds_iff.mp held).1
  | flush =>
      rw [Step.apply] at held
      rcases flush_fst a with kept | ⟨urls, removed⟩
      · exact .inr (kept ▸ held)
      · exact .inr (tidy.of_holds_removeEach (removed ▸ held))

/-- Each page in an archive was there at the start or is saved by a step. -/
theorem Tidy.of_holds_run (tidy : a.Tidy) {steps : List Step} (held : (Archive.run steps a).Holds w) :
    w ∈ steps.flatMap Step.saved ∨ a.Holds w := by
  induction steps generalizing a with
  | nil => exact .inr held
  | cons step steps ih =>
      rw [List.flatMap_cons, List.mem_append]
      rcases ih (tidy.apply step) held with later | earlier
      · exact .inl (.inr later)
      · rcases tidy.of_holds_apply earlier with here | before
        · exact .inl (.inl here)
        · exact .inr before

theorem not_holds_empty : ¬Holds {} w := by
  rintro ⟨⟨body, stands⟩, -⟩
  exact Folder.find_empty_ne_file stands

end Harvest.Archive
