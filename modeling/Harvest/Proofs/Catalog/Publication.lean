import Mathlib
import Harvest.Catalog.Publication

/-!
# The catalog in force

What is in force after some steps is what the last of them that put a catalog in force put there: a
publication, or a loading of the folder as the steps before had left it.  Loading fails only where
the folder is missing, and then everything stays as it is.  Whoever holds a catalog goes on holding
the same.
-/

namespace Harvest

theorem Catalog.load_eq_error_iff {path : String} {folder : Folder} {e : LoadError} :
    load path folder = .error e ↔ folder.contents? = none ∧ e = .unreadable path := by
  rw [load, loadListing, Folder.listing?]
  cases folder.contents? with
  | none => simp [Sources.ofListing, bind, Except.bind, eq_comm]
  | some files => simp [Sources.ofListing, bind, Except.bind, pure, Except.pure]

namespace Publication

/-- What becomes of the folder in a step. -/
def Step.edit (folder : Folder) : Step → Folder
  | .place path bytes => folder.place path bytes
  | .ensure path => folder.ensure path
  | .discard path => folder.discard path
  | .reload => folder
  | .publish _ => folder
  | .hold _ => folder

/-- The catalog that a step puts in force, with the folder as it is. -/
def Step.puts? (path : String) (folder : Folder) : Step → Option Catalog
  | .reload => (Catalog.load path folder).toOption.map fun loaded => loaded.kept
  | .publish catalog => some catalog
  | .place _ _ => none
  | .ensure _ => none
  | .discard _ => none
  | .hold _ => none

/-- The catalogs that steps put in force, one after the other. -/
def successive (path : String) : Folder → List Step → List Catalog
  | _, [] => []
  | folder, s :: steps =>
      (s.puts? path folder).toList ++ successive path (s.edit folder) steps

variable (p : Publication) (s : Step) (steps : List Step)

/-! ## One step -/

theorem reload_eq : p.reload =
    match Catalog.load p.path p.folder with
    | .ok loaded => ({ p with current := loaded.kept }, .ok loaded.rejected)
    | .error e => (p, .error e) := rfl

@[simp] theorem path_step : (p.step s).path = p.path := by
  cases s with
  | reload =>
      rw [step, reload]
      split <;> rfl
  | _ => rfl

@[simp] theorem folder_step : (p.step s).folder = s.edit p.folder := by
  cases s with
  | reload =>
      rw [step, reload]
      split <;> rfl
  | _ => rfl

theorem current_step : (p.step s).current = (s.puts? p.path p.folder).getD p.current := by
  cases s with
  | reload =>
      rw [step, reload, Step.puts?]
      cases Catalog.load p.path p.folder <;> rfl
  | _ => rfl

/-- A step adds at most the catalog that it takes hold of to those that are held. -/
theorem held_step : (p.step s).held =
    match s with
    | .hold name => (name, p.current) :: p.held
    | _ => p.held := by
  cases s with
  | reload =>
      rw [step, reload]
      split <;> rfl
  | _ => rfl

/-! ## Runs -/

theorem run_cons : run p (s :: steps) = run (p.step s) steps := rfl

theorem run_append (later : List Step) : run p (steps ++ later) = run (run p steps) later :=
  List.foldl_append

theorem path_run : (run p steps).path = p.path := by
  induction steps generalizing p with
  | nil => rfl
  | cons s steps ih => rw [run_cons, ih, path_step]

/-- The folder is changed from outside only. -/
theorem folder_run : (run p steps).folder = steps.foldl Step.edit p.folder := by
  induction steps generalizing p with
  | nil => rfl
  | cons s steps ih => rw [run_cons, ih, folder_step, List.foldl_cons]

theorem current_run :
    (run p steps).current = ((successive p.path p.folder steps).getLast?).getD p.current := by
  induction steps generalizing p with
  | nil => rfl
  | cons s steps ih =>
      rw [run_cons, ih, path_step, folder_step, current_step, successive, List.getLast?_append]
      cases (successive p.path (s.edit p.folder) steps).getLast? with
      | some catalog => rfl
      | none => cases s.puts? p.path p.folder <;> rfl

/-- What is held stays held, behind what is taken hold of later. -/
theorem held_run : ∃ later, (run p steps).held = later ++ p.held ∧
    ∀ entry ∈ later, .hold entry.1 ∈ steps := by
  induction steps generalizing p with
  | nil => exact ⟨[], rfl, nofun⟩
  | cons s steps ih =>
      obtain ⟨later, held, named⟩ := ih (p.step s)
      rw [held_step] at held
      rw [run_cons, held]
      split at held
      · next name =>
          refine ⟨later ++ [(name, p.current)], by simp, fun entry member => ?_⟩
          rcases List.mem_append.mp member with old | new
          · exact .tail _ (named entry old)
          · rw [List.mem_singleton.mp new]
            exact .head _
      · exact ⟨later, rfl, fun entry member => .tail _ (named entry member)⟩

theorem held?_of_held {later earlier : List (String × Catalog)} {name : String} {c : Catalog}
    (held : p.held = later ++ (name, c) :: earlier) (fresh : ∀ entry ∈ later, entry.1 ≠ name) :
    p.held? name = some c := by
  rw [held?, held]
  clear held
  induction later with
  | nil => simp
  | cons first later ih =>
      have different : (name == first.1) = false := beq_false_of_ne (fresh first (.head _)).symm
      rw [List.cons_append, List.lookup_cons, different]
      exact ih fun entry member => fresh entry (.tail _ member)

/-- A publication whose folder has never been loaded. -/
def unloaded (path : String) (folder : Folder) : Publication := { path, folder }

/-- What any steps make of a publication.  The catalog in force is the last that a step has published
or loaded, and the empty one before; loading takes the folder as its owner has left it, fails exactly
where it is missing, and changes nothing then.  A catalog that someone has taken hold of is held
unchanged whatever happens later, and is found under its name until another is held under it. -/
theorem run_inForce (path : String) (folder : Folder) (steps : List Step) :
    (run (unloaded path folder) steps).current =
      ((successive path folder steps).getLast?).getD [] ∧
    (run (unloaded path folder) steps).folder = steps.foldl Step.edit folder ∧
    ((∃ e, (run (unloaded path folder) steps).reload.2 = .error e) ↔
      (run (unloaded path folder) steps).folder.contents? = none) ∧
    (∀ e, (run (unloaded path folder) steps).reload.2 = .error e →
      (run (unloaded path folder) steps).reload.1 = run (unloaded path folder) steps) ∧
    (∀ loaded, Catalog.load path (run (unloaded path folder) steps).folder = .ok loaded →
      (run (unloaded path folder) steps).reload =
        ({ run (unloaded path folder) steps with current := loaded.kept }, .ok loaded.rejected)) ∧
    ∀ before name after, steps = before ++ .hold name :: after →
      (name, (run (unloaded path folder) before).current) ∈
        (run (unloaded path folder) steps).held ∧
      (.hold name ∉ after → (run (unloaded path folder) steps).held? name =
        some (run (unloaded path folder) before).current) := by
  have same : (run (unloaded path folder) steps).path = path := path_run _ steps
  refine ⟨current_run _ steps, folder_run _ steps, ?_, fun e failed => ?_, fun loaded load => ?_, ?_⟩
  · rw [reload_eq]
    cases load : Catalog.load (run (unloaded path folder) steps).path
        (run (unloaded path folder) steps).folder with
    | ok loaded =>
        have there : (run (unloaded path folder) steps).folder.contents? ≠ none := fun missing => by
          rw [Catalog.load_eq_error_iff.mpr ⟨missing, rfl⟩] at load
          cases load
        simpa using there
    | error e => simpa using (Catalog.load_eq_error_iff.mp load).1
  · rw [reload_eq] at failed ⊢
    split at failed
    · cases failed
    · rfl
  · have here : Catalog.load (run (unloaded path folder) steps).path
        (run (unloaded path folder) steps).folder = .ok loaded := by rw [same, load]
    rw [reload_eq, here]
  · rintro before name after rfl
    obtain ⟨later, held, named⟩ :=
      held_run (step (run (unloaded path folder) before) (.hold name)) after
    rw [held_step] at held
    rw [run_append, run_cons]
    refine ⟨?_, fun fresh => held?_of_held _ held fun entry member same => ?_⟩
    · rw [held]
      exact List.mem_append_right later (.head _)
    · exact fresh (same ▸ named entry member)

/-- Loading an empty directory, taking hold of what is in force, publishing nothing at all, and
loading again when the folder is gone. -/
def emptyingSteps : List Step :=
  [.ensure "sub", .reload, .hold "first", .publish [], .reload, .discard "", .reload]

theorem run_inForce_emptying :
    (run (unloaded "defs" {}) emptyingSteps).folder.contents? = none ∧
    (run (unloaded "defs" {}) emptyingSteps).current = [("sub", .directory [])] ∧
    (run (unloaded "defs" {}) emptyingSteps).reload.1 = run (unloaded "defs" {}) emptyingSteps ∧
    (run (unloaded "defs" {}) emptyingSteps).held? "first" = some [("sub", .directory [])] := by
  have missing : (run (unloaded "defs" {}) emptyingSteps).folder.contents? = none := by cbv
  obtain ⟨inForce, -, failing, unchanged, -, holding⟩ := run_inForce "defs" {} emptyingSteps
  obtain ⟨e, failed⟩ := failing.mpr missing
  refine ⟨missing, inForce.trans (by cbv), unchanged e failed, ?_⟩
  have first := (holding [.ensure "sub", .reload] "first"
    [.publish [], .reload, .discard "", .reload] rfl).2 (by simp)
  exact first.trans (by cbv)

end Publication

end Harvest
