import Mathlib
import Harvest.Definition.File

/-!
# Texts that are no definitions

A text that cannot be read is reported with an error of the form that it was read in.  So a file
whose name tells its form is never said to have an unknown one.
-/

namespace Harvest

/-- The form of definitions that an error is about. -/
def DecodeError.form? : DecodeError → Option Definition.Form
  | xml => some .xml
  | xmlAttribute => some .xml
  | fieldMissing => some .xml
  | yaml => some .yaml
  | json => some .json
  | unknownFormat _ => none

/-- A fold that stops at the first error has this error from one of its steps. -/
theorem exists_step_of_foldlM_error {σ ι ε : Type} {step : σ → ι → Except ε σ} {items : List ι}
    {s : σ} {e : ε} (failed : items.foldlM step s = .error e) :
    ∃ s item, step s item = .error e := by
  induction items generalizing s with
  | nil => cases failed
  | cons item items ih =>
      rw [List.foldlM_cons] at failed
      cases first : step s item with
      | error e' =>
          rw [first] at failed
          obtain rfl : e' = e := Except.error.inj failed
          exact ⟨s, item, first⟩
      | ok t =>
          rw [first] at failed
          exact ih failed

namespace Definition

namespace HalfRead

variable {s : HalfRead} {e : DecodeError}

theorem form?_of_applyAttributes {α : Type} {set : α → String → String → α} {a : α}
    {attributes : Xml.Attributes} (failed : applyAttributes set a attributes = .error e) :
    e.form? = some .xml := by
  induction attributes generalizing a with
  | done => cases failed
  | broken =>
      obtain rfl := Except.error.inj failed
      rfl
  | next name value rest ih =>
      rw [applyAttributes] at failed
      split at failed
      · exact ih failed
      · obtain rfl := Except.error.inj failed
        rfl

/-- What follows the attributes of a tag does not fail. -/
theorem form?_of_bind_applyAttributes {α β : Type} {set : α → String → String → α} {a : α}
    {attributes : Xml.Attributes} {finish : α → β}
    (failed : (do let b ← applyAttributes set a attributes; return finish b) = Except.error e) :
    e.form? = some .xml := by
  cases applied : applyAttributes set a attributes with
  | error e' =>
      rw [applied] at failed
      obtain rfl : e' = e := Except.error.inj failed
      exact form?_of_applyAttributes applied
  | ok b =>
      rw [applied] at failed
      cases failed

theorem form?_of_start {name : String} {attributes : List Char}
    (failed : s.start name attributes = .error e) : e.form? = some .xml := by
  unfold start at failed
  split at failed
  · exact form?_of_bind_applyAttributes failed
  · exact form?_of_bind_applyAttributes failed
  · cases failed
  · cases failed
  · cases failed
  · cases failed

theorem form?_of_alone {name : String} {attributes : List Char}
    (failed : s.alone name attributes = .error e) : e.form? = some .xml := by
  unfold alone at failed
  split at failed
  · exact form?_of_start failed
  · exact form?_of_bind_applyAttributes failed
  · cases failed

theorem form?_of_read {event : Xml.Event} (failed : s.read event = .error e) :
    e.form? = some .xml := by
  cases event with
  | start name attributes =>
      rw [read] at failed
      cases started : s.start name attributes with
      | error e' =>
          rw [started] at failed
          obtain rfl : e' = e := Except.error.inj failed
          exact form?_of_start started
      | ok t =>
          rw [started] at failed
          cases failed
  | alone name attributes =>
      rw [read] at failed
      cases started : s.alone name attributes with
      | error e' =>
          rw [started] at failed
          obtain rfl : e' = e := Except.error.inj failed
          exact form?_of_alone started
      | ok t =>
          rw [started] at failed
          cases failed
  | stop name => cases failed
  | text chars =>
      rw [read] at failed
      split at failed
      · cases failed
      · obtain rfl := Except.error.inj failed
        rfl
  | verbatim chars => cases failed
  | broken =>
      obtain rfl := Except.error.inj failed
      rfl

theorem form?_of_finish (failed : s.finish = .error e) : e.form? = some .xml := by
  rw [finish] at failed
  split at failed
  · cases failed
  · obtain rfl := Except.error.inj failed
    rfl

end HalfRead

theorem form?_of_ofXml {text : String} {e : DecodeError} (failed : ofXml text = .error e) :
    e.form? = some .xml := by
  rw [ofXml] at failed
  cases folded : (Xml.events text).foldlM HalfRead.read {} with
  | error e' =>
      rw [folded] at failed
      obtain rfl : e' = e := Except.error.inj failed
      obtain ⟨s, event, step⟩ := exists_step_of_foldlM_error folded
      exact HalfRead.form?_of_read step
  | ok s =>
      rw [folded] at failed
      exact HalfRead.form?_of_finish failed

/-- A text that cannot be read in a form is reported with an error of this form. -/
theorem Form.form?_of_read {form : Form} {text : String} {e : DecodeError}
    (failed : form.read text = .error e) : e.form? = some form := by
  cases form with
  | json =>
      rw [Form.read, ofJson] at failed
      split at failed
      · cases failed
      · obtain rfl := Except.error.inj failed
        rfl
  | xml => exact form?_of_ofXml failed
  | yaml =>
      rw [Form.read, ofYaml] at failed
      split at failed
      · cases failed
      · obtain rfl := Except.error.inj failed
        rfl

end Definition

end Harvest
