import Mathlib
import Harvest.Text.Blank

/-!
# Trimmed texts

Cutting blanks off the ends of a text leaves a text that neither begins nor ends with one, and these
are the texts that the cutting leaves as they are.
-/

namespace Harvest.Text

theorem dropEndWhile_eq (p : Char → Bool) (cs : List Char) :
    dropEndWhile p cs = cs.rdropWhile p := by
  induction cs with
  | nil => rfl
  | cons c cs ih =>
      have last : (c :: cs).rdropWhile p =
          if (cs.rdropWhile p).isEmpty then [c].rdropWhile p else c :: cs.rdropWhile p := by
        simp only [List.rdropWhile, List.reverse_cons, List.dropWhile_append]
        split <;> simp_all
      rw [dropEndWhile, ih, last]
      cases cs.rdropWhile p with
      | nil => simp [List.rdropWhile_singleton]
      | cons d ds => rfl

theorem trimChars_eq (cs : List Char) :
    trimChars cs = (cs.dropWhile isBlank).rdropWhile isBlank := by
  rw [trimChars, dropEndWhile_eq]

/-- A text that begins and ends with characters that are not blank is trimmed already. -/
theorem trimChars_eq_self_iff {cs : List Char} :
    trimChars cs = cs ↔
      (∀ c ∈ cs.head?, isBlank c = false) ∧ ∀ c ∈ cs.getLast?, isBlank c = false := by
  cases cs with
  | nil => simp [trimChars, dropEndWhile]
  | cons c cs =>
      rw [trimChars_eq]
      by_cases blank : isBlank c = true
      · have shorter : ((c :: cs).dropWhile isBlank).rdropWhile isBlank ≠ c :: cs := fun same => by
          have left := (List.rdropWhile_prefix isBlank ((c :: cs).dropWhile isBlank)).length_le
          have right := (List.dropWhile_suffix isBlank (l := cs)).length_le
          rw [same, List.dropWhile_cons_of_pos blank, List.length_cons] at left
          omega
        refine iff_of_false shorter fun trimmed => ?_
        simp [blank] at trimmed
      · rw [List.dropWhile_cons_of_neg blank, List.rdropWhile_eq_self_iff]
        simp [List.getLast?_eq_some_getLast, blank]

theorem trimChars_trimChars (cs : List Char) : trimChars (trimChars cs) = trimChars cs := by
  rw [trimChars_eq_self_iff, trimChars_eq]
  have front := List.head?_dropWhile_not isBlank cs
  generalize cs.dropWhile isBlank = rest at front
  refine ⟨fun c first => ?_, fun c last => ?_⟩
  · obtain ⟨before, left⟩ := List.rdropWhile_prefix isBlank rest
    have here : rest.head? = some c := by
      rw [← left, List.head?_append, first, Option.some_or]
    rw [here] at front
    exact front
  · obtain ⟨filled, rfl⟩ := List.mem_getLast?_eq_getLast last
    exact eq_false_of_ne_true (List.rdropWhile_last_not isBlank rest filled)

theorem trim_eq_self_iff {s : String} : trim s = s ↔ trimChars s.toList = s.toList := by
  rw [trim, ← String.toList_inj, String.toList_ofList]

theorem trim_trim (s : String) : trim (trim s) = trim s := by
  rw [trim_eq_self_iff, trim, String.toList_ofList, trimChars_trimChars]

/-- What is left of a text is part of it. -/
theorem mem_of_mem_trim {c : Char} {s : String} (member : c ∈ (trim s).toList) : c ∈ s.toList := by
  rw [trim, String.toList_ofList, trimChars_eq] at member
  exact (List.dropWhile_suffix isBlank).subset ((List.rdropWhile_prefix isBlank _).subset member)

/-- A text that begins and ends with no blank. -/
structure Trimmed where
  text : String
  trimmed : trim text = text

/-- What is left of a text without the blanks at its ends. -/
def Trimmed.of (s : String) : Trimmed := ⟨trim s, trim_trim s⟩

end Harvest.Text
