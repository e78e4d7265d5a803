import Mathlib
import Harvest.Text.Blank

/-!
# Texts in pieces

Splitting a text at a character is the splitting of lists, so it takes a joined text apart into the
pieces it was joined from, unless the character occurs in one of them.  A piece with characters of
one kind ends before the first character of another kind.
-/

namespace Harvest.Text

variable {sep : Char} {s t : String}

theorem splitChars_eq (piece cs : List Char) :
    splitChars sep piece cs = List.splitOnPPrepend (· == sep) cs piece := by
  induction cs generalizing piece with
  | nil => rfl
  | cons c cs ih => rw [splitChars, List.splitOnPPrepend_cons_eq_if, ih, ih]; simp

theorem splitAt_eq : splitAt sep s = (s.toList.splitOn sep).map String.ofList := by
  rw [splitAt, splitChars_eq, List.splitOn_eq_splitOnP, List.splitOnP_eq_splitOnPPrepend]

theorem splitAt_of_not_mem (absent : sep ∉ s.toList) : splitAt sep s = [s] := by
  rw [splitAt_eq, List.splitOn_eq_singleton absent]
  simp

theorem not_mem_of_mem_splitChars {piece read cs : List Char} (fresh : sep ∉ read)
    (member : piece ∈ splitChars sep read cs) : sep ∉ piece := by
  induction cs generalizing read with
  | nil =>
      rw [List.mem_singleton.mp member]
      simpa using fresh
  | cons c cs ih =>
      rw [splitChars] at member
      split at member
      · rcases List.mem_cons.mp member with rfl | later
        · simpa using fresh
        · exact ih List.not_mem_nil later
      · next other => exact ih (by simp [Ne.symm other, fresh]) member

/-- The pieces do not have the character at which the text was split. -/
theorem not_mem_of_mem_splitAt {piece : String} (member : piece ∈ splitAt sep s) :
    sep ∉ piece.toList := by
  obtain ⟨cs, split, rfl⟩ := List.mem_map.mp member
  rw [String.toList_ofList]
  exact not_mem_of_mem_splitChars List.not_mem_nil split

theorem splitAt_append : splitAt sep (s ++ String.singleton sep ++ t) =
    splitAt sep s ++ splitAt sep t := by
  simp [splitAt_eq, List.splitOn_append_cons_self]

/-- The pieces of a text, joined, are the text again. -/
theorem intercalate_splitAt : (String.singleton sep).intercalate (splitAt sep s) = s := by
  rw [← String.toList_inj, String.toList_intercalate, String.toList_singleton, splitAt_eq]
  simp [List.intercalate_splitOn]

theorem splitAt_intercalate {pieces : List String} (absent : ∀ piece ∈ pieces, sep ∉ piece.toList)
    (filled : pieces ≠ []) : splitAt sep ((String.singleton sep).intercalate pieces) = pieces := by
  have split : ([sep].intercalate (pieces.map String.toList)).splitOn sep =
      pieces.map String.toList :=
    List.splitOn_intercalate sep (by simpa using absent) (by simpa using filled)
  rw [splitAt_eq, String.toList_intercalate, String.toList_singleton, split]
  simp

/-- Characters of one kind, up to the first of another kind. -/
theorem append_cons_cancel {p : Char → Bool} {as bs u v : List Char} {c d : Char}
    (passes : ∀ a ∈ as, p a = true) (passes' : ∀ b ∈ bs, p b = true) (stop : p c = false)
    (stop' : p d = false) (same : as ++ c :: u = bs ++ d :: v) : as = bs ∧ c :: u = d :: v := by
  induction as generalizing bs with
  | nil =>
      cases bs with
      | nil => exact ⟨rfl, same⟩
      | cons b bs =>
          obtain ⟨rfl, -⟩ := List.cons.inj same
          rw [passes' c List.mem_cons_self] at stop
          cases stop
  | cons a as ih =>
      cases bs with
      | nil =>
          obtain ⟨rfl, -⟩ := List.cons.inj same
          rw [passes a List.mem_cons_self] at stop'
          cases stop'
      | cons b bs =>
          obtain ⟨rfl, rest⟩ := List.cons.inj same
          obtain ⟨here, later⟩ := ih (fun x member => passes x (.tail _ member))
            (fun x member => passes' x (.tail _ member)) rest
          exact ⟨congrArg (a :: ·) here, later⟩

end Harvest.Text
