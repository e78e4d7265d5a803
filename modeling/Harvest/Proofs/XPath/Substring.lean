import Mathlib
import Harvest.XPath.Evaluation
import Harvest.Proofs.Text.Occurrence

/-!
# Before and after an occurrence

What stands before the first occurrence of a text in another, the text itself, and what stands after
it make up the other text, and no occurrence begins earlier.  This holds for the bytes of the texts
as it does for their characters, so both cuts are made between two characters.
-/

namespace Harvest.XPath

namespace Strings

variable {part cs rest : List Char}

theorem dropStart?_eq_some_iff : dropStart? part cs = some rest ↔ cs = part ++ rest := by
  induction part generalizing cs with
  | nil => simp [dropStart?]
  | cons p part ih =>
      cases cs with
      | nil => simp [dropStart?]
      | cons c cs =>
          rw [dropStart?, List.cons_append, List.cons.injEq]
          split
          · next same => rw [ih, same, and_iff_right rfl]
          · next other => exact ⟨nofun, fun own => absurd own.1.symm other⟩

theorem startsWith_iff : startsWith part cs = true ↔ part <+: cs := by
  rw [startsWith, Option.isSome_iff_exists]
  exact exists_congr fun rest => dropStart?_eq_some_iff.trans eq_comm

theorem contains_iff : contains part cs = true ↔ part <:+: cs := by
  induction cs with
  | nil => rw [contains, List.isEmpty_iff, List.infix_nil]
  | cons c cs ih => rw [contains, Bool.or_eq_true, startsWith_iff, ih, List.infix_cons_iff]

/-- A text is split where it contains the part, and only there. -/
theorem isSome_splitFirst? : (splitFirst? part cs).isSome = contains part cs := by
  induction cs with
  | nil =>
      rw [splitFirst?, contains]
      cases part.isEmpty <;> rfl
  | cons c cs ih =>
      rw [splitFirst?, contains, startsWith, ← ih]
      cases dropStart? part (c :: cs) with
      | none => rw [Option.isSome_map]; rfl
      | some after => rfl

/-- The split is at the first occurrence. -/
theorem splitFirst?_spec {front behind : List Char}
    (found : splitFirst? part cs = some (front, behind)) :
    cs = front ++ (part ++ behind) ∧ ∀ u v, cs = u ++ (part ++ v) → front <+: u := by
  induction cs generalizing front with
  | nil =>
      rw [splitFirst?] at found
      obtain ⟨empty, own⟩ := Option.ite_none_right_eq_some.mp found
      obtain ⟨rfl, rfl⟩ := Prod.mk.inj (Option.some.inj own)
      rw [List.isEmpty_iff] at empty
      exact ⟨by rw [empty]; rfl, fun u v _ => List.nil_prefix⟩
  | cons c cs ih =>
      rw [splitFirst?] at found
      split at found
      · next rest start =>
          obtain ⟨rfl, rfl⟩ := Prod.mk.inj (Option.some.inj found)
          rw [List.nil_append]
          exact ⟨dropStart?_eq_some_iff.mp start, fun u v _ => List.nil_prefix⟩
      · next absent =>
          obtain ⟨⟨front', behind'⟩, later, own⟩ := Option.map_eq_some_iff.mp found
          obtain ⟨rfl, rfl⟩ := Prod.mk.inj own
          obtain ⟨whole, first⟩ := ih later
          refine ⟨by rw [whole]; rfl, fun u v occurs => ?_⟩
          cases u with
          | nil =>
              -- an occurrence at the front would have been found there
              rw [dropStart?_eq_some_iff.mpr (List.nil_append _ ▸ occurs)] at absent
              cases absent
          | cons d u =>
              obtain ⟨rfl, later⟩ := List.cons.inj occurs
              exact List.cons_prefix_cons.mpr ⟨rfl, first u v later⟩

theorem split_of_contains (found : contains part cs = true) :
    cs = before part cs ++ (part ++ after part cs) ∧
      ∀ u v, cs = u ++ (part ++ v) → before part cs <+: u := by
  rw [← isSome_splitFirst?] at found
  obtain ⟨⟨front, behind⟩, split⟩ := Option.isSome_iff_exists.mp found
  rw [before, after, split]
  exact splitFirst?_spec split

theorem before_after_of_not_contains (absent : contains part cs = false) :
    before part cs = [] ∧ after part cs = [] := by
  rw [← isSome_splitFirst?] at absent
  rw [before, after, Option.not_isSome_iff_eq_none.mp (Bool.eq_false_iff.mp absent)]
  exact ⟨rfl, rfl⟩

end Strings

/-! ## Calls -/

/-- Whether `before` and `after` are what stands on both sides of the first occurrence of `t` in `s`,
if one is found, and empty if there is none.  Occurrences are looked for among bytes, and the two
bytes at which `s` is cut, where the first occurrence begins and where it ends, are those of
characters. -/
structure IsSplit (s t : String) (found : Bool) (before after : String) : Prop where
  whole : found = true ↔ s = before ++ (t ++ after)
  first : found = true →
    ∀ u v, Bytes.ofString s = u ++ (Bytes.ofString t ++ v) → before.utf8ByteSize ≤ u.length
  start : found = true → String.Pos.Raw.IsValid s ⟨before.utf8ByteSize⟩
  stop : found = true → String.Pos.Raw.IsValid s ⟨before.utf8ByteSize + t.utf8ByteSize⟩
  absent : found = false → before = "" ∧ after = "" ∧ ¬Bytes.ofString t <:+: Bytes.ofString s

section Split

variable {s t : String}

/-- Where the bytes of a text occur among those of another, the text occurs in the other. -/
theorem contains_of_occurs (occurs : Bytes.ofString t <:+: Bytes.ofString s) :
    Strings.contains t.toList s.toList = true := by
  rw [Strings.contains_iff]
  by_cases empty : t = ""
  · subst empty
    exact List.nil_infix
  · obtain ⟨u, v, same⟩ := occurs
    rw [List.append_assoc] at same
    obtain ⟨u', v', rfl, -, -⟩ := Bytes.exists_of_ofString_eq_append empty same.symm
    rw [String.toList_append, String.toList_append]
    exact ⟨u'.toList, v'.toList, List.append_assoc ..⟩

theorem size_before_le (found : Strings.contains t.toList s.toList = true) {u v : Bytes}
    (occurs : Bytes.ofString s = u ++ (Bytes.ofString t ++ v)) :
    (String.ofList (Strings.before t.toList s.toList)).utf8ByteSize ≤ u.length := by
  have first := (Strings.split_of_contains found).2
  by_cases empty : t = ""
  · subst empty
    rw [List.prefix_nil.mp (first [] s.toList rfl)]
    exact Nat.zero_le _
  · obtain ⟨u', v', whole, rfl, -⟩ := Bytes.exists_of_ofString_eq_append empty occurs
    have split : s.toList = u'.toList ++ (t.toList ++ v'.toList) := by
      rw [whole, String.toList_append, String.toList_append]
    obtain ⟨more, own⟩ := first u'.toList v'.toList split
    rw [Bytes.length_ofString, ← String.ofList_toList (s := u'), ← own, String.ofList_append,
      String.utf8ByteSize_append]
    exact Nat.le_add_right _ _

theorem isSplit (s t : String) :
    IsSplit s t (Strings.contains t.toList s.toList)
      (String.ofList (Strings.before t.toList s.toList))
      (String.ofList (Strings.after t.toList s.toList)) := by
  have split (found : Strings.contains t.toList s.toList = true) :
      s = String.ofList (Strings.before t.toList s.toList) ++
        (t ++ String.ofList (Strings.after t.toList s.toList)) := by
    rw [← String.toList_inj, String.toList_append, String.toList_append, String.toList_ofList,
      String.toList_ofList]
    exact (Strings.split_of_contains found).1
  constructor
  · refine ⟨split, fun own => contains_of_occurs ?_⟩
    rw [own, Bytes.ofString_append, Bytes.ofString_append]
    exact ⟨_, _, List.append_assoc ..⟩
  · exact fun found u v => size_before_le found
  · exact fun found => String.Pos.Raw.isValid_iff_exists_append.mpr ⟨_, _, split found, rfl⟩
  · intro found
    refine String.Pos.Raw.isValid_iff_exists_append.mpr ⟨_, _,
      (split found).trans (String.append_assoc ..).symm, ?_⟩
    rw [String.rawEndPos, String.utf8ByteSize_append]
  · intro absent
    obtain ⟨before, after⟩ := Strings.before_after_of_not_contains absent
    rw [before, after]
    refine ⟨rfl, rfl, fun occurs => ?_⟩
    rw [contains_of_occurs occurs] at absent
    cases absent

end Split

/-- Whether one text contains another, and what stands before and after it, are three answers that
fit: the second text is contained if and only if the first is what stands before it, itself and what
stands after it; then no occurrence begins earlier; otherwise nothing stands before or after it. -/
theorem eval_split (doc : Document) (ctx : Context) (a b : Expr) :
    ∃ found before after,
      (Expr.call .contains [a, b]).eval doc ctx = .boolean found ∧
      (Expr.call .substringBefore [a, b]).eval doc ctx = .string before ∧
      (Expr.call .substringAfter [a, b]).eval doc ctx = .string after ∧
      IsSplit ((a.eval doc ctx).text doc) ((b.eval doc ctx).text doc) found before after := by
  refine ⟨_, _, _, ?_, ?_, ?_, isSplit _ _⟩
  · rw [Expr.eval]
    rfl
  · rw [Expr.eval]
    rfl
  · rw [Expr.eval]
    rfl

end Harvest.XPath
