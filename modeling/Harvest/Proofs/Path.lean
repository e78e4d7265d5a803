import Mathlib
import Harvest.Path
import Harvest.Proofs.Text.Split

/-!
# Names and paths

What a file can be called, and the path of a file that is reached through a list of names.  Joining
the names to a directory one after the other gives the same path as joining them with slashes first,
and the name of the file at that path is the last of them.
-/

namespace Harvest.Path

variable {base name s : String} {names : List String}

/-- Whether a file or directory can be called so. -/
def IsName (name : String) : Prop :=
  '/' ∉ name.toList ∧ name ∉ ["", ".", ".."]

instance : DecidablePred IsName := fun _ => inferInstanceAs (Decidable (_ ∧ _))

/-- Whether a text can be one of the names in a path: unlike a name, it may be of dots only. -/
def IsPart (part : String) : Prop := part ≠ "" ∧ '/' ∉ part.toList

instance : DecidablePred IsPart := fun _ => inferInstanceAs (Decidable (_ ∧ _))

theorem slash_eq : "/" = String.singleton '/' := rfl

theorem isAbsolute_iff : isAbsolute s = true ↔ "/".toList <+: s.toList := by
  rw [isAbsolute, String.startsWith, String.Slice.startsWith_string_iff, String.copy_toSlice]

theorem endsWith_slash_iff : s.endsWith "/" = true ↔ "/".toList <:+ s.toList := by
  rw [String.endsWith, String.Slice.endsWith_string_iff, String.copy_toSlice]

theorem IsName.ne_empty (ordinary : IsName name) : name ≠ "" :=
  fun empty => ordinary.2 (empty ▸ .head _)

theorem IsName.isPart (ordinary : IsName name) : IsPart name := ⟨ordinary.ne_empty, ordinary.1⟩

/-- What begins with a name is not absolute. -/
theorem IsName.not_isAbsolute_append (ordinary : IsName name) (s : String) :
    isAbsolute (name ++ s) = false := by
  refine eq_false_of_ne_true fun absolute => ?_
  rw [isAbsolute_iff, String.toList_append] at absolute
  cases chars : name.toList with
  | nil => exact ordinary.ne_empty (String.toList_eq_nil_iff.mp chars)
  | cons c cs =>
      rw [chars] at absolute
      obtain ⟨rfl, -⟩ : '/' = c ∧ _ := List.cons_prefix_cons.mp absolute
      exact ordinary.1 (chars ▸ .head cs)

theorem IsName.not_isAbsolute (ordinary : IsName name) : isAbsolute name = false := by
  simpa using ordinary.not_isAbsolute_append ""

/-- What ends in a name does not end in a slash. -/
theorem IsName.not_endsWith_slash (ordinary : IsName name) (s : String) :
    (s ++ name).endsWith "/" = false := by
  refine eq_false_of_ne_true fun ending => ?_
  rw [endsWith_slash_iff, String.toList_append] at ending
  obtain ⟨before, same⟩ := ending
  have last := congrArg List.getLast? same
  have filled : name.toList ≠ [] := String.toList_eq_nil_iff.not.mpr ordinary.ne_empty
  rw [List.getLast?_append_of_ne_nil _ (by decide), List.getLast?_append_of_ne_nil _ filled] at last
  exact ordinary.1 (List.mem_of_getLast? last.symm)

/-- Joining something to a directory puts it behind what depends on the directory only. -/
theorem exists_join_eq (base : String) :
    ∃ front, (front = "" ∨ ∃ before, front = before ++ "/") ∧
      ∀ s, isAbsolute s = false → join base s = front ++ s := by
  by_cases closed : base.isEmpty || base.endsWith "/"
  · refine ⟨base, ?_, fun s relative => by simp [join, relative, closed]⟩
    rcases Bool.or_eq_true_iff.mp closed with empty | ending
    · exact .inl (String.isEmpty_iff.mp empty)
    · obtain ⟨before, same⟩ := endsWith_slash_iff.mp ending
      exact .inr ⟨String.ofList before, String.toList_injective (by simp [← same])⟩
  · exact ⟨base ++ "/", .inr ⟨base, rfl⟩, fun s relative => by simp [join, relative, closed]⟩

/-- A path joined to a directory through a name in it. -/
theorem IsName.join_join (ordinary : IsName name) (relative : isAbsolute s = false) :
    join (join base name) s = join base (name ++ "/" ++ s) := by
  obtain ⟨front, -, joined⟩ := exists_join_eq base
  have inner : isAbsolute (name ++ "/" ++ s) = false := by
    rw [String.append_assoc]
    exact ordinary.not_isAbsolute_append _
  have filled : (front ++ name).isEmpty = false := by
    simp [String.isEmpty_eq_false_iff, ordinary.ne_empty]
  rw [joined _ ordinary.not_isAbsolute, joined _ inner, join]
  simp [relative, filled, ordinary.not_endsWith_slash, String.append_assoc]

/-- The path that leads through names. -/
def slashed (names : List String) : String := "/".intercalate names

theorem slashed_cons (name : String) (filled : names ≠ []) :
    slashed (name :: names) = name ++ "/" ++ slashed names := by
  cases names with
  | nil => exact absurd rfl filled
  | cons other names => exact String.intercalate_cons_cons

/-- Names without slashes can be told from the path that leads through them. -/
theorem splitAt_slashed_of_parts (parts : ∀ name ∈ names, IsPart name) (filled : names ≠ []) :
    Text.splitAt '/' (slashed names) = names :=
  Text.splitAt_intercalate (fun name member => (parts name member).2) filled

theorem slashed_splitAt (s : String) : slashed (Text.splitAt '/' s) = s := by
  rw [slashed, slash_eq, Text.intercalate_splitAt]

theorem splitAt_slashed (ordinary : ∀ name ∈ names, IsName name) (filled : names ≠ []) :
    Text.splitAt '/' (slashed names) = names :=
  splitAt_slashed_of_parts (fun name member => (ordinary name member).isPart) filled

theorem slashed_inj {others : List String} (ordinary : ∀ name ∈ names, IsName name)
    (filled : names ≠ []) (ordinary' : ∀ name ∈ others, IsName name) (filled' : others ≠ []) :
    slashed names = slashed others ↔ names = others := by
  refine ⟨fun same => ?_, congrArg slashed⟩
  rw [← splitAt_slashed ordinary filled, same, splitAt_slashed ordinary' filled']

theorem not_isAbsolute_slashed (ordinary : ∀ name ∈ names, IsName name) :
    isAbsolute (slashed names) = false := by
  cases names with
  | nil => exact eq_false_of_ne_true fun absolute => by simp [isAbsolute_iff, slashed] at absolute
  | cons name names =>
      have first := ordinary name (.head names)
      cases names with
      | nil => simpa [slashed] using first.not_isAbsolute
      | cons other names =>
          rw [slashed_cons name (by simp), String.append_assoc]
          exact first.not_isAbsolute_append _

theorem foldl_join (ordinary : ∀ name ∈ names, IsName name) (filled : names ≠ []) :
    names.foldl join base = join base (slashed names) := by
  induction names generalizing base with
  | nil => exact absurd rfl filled
  | cons name names ih =>
      have first := ordinary name (.head names)
      have rest : ∀ other ∈ names, IsName other :=
        fun other member => ordinary other (.tail _ member)
      rw [List.foldl_cons]
      cases names with
      | nil => simp [slashed]
      | cons other names =>
          rw [ih rest (by simp), first.join_join (not_isAbsolute_slashed rest),
            slashed_cons name (by simp)]

theorem join_empty (relative : isAbsolute s = false) : join "" s = s := by
  simp [join, relative]

/-- What is in a directory has another path. -/
theorem join_ne (relative : isAbsolute s = false) (filled : s ≠ "") : join base s ≠ base := by
  have long : 0 < s.length := Nat.pos_of_ne_zero fun none => filled (String.length_eq_zero_iff.mp none)
  intro same
  have size := congrArg String.length same
  rw [join, relative, if_neg Bool.false_ne_true] at size
  split at size
  · rw [String.length_append] at size
    omega
  · rw [String.length_append, String.length_append] at size
    omega

theorem slashed_ne_empty (filled : names ≠ []) (ordinary : ∀ name ∈ names, IsName name) :
    slashed names ≠ "" := by
  intro empty
  have split := splitAt_slashed ordinary filled
  rw [empty] at split
  have part : "" ∈ names := split ▸ List.mem_singleton_self ""
  exact (ordinary "" part).ne_empty rfl

/-- The name of a file is the last on the way to it. -/
theorem fileName?_join (ordinary : IsName name) : fileName? (join base name) = some name := by
  obtain ⟨front, closed, joined⟩ := exists_join_eq base
  obtain ⟨before, split⟩ : ∃ before, Text.splitAt '/' (front ++ name) = before ++ [name] := by
    rcases closed with rfl | ⟨before, rfl⟩
    · exact ⟨[], by simpa using Text.splitAt_of_not_mem ordinary.1⟩
    · refine ⟨Text.splitAt '/' before, ?_⟩
      rw [slash_eq, Text.splitAt_append, Text.splitAt_of_not_mem ordinary.1]
  have special : name ≠ "" ∧ name ≠ "." ∧ name ≠ ".." := by simpa using ordinary.2
  rw [fileName?, Path.names, joined _ ordinary.not_isAbsolute, split]
  simp [special]

end Harvest.Path
