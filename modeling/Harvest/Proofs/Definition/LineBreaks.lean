import Mathlib
import Harvest.Definition.Basic
import Harvest.Proofs.Text.Split
import Harvest.Proofs.Text.Trim

/-!
# Blanks between lines

The lines of a block depend on the blanks between its visible characters only: where there is a line
break among them a new line begins, and the other blanks do not count; where there is none, the
blanks are part of the line.  Blanks may be left out of a block exactly if each such gap keeps a line
break or, if it has none, all of its blanks.
-/

namespace Harvest.Lines

open Text (isBlank trimChars dropEndWhile)

variable {c d : Char} {cs gap rest : List Char}

/-! ## Lines of characters -/

/-- The characters of the lines of a block. -/
def lineChars (cs : List Char) : List (List Char) :=
  ((cs.splitOn '\n').map trimChars).filter (!·.isEmpty)

theorem ofBlock_eq (block : String) :
    ofBlock block = (lineChars block.toList).map String.ofList := by
  have filled (cs : List Char) : (String.ofList cs).isEmpty = cs.isEmpty := by
    rw [Bool.eq_iff_iff, String.isEmpty_iff, List.isEmpty_iff, ← String.toList_inj]
    simp
  rw [ofBlock, Text.splitAt_eq, lineChars, List.map_map, List.filter_map, List.filter_map,
    List.map_map]
  simp [Function.comp_def, Text.trim, filled]

theorem ofBlock_eq_iff {first second : String} :
    ofBlock first = ofBlock second ↔ lineChars first.toList = lineChars second.toList := by
  rw [ofBlock_eq, ofBlock_eq]
  exact (List.map_injective_iff.mpr fun _ _ => String.ofList_injective).eq_iff

theorem lineChars_append (first second : List Char) :
    lineChars (first ++ '\n' :: second) = lineChars first ++ lineChars second := by
  rw [lineChars, List.splitOn_append_cons_self, List.map_append, List.filter_append]
  rfl

theorem lineChars_of_not_mem (single : '\n' ∉ cs) :
    lineChars cs = if trimChars cs = [] then [] else [trimChars cs] := by
  rw [lineChars, List.splitOn_eq_singleton single, List.map_singleton, List.filter_singleton]
  cases trimChars cs <;> rfl

/-- A text is one line, or has a first line break. -/
theorem exists_break (cs : List Char) :
    '\n' ∉ cs ∨ ∃ first second, cs = first ++ '\n' :: second ∧ '\n' ∉ first := by
  by_cases member : '\n' ∈ cs
  · exact .inr (List.eq_append_cons_of_mem member)
  · exact .inl member

theorem lineChars_cons_of_blank (blank : isBlank c = true) : lineChars (c :: cs) = lineChars cs := by
  have trimmed (cs : List Char) : trimChars (c :: cs) = trimChars cs := by
    rw [trimChars, List.dropWhile_cons_of_pos blank, trimChars]
  by_cases newline : c = '\n'
  · subst newline
    exact lineChars_append [] cs
  · rcases exists_break cs with single | ⟨first, second, rfl, single⟩
    · have longer := List.not_mem_cons_of_ne_of_not_mem (Ne.symm newline) single
      rw [lineChars_of_not_mem single, lineChars_of_not_mem longer, trimmed]
    · have longer := List.not_mem_cons_of_ne_of_not_mem (Ne.symm newline) single
      rw [← List.cons_append, lineChars_append, lineChars_append, lineChars_of_not_mem single,
        lineChars_of_not_mem longer, trimmed]

theorem lineChars_append_of_blank (blank : ∀ c ∈ gap, isBlank c = true) :
    lineChars (gap ++ cs) = lineChars cs := by
  induction gap with
  | nil => rfl
  | cons c gap ih =>
      rw [List.cons_append, lineChars_cons_of_blank (blank c (.head gap)),
        ih fun d member => blank d (.tail c member)]

/-! ## A visible character and what follows it -/

theorem trimChars_cons (visible : isBlank c = false) (cs : List Char) :
    trimChars (c :: cs) = c :: dropEndWhile isBlank cs := by
  rw [trimChars, List.dropWhile_cons_of_neg (by simp [visible]), dropEndWhile]
  cases dropEndWhile isBlank cs <;> simp [visible]

theorem dropEndWhile_of_blank (blank : ∀ c ∈ gap, isBlank c = true) :
    dropEndWhile isBlank gap = [] := by
  rw [Text.dropEndWhile_eq, List.rdropWhile_eq_nil_iff]
  exact blank

theorem dropEndWhile_append (visible : isBlank d = false) (front rest : List Char) :
    dropEndWhile isBlank (front ++ d :: rest) = front ++ d :: dropEndWhile isBlank rest := by
  induction front with
  | nil =>
      rw [List.nil_append, dropEndWhile, List.nil_append]
      cases dropEndWhile isBlank rest <;> simp [visible]
  | cons c front ih =>
      rw [List.cons_append, dropEndWhile, ih]
      cases front <;> rfl

theorem ne_newline (visible : isBlank c = false) : '\n' ≠ c := by
  rintro rfl
  cases visible

/-- Behind the last visible character, blanks do not count. -/
theorem lineChars_last (visible : isBlank c = false) (blank : ∀ g ∈ gap, isBlank g = true) :
    lineChars (c :: gap) = [[c]] := by
  have alone {gap : List Char} (blank : ∀ g ∈ gap, isBlank g = true) (single : '\n' ∉ gap) :
      lineChars (c :: gap) = [[c]] := by
    have longer := List.not_mem_cons_of_ne_of_not_mem (ne_newline visible) single
    rw [lineChars_of_not_mem longer, trimChars_cons visible, dropEndWhile_of_blank blank]
    rfl
  rcases exists_break gap with single | ⟨first, second, rfl, single⟩
  · exact alone blank single
  · obtain ⟨before, after⟩ := List.forall_mem_append.mp blank
    have nothing : lineChars second = lineChars [] := by
      rw [← List.append_nil second]
      exact lineChars_append_of_blank fun g member => after g (.tail _ member)
    rw [← List.cons_append, lineChars_append, alone before single, nothing]
    rfl

/-- A line ends where there is a line break between two visible characters. -/
theorem lineChars_break (visible : isBlank c = false) (blank : ∀ g ∈ gap, isBlank g = true)
    (newline : '\n' ∈ gap) (rest : List Char) :
    lineChars (c :: (gap ++ rest)) = [c] :: lineChars rest := by
  obtain ⟨first, second, rfl⟩ := List.append_of_mem newline
  obtain ⟨before, after⟩ := List.forall_mem_append.mp blank
  have whole : c :: (first ++ '\n' :: second ++ rest) =
      (c :: first) ++ '\n' :: (second ++ rest) := by simp
  rw [whole, lineChars_append, lineChars_last visible before,
    lineChars_append_of_blank fun g member => after g (.tail _ member)]
  rfl

/-- Where there is no line break between two visible characters, all blanks are part of the line. -/
theorem exists_lineChars_join (visible : isBlank c = false) (visible' : isBlank d = false)
    (single : '\n' ∉ gap) (rest : List Char) :
    ∃ line lines, lineChars (d :: rest) = (d :: line) :: lines ∧
      lineChars (c :: (gap ++ d :: rest)) = (c :: (gap ++ d :: line)) :: lines := by
  have alone {rest : List Char} (unbroken : '\n' ∉ rest) :
      lineChars (d :: rest) = [d :: dropEndWhile isBlank rest] ∧
        lineChars (c :: (gap ++ d :: rest)) = [c :: (gap ++ d :: dropEndWhile isBlank rest)] := by
    have shorter := List.not_mem_cons_of_ne_of_not_mem (ne_newline visible') unbroken
    have longer : '\n' ∉ c :: (gap ++ d :: rest) := List.not_mem_cons_of_ne_of_not_mem
      (ne_newline visible) (List.not_mem_append single shorter)
    constructor
    · rw [lineChars_of_not_mem shorter, trimChars_cons visible']
      rfl
    · rw [lineChars_of_not_mem longer, trimChars_cons visible, dropEndWhile_append visible']
      rfl
  rcases exists_break rest with unbroken | ⟨first, second, rfl, unbroken⟩
  · exact ⟨_, [], (alone unbroken).1, (alone unbroken).2⟩
  · refine ⟨dropEndWhile isBlank first, lineChars second, ?_, ?_⟩
    · rw [← List.cons_append, lineChars_append, (alone unbroken).1]
      rfl
    · have whole : c :: (gap ++ d :: (first ++ '\n' :: second)) =
          c :: (gap ++ d :: first) ++ '\n' :: second := by simp
      rw [whole, lineChars_append, (alone unbroken).2]
      rfl

/-! ## Blanks that are left out -/

/-- Whether blanks between two visible characters keep a line break, or all of themselves if there is
none among them; each stands with whether it is kept. -/
def KeepsGap (gap : List (Char × Bool)) : Prop :=
  if '\n' ∈ gap.map Prod.fst then ('\n', true) ∈ gap else ∀ g ∈ gap, g.2 = true

/-- Whether all blanks between two visible characters keep what counts of them. -/
def KeepsLines (marked : List (Char × Bool)) : Prop :=
  ∀ c gap d, c :: (gap ++ [d]) <:+: marked → isBlank c.1 = false → isBlank d.1 = false →
    (∀ g ∈ gap, isBlank g.1 = true) → KeepsGap gap

section Marked

variable {c d : Char × Bool} {gap marked : List (Char × Bool)}

theorem keepsLines_cons_of_blank (blank : isBlank c.1 = true) :
    KeepsLines (c :: marked) ↔ KeepsLines marked := by
  refine ⟨fun keeps c' gap d inside => keeps c' gap d (inside.trans (List.suffix_cons c _).isInfix),
    fun keeps c' gap d inside visible => ?_⟩
  rcases List.infix_cons_iff.mp inside with front | later
  · obtain ⟨rfl, -⟩ := List.cons_prefix_cons.mp front
    rw [blank] at visible
    cases visible
  · exact keeps c' gap d later visible

theorem keepsLines_append_of_blank (blank : ∀ g ∈ gap, isBlank g.1 = true) :
    KeepsLines (gap ++ marked) ↔ KeepsLines marked := by
  induction gap with
  | nil => rfl
  | cons c gap ih =>
      rw [List.cons_append, keepsLines_cons_of_blank (blank c (.head gap)),
        ih fun d member => blank d (.tail c member)]

/-- All characters are blank, or there is a first that is visible. -/
theorem exists_visible (marked : List (Char × Bool)) :
    (∀ m ∈ marked, isBlank m.1 = true) ∨ ∃ gap d rest, marked = gap ++ d :: rest ∧
      (∀ g ∈ gap, isBlank g.1 = true) ∧ isBlank d.1 = false := by
  induction marked with
  | nil => exact .inl (List.forall_mem_nil _)
  | cons m marked ih =>
      cases blank : isBlank m.1 with
      | false => exact .inr ⟨[], m, marked, rfl, List.forall_mem_nil _, blank⟩
      | true =>
          rcases ih with all | ⟨gap, d, rest, rfl, before, visible⟩
          · exact .inl (List.forall_mem_cons.mpr ⟨blank, all⟩)
          · exact .inr ⟨m :: gap, d, rest, rfl, List.forall_mem_cons.mpr ⟨blank, before⟩, visible⟩

/-- Where two visible characters stand apart, the blanks between them are those up to the second. -/
theorem gap_unique {other back : List (Char × Bool)} {d' : Char × Bool}
    (blank : ∀ g ∈ gap, isBlank g.1 = true) (blank' : ∀ g ∈ other, isBlank g.1 = true)
    (visible : isBlank d.1 = false) (visible' : isBlank d'.1 = false)
    (front : other ++ [d'] <+: gap ++ d :: back) : other = gap := by
  induction gap generalizing other with
  | nil =>
      cases other with
      | nil => rfl
      | cons g other =>
          obtain ⟨rfl, -⟩ := List.cons_prefix_cons.mp front
          rw [blank' g (.head other)] at visible
          cases visible
  | cons g gap ih =>
      cases other with
      | nil =>
          obtain ⟨rfl, -⟩ := List.cons_prefix_cons.mp front
          rw [blank d' (.head gap)] at visible'
          cases visible'
      | cons g' other =>
          obtain ⟨rfl, rest⟩ := List.cons_prefix_cons.mp front
          rw [ih (fun x member => blank x (.tail g' member))
            (fun x member => blank' x (.tail g' member)) rest]

theorem keepsLines_gap (visible : isBlank c.1 = false) (visible' : isBlank d.1 = false)
    (blank : ∀ g ∈ gap, isBlank g.1 = true) :
    KeepsLines (c :: (gap ++ d :: marked)) ↔ KeepsGap gap ∧ KeepsLines (d :: marked) := by
  have skipped : KeepsLines (gap ++ d :: marked) ↔ KeepsLines (d :: marked) :=
    keepsLines_append_of_blank blank
  rw [← skipped]
  constructor
  · intro keeps
    refine ⟨keeps c gap d ?_ visible visible' blank, fun c' gap' d' inside =>
      keeps c' gap' d' (inside.trans (List.suffix_cons c _).isInfix)⟩
    exact ⟨[], marked, by simp⟩
  · rintro ⟨here, later⟩ c' gap' d' inside seen seen' blank'
    rcases List.infix_cons_iff.mp inside with front | inside
    · obtain ⟨rfl, behind⟩ := List.cons_prefix_cons.mp front
      rwa [gap_unique blank blank' visible' seen' behind]
    · exact later c' gap' d' inside seen seen' blank'

/-- Behind the last visible character nothing has to be kept. -/
theorem keepsLines_last (blank : ∀ g ∈ gap, isBlank g.1 = true) : KeepsLines (c :: gap) := by
  intro c' gap' d' inside _ seen _
  have later : d' ∈ gap := by
    rcases List.infix_cons_iff.mp inside with front | later
    · obtain ⟨-, behind⟩ := List.cons_prefix_cons.mp front
      exact behind.mem (List.mem_append_right gap' List.mem_cons_self)
    · exact later.mem (.tail c' (List.mem_append_right gap' List.mem_cons_self))
  rw [blank d' later] at seen
  cases seen

end Marked

/-- The characters that are kept. -/
def keptChars (marked : List (Char × Bool)) : List Char := (marked.filter Prod.snd).map Prod.fst

section Kept

variable {m : Char × Bool} {marked : List (Char × Bool)}

theorem keptChars_append (first second : List (Char × Bool)) :
    keptChars (first ++ second) = keptChars first ++ keptChars second := by
  rw [keptChars, List.filter_append, List.map_append]
  rfl

theorem mem_keptChars {c : Char} :
    c ∈ keptChars marked ↔ (c, true) ∈ marked := by
  simp [keptChars]

/-- All characters are kept exactly if each of them is. -/
theorem keptChars_eq_iff :
    keptChars marked = marked.map Prod.fst ↔ ∀ m ∈ marked, m.2 = true := by
  constructor
  · intro same
    have whole : (marked.filter Prod.snd).length = marked.length := by
      rw [← List.length_map Prod.fst, ← keptChars, same, List.length_map]
    exact List.length_filter_eq_length_iff.mp whole
  · intro kept
    rw [keptChars, List.filter_eq_self.mpr kept]

theorem keptChars_subset (marked : List (Char × Bool)) :
    keptChars marked ⊆ marked.map Prod.fst :=
  List.map_subset _ (List.filter_subset_self marked)

theorem keepsGap_iff {gap : List (Char × Bool)} : KeepsGap gap ↔
    if '\n' ∈ gap.map Prod.fst then '\n' ∈ keptChars gap
    else keptChars gap = gap.map Prod.fst := by
  rw [KeepsGap, mem_keptChars, keptChars_eq_iff]

/-- A visible character is kept, if only blanks are left out. -/
theorem keptChars_cons (dropped : m.2 = false → isBlank m.1 = true) (visible : isBlank m.1 = false) :
    keptChars (m :: marked) = m.1 :: keptChars marked := by
  have kept : m.2 = true := by
    by_contra left
    rw [dropped (Bool.eq_false_of_not_eq_true left)] at visible
    cases visible
  rw [keptChars, List.filter_cons_of_pos kept]
  rfl

theorem lineChars_keptChars_cons (blank : isBlank m.1 = true) :
    lineChars (keptChars (m :: marked)) = lineChars (keptChars marked) := by
  rw [keptChars, List.filter_cons]
  split
  · exact lineChars_cons_of_blank blank
  · rfl

end Kept

/-- Two texts that begin with two visible characters, with blanks in between, have the same lines
exactly if the blanks count for the same and the texts from the second character on have the same
lines. -/
theorem lineChars_gap_eq_iff {kept first second : List Char} (visible : isBlank c = false)
    (visible' : isBlank d = false) (blank : ∀ g ∈ gap, isBlank g = true) (fewer : kept ⊆ gap) :
    lineChars (c :: (kept ++ d :: first)) = lineChars (c :: (gap ++ d :: second)) ↔
      (if '\n' ∈ gap then '\n' ∈ kept else kept = gap) ∧
        lineChars (d :: first) = lineChars (d :: second) := by
  have blank' : ∀ g ∈ kept, isBlank g = true := fun g member => blank g (fewer member)
  by_cases broken : '\n' ∈ gap
  · rw [if_pos broken, lineChars_break visible blank broken]
    by_cases stays : '\n' ∈ kept
    · rw [lineChars_break visible blank' stays, List.cons.injEq]
      simp [stays]
    · obtain ⟨line, lines, -, joined⟩ := exists_lineChars_join visible visible' stays first
      simp [joined, stays]
  · rw [if_neg broken]
    obtain ⟨line, lines, here, joined⟩ :=
      exists_lineChars_join visible visible' (fun stays => broken (fewer stays)) first
    obtain ⟨line', lines', here', joined'⟩ :=
      exists_lineChars_join visible visible' broken second
    rw [joined, joined', here, here']
    constructor
    · intro same
      obtain ⟨head, rfl⟩ := List.cons.inj same
      obtain ⟨-, behind⟩ := List.cons.inj head
      obtain ⟨between, behind⟩ := Text.append_cons_cancel blank' blank visible' visible' behind
      exact ⟨between, by rw [behind]⟩
    · rintro ⟨rfl, same⟩
      obtain ⟨head, rfl⟩ := List.cons.inj same
      rw [head]

/-- Blanks can be left out of a block without changing its lines exactly if each gap between visible
characters keeps what counts of it. -/
theorem lineChars_keptChars_iff {marked : List (Char × Bool)}
    (dropped : ∀ m ∈ marked, m.2 = false → isBlank m.1 = true) :
    lineChars (keptChars marked) = lineChars (marked.map Prod.fst) ↔ KeepsLines marked := by
  induction marked with
  | nil =>
      refine iff_of_true rfl fun c gap d inside => ?_
      exact absurd (List.eq_nil_of_infix_nil inside) (List.cons_ne_nil c _)
  | cons m marked ih =>
      obtain ⟨here, later⟩ := List.forall_mem_cons.mp dropped
      have ih := ih later
      cases seen : isBlank m.1 with
      | true =>
          rw [lineChars_keptChars_cons seen, List.map_cons, lineChars_cons_of_blank seen, ih,
            keepsLines_cons_of_blank seen]
      | false =>
          rw [keptChars_cons here seen, List.map_cons]
          rcases exists_visible marked with last | ⟨gap, d, rest, rfl, before, seen'⟩
          · have blank : ∀ g ∈ marked.map Prod.fst, isBlank g = true := List.forall_mem_map.mpr last
            have fewer : ∀ g ∈ keptChars marked, isBlank g = true := fun g member =>
              blank g (keptChars_subset marked member)
            rw [lineChars_last seen blank, lineChars_last seen fewer]
            exact iff_of_true rfl (keepsLines_last last)
          · have blank : ∀ g ∈ gap.map Prod.fst, isBlank g = true := List.forall_mem_map.mpr before
            have fewer : ∀ g ∈ keptChars gap, isBlank g = true := fun g member =>
              blank g (keptChars_subset gap member)
            have next : keptChars (d :: rest) = d.1 :: keptChars rest :=
              keptChars_cons (later d (List.mem_append_right gap List.mem_cons_self)) seen'
            rw [keptChars_append, next, List.map_append, List.map_cons] at ih ⊢
            -- from the next visible character on, the lines are those of all that is behind
            rw [lineChars_append_of_blank fewer, lineChars_append_of_blank blank,
              keepsLines_append_of_blank before] at ih
            rw [lineChars_gap_eq_iff seen seen' blank (keptChars_subset gap), ih,
              keepsLines_gap seen seen' before, keepsGap_iff]

end Harvest.Lines
