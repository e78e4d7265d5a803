import Mathlib
import Harvest.Proofs.Xml.Marks

/-!
# XML that is cut off

A text is read from mark to mark, and each mark up to its end.  So what is read of a text that is
cut off is what was read of it up to the last mark that is whole, and behind that at most a part of a
text and a mistake.  End tags always close the element that was opened last, but nothing asks for
them.
-/

namespace Harvest.Xml

/-! ## Events of a text -/

/-- The events of the characters in front of a mark. -/
def gapEvents (gap : List Char) : List Event :=
  textEvents (Text.dropEndWhile isBlank (gap.dropWhile isBlank))

/-- The events of a text in which elements are open, with as many steps as it needs. -/
def eventsOf (opened : List String) (cs : List Char) : List Event :=
  eventsFrom (cs.length + 1) opened cs

section Events

variable {opened opened' : List String} {gap cs rest : List Char} {es : List Event}

theorem not_mem_dropWhile (plain : '<' ∉ gap) : '<' ∉ gap.dropWhile isBlank :=
  fun member => plain ((List.dropWhile_suffix isBlank).subset member)

theorem passes_gap (plain : '<' ∉ gap) : ∀ c ∈ gap, decide (c ≠ '<') = true := by
  intro c member
  rw [decide_eq_true_iff]
  rintro rfl
  exact plain member

theorem textFront_end (plain : '<' ∉ gap) :
    textFront gap = (Text.dropEndWhile isBlank (gap.dropWhile isBlank), []) := by
  have passes := passes_gap (not_mem_dropWhile plain)
  rw [textFront, List.takeWhile_eq_self_iff.mpr passes, List.dropWhile_eq_nil_iff.mpr passes]

theorem textFront_mark (plain : '<' ∉ gap) (cs : List Char) :
    textFront (gap ++ '<' :: cs) =
      (Text.dropEndWhile isBlank (gap.dropWhile isBlank), '<' :: cs) := by
  have passes := passes_gap (not_mem_dropWhile plain)
  have stop : decide ('<' ≠ '<') = false := rfl
  have begun : (gap ++ '<' :: cs).dropWhile isBlank = gap.dropWhile isBlank ++ '<' :: cs := by
    rw [List.dropWhile_append]
    split
    · next empty =>
        rw [List.isEmpty_iff.mp empty, List.dropWhile_cons_of_neg (by decide), List.nil_append]
    · rfl
  rw [textFront, begun, takeWhile_stop passes stop, dropWhile_stop passes stop]

theorem eventsFrom_end (plain : '<' ∉ gap) (fuel : Nat) :
    eventsFrom (fuel + 1) opened gap = gapEvents gap := by
  rw [eventsFrom, textFront_end plain]
  rfl

theorem eventsFrom_broken (plain : '<' ∉ gap) (mistake : markup? opened cs = none) (fuel : Nat) :
    eventsFrom (fuel + 1) opened (gap ++ '<' :: cs) = gapEvents gap ++ [.broken] := by
  rw [eventsFrom, textFront_mark plain]
  dsimp only
  rw [mistake]
  rfl

theorem eventsFrom_mark (plain : '<' ∉ gap) (read : markup? opened cs = some (es, opened', rest))
    (fuel : Nat) : eventsFrom (fuel + 1) opened (gap ++ '<' :: cs) =
      gapEvents gap ++ (es ++ eventsFrom fuel opened' rest) := by
  rw [eventsFrom, textFront_mark plain]
  dsimp only
  rw [read, ← List.append_assoc]
  rfl

/-- A text is a gap, or a gap with a mark behind it. -/
theorem exists_gap (cs : List Char) :
    '<' ∉ cs ∨ ∃ gap rest, cs = gap ++ '<' :: rest ∧ '<' ∉ gap := by
  by_cases member : '<' ∈ cs
  · exact .inr (List.eq_append_cons_of_mem member)
  · exact .inl member

theorem length_lt_of_markup? (read : markup? opened cs = some (es, opened', rest)) :
    rest.length < cs.length := by
  obtain ⟨used, rfl, uses, -⟩ := markup?_uses read
  have filled := List.length_pos_iff.mpr (uses.ne_nil rfl)
  rw [List.length_append]
  omega

/-- More steps than a text is long change nothing. -/
theorem eventsFrom_eq_of_lt {fuel fuel' : Nat} (enough : cs.length < fuel)
    (enough' : cs.length < fuel') : eventsFrom fuel opened cs = eventsFrom fuel' opened cs := by
  induction fuel generalizing fuel' opened cs with
  | zero => exact absurd enough (Nat.not_lt_zero _)
  | succ fuel ih =>
      obtain ⟨fuel', rfl⟩ : ∃ n, fuel' = n + 1 := ⟨fuel' - 1, by omega⟩
      rcases exists_gap cs with plain | ⟨gap, cs, rfl, plain⟩
      · rw [eventsFrom_end plain, eventsFrom_end plain]
      · cases read : markup? opened cs with
        | none => rw [eventsFrom_broken plain read, eventsFrom_broken plain read]
        | some found =>
            obtain ⟨es, opened', rest⟩ := found
            have shorter := length_lt_of_markup? read
            rw [List.length_append, List.length_cons] at enough enough'
            have more : rest.length < fuel := by omega
            have more' : rest.length < fuel' := by omega
            rw [eventsFrom_mark plain read, eventsFrom_mark plain read, ih more more']

theorem eventsOf_end (plain : '<' ∉ gap) : eventsOf opened gap = gapEvents gap :=
  eventsFrom_end plain _

theorem eventsOf_broken (plain : '<' ∉ gap) (mistake : markup? opened cs = none) :
    eventsOf opened (gap ++ '<' :: cs) = gapEvents gap ++ [.broken] :=
  eventsFrom_broken plain mistake _

theorem eventsOf_mark (plain : '<' ∉ gap) (read : markup? opened cs = some (es, opened', rest)) :
    eventsOf opened (gap ++ '<' :: cs) = gapEvents gap ++ (es ++ eventsOf opened' rest) := by
  have shorter := length_lt_of_markup? read
  rw [eventsOf, eventsFrom_mark plain read, eventsOf, eventsFrom_eq_of_lt _ (Nat.lt_succ_self _)]
  rw [List.length_append, List.length_cons]
  omega

/-- What holds of gaps, of gaps with a mistake behind them, and of gaps with a mark if it holds of
what stands behind it, holds of all texts. -/
theorem eventsInduction {motive : List String → List Char → Prop}
    (ended : ∀ opened gap, '<' ∉ gap → motive opened gap)
    (broken : ∀ opened gap cs, '<' ∉ gap → markup? opened cs = none →
      motive opened (gap ++ '<' :: cs))
    (mark : ∀ opened gap cs es opened' rest, '<' ∉ gap →
      markup? opened cs = some (es, opened', rest) → motive opened' rest →
      motive opened (gap ++ '<' :: cs))
    (opened : List String) (cs : List Char) : motive opened cs := by
  induction length : cs.length using Nat.strong_induction_on generalizing opened cs with
  | _ n ih =>
      rcases exists_gap cs with plain | ⟨gap, cs, rfl, plain⟩
      · exact ended opened cs plain
      · cases read : markup? opened cs with
        | none => exact broken opened gap cs plain read
        | some found =>
            obtain ⟨es, opened', rest⟩ := found
            have shorter := length_lt_of_markup? read
            rw [List.length_append, List.length_cons] at length
            exact mark opened gap cs es opened' rest plain read
              (ih rest.length (by omega) opened' rest rfl)

/-! ## End tags -/

theorem nested_append {fs : List Event} :
    Nested opened (es ++ fs) ↔ Nested opened es ∧ Nested (es.foldl Event.leaves opened) fs := by
  induction es generalizing opened with
  | nil => simp [Nested]
  | cons e es ih => rw [List.cons_append, Nested, Nested, ih, List.foldl_cons, and_assoc]

/-- Only texts stand in a gap. -/
theorem eq_text_of_mem_gapEvents {e : Event} (member : e ∈ gapEvents gap) :
    ∃ chars, e = .text chars := by
  rw [gapEvents, textEvents] at member
  split at member
  · cases member
  · exact ⟨_, List.mem_singleton.mp member⟩

theorem leaves_gapEvents : (gapEvents gap).foldl Event.leaves opened = opened := by
  rw [gapEvents, textEvents]
  split <;> rfl

theorem nested_gapEvents : Nested opened (gapEvents gap) := by
  rw [gapEvents, textEvents]
  split
  · trivial
  · exact ⟨trivial, trivial⟩

/-- Each end tag closes the element that was opened last. -/
theorem nested_eventsOf (opened : List String) (cs : List Char) :
    Nested opened (eventsOf opened cs) := by
  induction opened, cs using eventsInduction with
  | ended opened gap plain =>
      rw [eventsOf_end plain]
      exact nested_gapEvents
  | broken opened gap cs plain mistake =>
      rw [eventsOf_broken plain mistake, nested_append]
      exact ⟨nested_gapEvents, trivial, trivial⟩
  | mark opened gap cs es opened' rest plain read ih =>
      rw [eventsOf_mark plain read, nested_append, nested_append, leaves_gapEvents]
      obtain ⟨used, -, -, ⟨rfl, rfl⟩ | ⟨e, rfl, -, rfl, fits⟩⟩ := markup?_uses read
      · exact ⟨nested_gapEvents, trivial, ih⟩
      · exact ⟨nested_gapEvents, ⟨fits, trivial⟩, ih⟩

/-! ## Fronts -/

/-- Whether a front of a text ends with the mark that is read as `e`: it is read in the same way
whatever stands behind it, and if it is cut off, as a part of what stands before that mark, with at
most a text and a mistake behind it. -/
structure Reaches (opened : List String) (front : List Char) (before : List Event) (e : Event)
    (opened' : List String) : Prop where
  reads : ∀ rest, eventsOf opened (front ++ rest) = before ++ e :: eventsOf opened' rest
  cut : ∀ part, part <+: front → part ≠ front → ∃ es loose,
    eventsOf opened part = es ++ loose ∧ es <+: before ∧ ∀ x ∈ loose, x.isMark = false

theorem isMark_gapEvents : ∀ x ∈ gapEvents gap, x.isMark = false := by
  intro x member
  obtain ⟨chars, rfl⟩ := eq_text_of_mem_gapEvents member
  rfl

/-- What is not a mark is not the one that is looked for. -/
theorem exists_append_of_isMark {ms ns before after : List Event} {e : Event}
    (same : ms ++ ns = before ++ e :: after) (loose : ∀ x ∈ ms, x.isMark = false)
    (mark : e.isMark = true) : ∃ before', before = ms ++ before' ∧ ns = before' ++ e :: after := by
  induction ms generalizing before with
  | nil => exact ⟨before, rfl, same⟩
  | cons m ms ih =>
      cases before with
      | nil =>
          obtain ⟨rfl, -⟩ := List.cons.inj same
          rw [loose m List.mem_cons_self] at mark
          cases mark
      | cons b before =>
          obtain ⟨rfl, rest⟩ := List.cons.inj same
          obtain ⟨before', rfl, found⟩ := ih rest fun x member => loose x (.tail _ member)
          exact ⟨before', rfl, found⟩

/-- What is cut off before the end of a mark has no event of a mark. -/
theorem cut_front {used more part : List Char}
    {a : List Char → List Event × List String × List Char} (plain : '<' ∉ gap)
    (uses : Uses (markup? opened) used a) (begins : part <+: gap ++ '<' :: (used ++ more)) :
    (∀ x ∈ eventsOf opened part, x.isMark = false) ∨
      ∃ more', part = gap ++ '<' :: (used ++ more') ∧ more' <+: more := by
  rcases prefix_append_cases begins with early | ⟨part, rfl, behind⟩
  · have plain' : '<' ∉ part := fun member => plain (early.subset member)
    rw [eventsOf_end plain']
    exact .inl isMark_gapEvents
  · rcases List.prefix_cons_iff.mp behind with rfl | ⟨part, rfl, inside⟩
    · rw [List.append_nil, eventsOf_end plain]
      exact .inl isMark_gapEvents
    · rcases prefix_append_cases inside with early | ⟨more', rfl, rest⟩
      · by_cases whole : part = used
        · subst whole
          exact .inr ⟨[], by rw [List.append_nil], List.nil_prefix⟩
        · rw [eventsOf_broken plain (uses.cut part early whole)]
          refine .inl fun x member => ?_
          rcases List.mem_append.mp member with text | mistake
          · exact isMark_gapEvents x text
          · rw [List.mem_singleton.mp mistake]
            rfl
      · exact .inr ⟨more', rfl, rest⟩

/-- A front that ends with the first mark. -/
theorem reaches_first {used : List Char} {e : Event} (plain : '<' ∉ gap)
    (uses : Uses (markup? opened) used fun rest => ([e], opened', rest)) :
    Reaches opened (gap ++ '<' :: used) (gapEvents gap) e opened' where
  reads rest := by
    have whole : gap ++ '<' :: used ++ rest = gap ++ '<' :: (used ++ rest) := by simp
    rw [whole, eventsOf_mark plain (uses.reads rest), List.singleton_append]
  cut part begins other := by
    have inside : part <+: gap ++ '<' :: (used ++ []) := by rwa [List.append_nil]
    rcases cut_front plain uses inside with loose | ⟨more, rfl, nothing⟩
    · exact ⟨[], _, rfl, List.nil_prefix, loose⟩
    · rw [List.prefix_nil.mp nothing, List.append_nil] at other
      exact absurd rfl other

/-- A front with one mark more in front of it. -/
theorem reaches_later {used front : List Char} {before : List Event} {e : Event}
    {opened'' : List String} (plain : '<' ∉ gap)
    (uses : Uses (markup? opened) used fun rest => (es, opened', rest))
    (later : Reaches opened' front before e opened'') :
    Reaches opened (gap ++ '<' :: (used ++ front)) (gapEvents gap ++ (es ++ before)) e
      opened'' where
  reads rest := by
    have whole :
        gap ++ '<' :: (used ++ front) ++ rest = gap ++ '<' :: (used ++ (front ++ rest)) := by
      simp
    rw [whole, eventsOf_mark plain (uses.reads _), later.reads]
    simp only [List.append_assoc]
  cut part begins other := by
    rcases cut_front plain uses begins with loose | ⟨more, rfl, inside⟩
    · exact ⟨[], _, rfl, List.nil_prefix, loose⟩
    · have shorter : more ≠ front := fun same => other (by rw [same])
      obtain ⟨fs, loose, read, part, only⟩ := later.cut more inside shorter
      refine ⟨gapEvents gap ++ (es ++ fs), loose, ?_, ?_, only⟩
      · rw [eventsOf_mark plain (uses.reads _), read]
        simp only [List.append_assoc]
      · exact (List.prefix_append_right_inj _).mpr ((List.prefix_append_right_inj _).mpr part)

/-- For each mark that is read there is a front that ends with it. -/
theorem exists_reaches {before after : List Event} {e : Event}
    (located : eventsOf opened cs = before ++ e :: after) (mark : e.isMark = true) :
    ∃ front rest, cs = front ++ rest ∧
      Reaches opened front before e (e.leaves (before.foldl Event.leaves opened)) := by
  induction opened, cs using eventsInduction generalizing before with
  | ended opened gap plain =>
      rw [eventsOf_end plain, ← List.append_nil (gapEvents gap)] at located
      obtain ⟨before', -, nothing⟩ := exists_append_of_isMark located isMark_gapEvents mark
      cases before' <;> cases nothing
  | broken opened gap cs plain mistake =>
      rw [eventsOf_broken plain mistake] at located
      obtain ⟨before', -, last⟩ := exists_append_of_isMark located isMark_gapEvents mark
      obtain ⟨rfl, -⟩ : before' = [] ∧ _ := by
        cases before' with
        | nil => exact ⟨rfl, last⟩
        | cons b before' => cases before' <;> cases last
      cases last
      cases mark
  | mark opened gap cs es opened' rest plain read ih =>
      rw [eventsOf_mark plain read] at located
      obtain ⟨before', rfl, behind⟩ := exists_append_of_isMark located isMark_gapEvents mark
      obtain ⟨used, rfl, uses, said⟩ := markup?_uses read
      rw [List.foldl_append, leaves_gapEvents]
      rcases said with ⟨rfl, rfl⟩ | ⟨m, rfl, -, rfl, -⟩
      · obtain ⟨front, rest, rfl, reaches⟩ := ih behind
        exact ⟨gap ++ '<' :: (used ++ front), rest, by simp, reaches_later plain uses reaches⟩
      · cases before' with
        | nil =>
            obtain ⟨rfl, -⟩ := List.cons.inj behind
            rw [List.append_nil]
            exact ⟨gap ++ '<' :: used, rest, by simp, reaches_first plain uses⟩
        | cons b before' =>
            obtain ⟨rfl, later⟩ := List.cons.inj behind
            obtain ⟨front, rest, rfl, reaches⟩ := ih later
            exact ⟨gap ++ '<' :: (used ++ front), rest, by simp, reaches_later plain uses reaches⟩

end Events

/-! ## Texts with a byte order mark -/

section Texts

variable {text : String} {cs : List Char}

theorem events_order_mark (within : text.toList = '\uFEFF' :: cs) :
    events text = eventsOf [] cs := by
  rw [events, within]
  rfl

theorem events_plain (plain : text.toList.head? ≠ some '\uFEFF') :
    events text = eventsOf [] text.toList := by
  rw [events]
  split
  · next cs within => exact absurd (by rw [within, List.head?_cons]) plain
  · rfl

/-- Each end tag of a text closes the element that was opened last. -/
theorem nested_events (text : String) : Nested [] (events text) := by
  by_cases mark : text.toList.head? = some '\uFEFF'
  · obtain ⟨cs, within⟩ := List.head?_eq_some_iff.mp mark
    rw [events_order_mark within]
    exact nested_eventsOf [] cs
  · rw [events_plain mark]
    exact nested_eventsOf [] text.toList

/-- Whether a text ends with the mark that is read as `e`, behind what is read as `before`. -/
structure EndsWith (front : String) (before : List Event) (e : Event) : Prop where
  whole : events front = before ++ [e]
  reads : ∀ text : String, front.toList <+: text.toList → before ++ [e] <+: events text
  cut : ∀ part : String, part.toList <+: front.toList → part ≠ front → ∃ es loose,
    events part = es ++ loose ∧ es <+: before ∧ ∀ x ∈ loose, x.isMark = false

theorem eventsOf_nil (opened : List String) : eventsOf opened [] = [] :=
  eventsOf_end List.not_mem_nil

section Reaches

variable {opened opened' : List String} {front : List Char} {before : List Event} {e : Event}

theorem Reaches.whole (reaches : Reaches opened front before e opened') :
    eventsOf opened front = before ++ [e] := by
  have read := reaches.reads []
  rwa [List.append_nil, eventsOf_nil] at read

theorem Reaches.ne_nil (reaches : Reaches opened front before e opened') : front ≠ [] := by
  rintro rfl
  have read := reaches.whole
  rw [eventsOf_nil] at read
  exact List.append_ne_nil_of_right_ne_nil before (List.cons_ne_nil e []) read.symm

theorem Reaches.endsWith_plain (reaches : Reaches [] front before e opened')
    (plain : front.head? ≠ some '\uFEFF') : EndsWith (String.ofList front) before e := by
  obtain ⟨c, front, rfl⟩ := List.exists_cons_of_ne_nil reaches.ne_nil
  constructor
  · rw [events_plain (by rwa [String.toList_ofList]), String.toList_ofList]
    exact reaches.whole
  · intro text begins
    obtain ⟨rest, within⟩ := begins
    rw [String.toList_ofList] at within
    have plain' : text.toList.head? ≠ some '\uFEFF' := by
      rwa [← within, List.cons_append, List.head?_cons]
    rw [events_plain plain', ← within, reaches.reads]
    exact ⟨_, by rw [List.append_assoc, List.singleton_append]⟩
  · intro part begins other
    rw [String.toList_ofList] at begins
    have plain' : part.toList.head? ≠ some '\uFEFF' := by
      rcases List.prefix_cons_iff.mp begins with nothing | ⟨more, within, -⟩
      · rw [nothing]
        nofun
      · rwa [within, List.head?_cons]
    rw [events_plain plain']
    refine reaches.cut _ begins fun same => other ?_
    rw [← same, String.ofList_toList]

theorem Reaches.endsWith_order_mark (reaches : Reaches [] front before e opened') :
    EndsWith (String.ofList ('\uFEFF' :: front)) before e := by
  constructor
  · rw [events_order_mark String.toList_ofList]
    exact reaches.whole
  · intro text begins
    obtain ⟨rest, within⟩ := begins
    rw [String.toList_ofList, List.cons_append] at within
    rw [events_order_mark within.symm, reaches.reads]
    exact ⟨_, by rw [List.append_assoc, List.singleton_append]⟩
  · intro part begins other
    rw [String.toList_ofList] at begins
    rcases List.prefix_cons_iff.mp begins with nothing | ⟨more, within, begins⟩
    · refine ⟨[], [], ?_, List.nil_prefix, nofun⟩
      rw [events_plain (by rw [nothing]; nofun), nothing]
      rfl
    · rw [events_order_mark within]
      refine reaches.cut more begins fun same => other ?_
      rw [← same, ← within, String.ofList_toList]

end Reaches

/-- For each mark of a text there is a front of the text that ends with it. -/
theorem exists_endsWith {before after : List Event} {e : Event}
    (located : events text = before ++ e :: after) (mark : e.isMark = true) :
    ∃ front : String, front.toList <+: text.toList ∧ EndsWith front before e := by
  by_cases order : text.toList.head? = some '\uFEFF'
  · obtain ⟨cs, within⟩ := List.head?_eq_some_iff.mp order
    rw [events_order_mark within] at located
    obtain ⟨front, rest, rfl, reaches⟩ := exists_reaches located mark
    refine ⟨_, ?_, reaches.endsWith_order_mark⟩
    rw [within, String.toList_ofList]
    exact List.prefix_append ('\uFEFF' :: front) rest
  · rw [events_plain order] at located
    obtain ⟨front, rest, within, reaches⟩ := exists_reaches located mark
    obtain ⟨c, front, rfl⟩ := List.exists_cons_of_ne_nil reaches.ne_nil
    refine ⟨_, ?_, reaches.endsWith_plain ?_⟩
    · rw [within, String.toList_ofList]
      exact List.prefix_append (c :: front) rest
    · rwa [within, List.cons_append, List.head?_cons] at order

/-- Whatever follows a mark of a text, it is read with the elements open that are open behind the
mark. -/
theorem exists_front {before after : List Event} {e : Event}
    (located : events text = before ++ e :: after) (mark : e.isMark = true) :
    ∃ front, front <+: text.toList ∧ ∀ rest,
      events (String.ofList (front ++ rest)) =
        before ++ e :: eventsOf (e.leaves (unclosed before)) rest := by
  by_cases order : text.toList.head? = some '\uFEFF'
  · obtain ⟨cs, within⟩ := List.head?_eq_some_iff.mp order
    rw [events_order_mark within] at located
    obtain ⟨front, rest, rfl, reaches⟩ := exists_reaches located mark
    refine ⟨'\uFEFF' :: front, within ▸ List.prefix_append ('\uFEFF' :: front) rest, fun more => ?_⟩
    rw [List.cons_append, events_order_mark String.toList_ofList]
    exact reaches.reads more
  · rw [events_plain order] at located
    obtain ⟨front, rest, within, reaches⟩ := exists_reaches located mark
    refine ⟨front, within ▸ List.prefix_append front rest, fun more => ?_⟩
    obtain ⟨c, front, rfl⟩ := List.exists_cons_of_ne_nil reaches.ne_nil
    have plain : (String.ofList (c :: front ++ more)).toList.head? ≠ some '\uFEFF' := by
      rwa [String.toList_ofList, List.cons_append, List.head?_cons, ← List.head?_cons,
        ← List.cons_append, ← within]
    rw [events_plain plain, String.toList_ofList]
    exact reaches.reads more

end Texts

end Harvest.Xml
