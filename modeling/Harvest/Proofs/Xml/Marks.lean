import Mathlib
import Harvest.Proofs.Xml.Writing

/-!
# Marks of XML

What begins with a `<` is read up to its end, whatever stands behind it, and is a mistake if the
text ends before.  It gives one event at most.  An end tag is one only for the element that was
opened last.
-/

namespace Harvest.Xml

/-! ## Whole marks -/

/-- A front of two lists together ends in the first of them or behind it. -/
theorem prefix_append_cases {α : Type} {front first second : List α}
    (begins : front <+: first ++ second) :
    front <+: first ∨ ∃ more, front = first ++ more ∧ more <+: second := by
  rcases List.prefix_or_prefix_of_prefix begins (List.prefix_append first second) with
    early | ⟨more, rfl⟩
  · exact .inl early
  · exact .inr ⟨more, rfl, (List.prefix_append_right_inj first).mp begins⟩

/-- Whether `f` reads some characters with the result `a`, whatever stands behind them, and fails if
they are cut off. -/
structure Uses {α : Type} (f : List Char → Option α) (used : List Char) (a : List Char → α) :
    Prop where
  reads : ∀ rest, f (used ++ rest) = some (a rest)
  cut : ∀ front, front <+: used → front ≠ used → f front = none

namespace Uses

variable {α β : Type} {f g : List Char → Option α} {used word : List Char} {a : List Char → α}
  {b : List Char → β} {c : Char}

theorem ne_nil (uses : Uses f used a) (nothing : f [] = none) : used ≠ [] := by
  rintro rfl
  have read := uses.reads []
  rw [List.append_nil, nothing] at read
  cases read

theorem bind (uses : Uses f used a) (next : α → Option β)
    (goes : ∀ rest, next (a rest) = some (b rest)) : Uses (fun cs => (f cs).bind next) used b where
  reads rest := by rw [uses.reads, Option.bind_some, goes]
  cut front begins other := by rw [uses.cut front begins other, Option.bind_none]

theorem map (uses : Uses f used a) (next : α → β) :
    Uses (fun cs => (f cs).map next) used (fun rest => next (a rest)) where
  reads rest := by rw [uses.reads, Option.map_some]
  cut front begins other := by rw [uses.cut front begins other, Option.map_none]

/-- What is read behind a word. -/
theorem behind (uses : Uses g used a) (enter : ∀ cs, f (word ++ cs) = g cs)
    (cut : ∀ front, front <+: word → front ≠ word → f front = none) :
    Uses f (word ++ used) a where
  reads rest := by rw [List.append_assoc, enter, uses.reads]
  cut front begins other := by
    rcases prefix_append_cases begins with early | ⟨front, rfl, inside⟩
    · by_cases whole : front = word
      · subst whole
        have empty : g [] = none :=
          uses.cut [] List.nil_prefix fun nothing => other (by simp [← nothing])
        simpa [empty] using enter []
      · exact cut front early whole
    · rw [enter]
      exact uses.cut front inside fun same => other (by rw [same])

/-- What is read behind a character. -/
theorem cons (uses : Uses g used a) (enter : ∀ cs, f (c :: cs) = g cs) (nothing : f [] = none) :
    Uses f (c :: used) a :=
  uses.behind enter fun front begins other => by
    rcases List.prefix_cons_iff.mp begins with rfl | ⟨rest, rfl, more⟩
    · exact nothing
    · exact absurd (by rw [List.prefix_nil.mp more]) other

/-- A single character that is always read. -/
theorem single (reads : ∀ cs, f (c :: cs) = some (a cs)) (nothing : f [] = none) : Uses f [c] a :=
  cons (g := fun cs => some (a cs))
    ⟨fun _ => rfl, fun _ begins other => absurd (List.prefix_nil.mp begins) other⟩ reads nothing

/-- It is of no account what is done with texts that begin otherwise. -/
theorem congr (uses : Uses g (c :: used) a) (same : ∀ cs, f (c :: cs) = g (c :: cs))
    (nothing : f [] = none) : Uses f (c :: used) a where
  reads rest := by
    rw [List.cons_append, same]
    exact uses.reads rest
  cut front begins other := by
    rcases List.prefix_cons_iff.mp begins with rfl | ⟨rest, rfl, -⟩
    · exact nothing
    · rw [same]
      exact uses.cut _ begins other

end Uses

section Marks

variable {cs a rest : List Char}

theorem splitAt?_of_length_lt {stop : List Char} (short : cs.length < stop.length) :
    splitAt? stop cs = none := by
  induction cs with
  | nil => rfl
  | cons c cs ih =>
      have absent : ¬stop.isPrefixOf (c :: cs) = true := by
        intro begins
        have := (List.isPrefixOf_iff_prefix.mp begins).length_le
        omega
      rw [splitAt?, if_neg absent, ih (Nat.lt_of_succ_lt short), Option.map_none]

theorem splitAt?_cons {stop : List Char} {c : Char} (absent : ¬stop <+: c :: cs) :
    splitAt? stop (c :: cs) = (splitAt? stop cs).map fun found => (c :: found.1, found.2) := by
  rw [splitAt?, if_neg (List.isPrefixOf_iff_prefix.not.mpr absent)]

/-- The end that is looked for is found at once. -/
theorem splitAt?_stop {stop : List Char} (filled : stop ≠ []) :
    Uses (splitAt? stop) stop fun rest => ([], rest) where
  reads rest := by
    obtain ⟨d, ds, rfl⟩ := List.exists_cons_of_ne_nil filled
    have begins : (d :: ds).isPrefixOf (d :: ds ++ rest) = true :=
      List.isPrefixOf_iff_prefix.mpr (List.prefix_append _ _)
    rw [List.cons_append] at begins ⊢
    rw [splitAt?, if_pos begins, ← List.cons_append, List.drop_left]
  cut front part other := by
    refine splitAt?_of_length_lt (lt_of_le_of_ne part.length_le fun same => ?_)
    exact other (part.eq_of_length same)

/-- One character more is read in front of an end, unless an end begins with it. -/
theorem Uses.splitAt?_cons {stop used : List Char} {c : Char}
    (uses : Uses (splitAt? stop) used fun rest => (a, rest)) (enough : stop.length ≤ used.length)
    (absent : ¬stop <+: c :: used) : Uses (splitAt? stop) (c :: used) fun rest => (c :: a, rest) where
  reads rest := by
    have refused : ¬stop <+: c :: (used ++ rest) := by
      intro early
      refine absent (List.prefix_of_prefix_length_le early ⟨rest, rfl⟩ ?_)
      exact Nat.le_succ_of_le enough
    rw [List.cons_append, Xml.splitAt?_cons refused, uses.reads]
    rfl
  cut front part other := by
    rcases List.prefix_cons_iff.mp part with rfl | ⟨front, rfl, inside⟩
    · rfl
    · rw [Xml.splitAt?_cons fun early => absent (early.trans part),
        uses.cut front inside fun same => other (by rw [same])]
      rfl

/-- What stands in front of the first end, with that end. -/
theorem splitAt?_uses {stop : List Char} (filled : stop ≠ [])
    (read : splitAt? stop cs = some (a, rest)) :
    ∃ used, cs = used ++ rest ∧ stop.length ≤ used.length ∧
      Uses (splitAt? stop) used fun rest => (a, rest) := by
  induction cs generalizing a with
  | nil => cases read
  | cons c cs ih =>
      by_cases begins : stop <+: c :: cs
      · obtain ⟨behind, whole⟩ := begins
        rw [← whole, (splitAt?_stop filled).reads] at read
        obtain ⟨rfl, rfl⟩ : [] = a ∧ behind = rest := by simpa using read
        exact ⟨stop, whole.symm, le_rfl, splitAt?_stop filled⟩
      · rw [splitAt?_cons begins] at read
        obtain ⟨⟨a, rest⟩, found, ⟨⟩⟩ := Option.map_eq_some_iff.mp read
        obtain ⟨used, rfl, enough, uses⟩ := ih found
        have absent : ¬stop <+: c :: used := fun early => begins (early.trans ⟨rest, rfl⟩)
        exact ⟨c :: used, rfl, Nat.le_succ_of_le enough, uses.splitAt?_cons enough absent⟩

theorem tag?_uses {quote : Option Char} (read : tag? quote cs = some (a, rest)) :
    ∃ used, cs = used ++ rest ∧ Uses (tag? quote) used fun rest => (a, rest) := by
  induction cs generalizing quote a with
  | nil => cases read
  | cons c cs ih =>
      by_cases ends : quote = none ∧ c = '>'
      · obtain ⟨rfl, rfl⟩ := ends
        obtain ⟨rfl, rfl⟩ : [] = a ∧ cs = rest := by simpa [tag?] using read
        exact ⟨['>'], rfl, .single (fun _ => by simp [tag?]) rfl⟩
      · -- one character more of the tag, behind which another quote may be open
        obtain ⟨quote', step⟩ : ∃ quote', ∀ more, tag? quote (c :: more) =
            (tag? quote' more).map fun found => (c :: found.1, found.2) := by
          cases quote with
          | none =>
              have inside : c ≠ '>' := fun same => ends ⟨rfl, same⟩
              exact ⟨_, fun more => by rw [tag?]; dsimp only; rw [if_neg inside]⟩
          | some q => exact ⟨_, fun more => by rw [tag?]⟩
        rw [step] at read
        obtain ⟨⟨a, rest⟩, found, ⟨⟩⟩ := Option.map_eq_some_iff.mp read
        obtain ⟨used, rfl, uses⟩ := ih found
        exact ⟨c :: used, rfl, (uses.map fun found => (c :: found.1, found.2)).cons step rfl⟩

theorem afterDoctype?_uses {depth : Nat} (read : afterDoctype? depth cs = some (a, rest)) :
    ∃ used, cs = used ++ rest ∧ Uses (afterDoctype? depth) used fun rest => (a, rest) := by
  induction cs generalizing depth a with
  | nil => cases read
  | cons c cs ih =>
      rw [afterDoctype?] at read
      by_cases ends : (c = '>' && depth = 0) = true
      · rw [if_pos ends] at read
        obtain ⟨rfl, rfl⟩ : [] = a ∧ cs = rest := by simpa using read
        exact ⟨[c], rfl, .single (fun _ => by rw [afterDoctype?, if_pos ends]) rfl⟩
      · rw [if_neg ends] at read
        obtain ⟨⟨a, rest⟩, found, ⟨⟩⟩ := Option.map_eq_some_iff.mp read
        obtain ⟨used, rfl, uses⟩ := ih found
        refine ⟨c :: used, rfl, (uses.map fun found => (c :: found.1, found.2)).cons ?_ rfl⟩
        exact fun more => by rw [afterDoctype?, if_neg ends]

/-- What stands for itself behind its keyword. -/
def verbatim? (cs : List Char) : Option (List Event × List Char) :=
  if cs.take 6 == "CDATA[".toList then
    (splitAt? "]]>".toList (cs.drop 6)).map fun (chars, rest) => ([.verbatim chars], rest)
  else none

theorem verbatim?_uses {es : List Event} (read : verbatim? cs = some (es, rest)) :
    ∃ used, cs = used ++ rest ∧ (Uses verbatim? used fun rest => (es, rest)) ∧
      ∃ chars, es = [.verbatim chars] := by
  rw [verbatim?] at read
  by_cases keyword : (cs.take 6 == "CDATA[".toList) = true
  · rw [if_pos keyword] at read
    obtain ⟨⟨chars, rest⟩, found, ⟨⟩⟩ := Option.map_eq_some_iff.mp read
    obtain ⟨used, more, -, uses⟩ := splitAt?_uses (by decide) found
    have front : cs = "CDATA[".toList ++ (used ++ rest) := by
      rw [← more, ← eq_of_beq keyword, List.take_append_drop]
    refine ⟨"CDATA[".toList ++ used, by rw [front, List.append_assoc], ?_, chars, rfl⟩
    refine (uses.map fun found => ([Event.verbatim found.1], found.2)).behind (fun more => ?_) ?_
    · rfl
    · intro front part other
      have absent : ¬(front.take 6 == "CDATA[".toList) = true := by
        intro same
        refine other (part.eq_of_length_le ?_)
        rw [← eq_of_beq same]
        exact (List.take_prefix 6 front).length_le
      rw [verbatim?, if_neg absent]
  · rw [if_neg keyword] at read
    cases read

/-- What stands behind the keyword of a document type. -/
def doctype? (cs : List Char) : Option (List Event × List Char) :=
  if startsWith "doctype" cs then
    (afterDoctype? 0 (cs.drop 7)).bind fun (name, rest) =>
      if name.all isBlank then none else some ([], rest)
  else none

theorem startsWith_doctype_append {word : List Char} (whole : word.length = 7)
    (keyword : startsWith "doctype" word = true) (more : List Char) :
    startsWith "doctype" (word ++ more) = true := by
  have length : "doctype".length = 7 := rfl
  rw [startsWith, length] at keyword ⊢
  rwa [List.take_append_of_le_length whole.ge]

theorem length_of_startsWith_doctype (keyword : startsWith "doctype" cs = true) :
    7 ≤ cs.length := by
  have letters := congrArg List.length (eq_of_beq keyword)
  have length : "doctype".length = 7 := rfl
  have count : "doctype".toList.length = 7 := rfl
  rw [List.length_map, List.length_take, length, count] at letters
  omega

theorem doctype?_uses {es : List Event} (read : doctype? cs = some (es, rest)) :
    ∃ used, cs = used ++ rest ∧ (Uses doctype? used fun rest => (es, rest)) ∧ es = [] := by
  rw [doctype?] at read
  by_cases keyword : startsWith "doctype" cs = true
  · rw [if_pos keyword] at read
    obtain ⟨⟨name, more⟩, found, named⟩ := Option.bind_eq_some_iff.mp read
    obtain ⟨used, behind, uses⟩ := afterDoctype?_uses found
    by_cases blank : name.all isBlank = true
    · simp [blank] at named
    · obtain ⟨rfl, rfl⟩ : [] = es ∧ more = rest := by simpa [blank] using named
      have whole : (cs.take 7).length = 7 :=
        List.length_take_of_le (length_of_startsWith_doctype keyword)
      have written : startsWith "doctype" (cs.take 7) = true := by
        have length : "doctype".length = 7 := rfl
        rw [startsWith, length] at keyword ⊢
        rwa [List.take_take, Nat.min_self]
      refine ⟨cs.take 7 ++ used, ?_, ?_, rfl⟩
      · rw [List.append_assoc, ← behind, List.take_append_drop]
      · refine (uses.bind (fun (name, rest) =>
          if name.all isBlank then none else some ([], rest)) fun rest => if_neg blank).behind ?_ ?_
        · intro more
          rw [doctype?, if_pos (startsWith_doctype_append whole written more),
            List.drop_left' whole]
        · intro front part other
          have absent : ¬startsWith "doctype" front = true := by
            intro early
            refine other (part.eq_of_length_le ?_)
            rw [whole]
            exact length_of_startsWith_doctype early
          rw [doctype?, if_neg absent]
  · rw [if_neg keyword] at read
    cases read

/-- What stands behind the first hyphen of a comment. -/
def comment? (cs : List Char) : Option (List Event × List Char) :=
  match cs with
  | '-' :: rest => (splitAt? "-->".toList rest).map fun (_, rest) => ([], rest)
  | _ => none

theorem declaration?_hyphen (cs : List Char) : declaration? ('-' :: cs) = comment? cs := rfl

theorem declaration?_bracket (cs : List Char) : declaration? ('[' :: cs) = verbatim? cs := rfl

theorem declaration?_other {c : Char} (hyphen : c ≠ '-') (bracket : c ≠ '[') (cs : List Char) :
    declaration? (c :: cs) = doctype? (c :: cs) := by
  rw [declaration?, doctype?]
  · cases afterDoctype? 0 ((c :: cs).drop 7) <;> rfl
  · exact fun _ same => hyphen (List.cons.inj same).1
  · exact fun _ same => bracket (List.cons.inj same).1

theorem comment?_uses {es : List Event} (read : comment? cs = some (es, rest)) :
    ∃ used, cs = used ++ rest ∧ (Uses comment? used fun rest => (es, rest)) ∧ es = [] := by
  rw [comment?.eq_def] at read
  split at read
  · next more =>
      obtain ⟨⟨inside, rest⟩, found, ⟨⟩⟩ := Option.map_eq_some_iff.mp read
      obtain ⟨used, rfl, -, uses⟩ := splitAt?_uses (by decide) found
      exact ⟨'-' :: used, rfl, (uses.map fun found => ([], found.2)).cons (fun _ => rfl) rfl, rfl⟩
  · cases read

/-- A mark that begins with `<!` says nothing, or gives a text that stands for itself. -/
theorem declaration?_uses {es : List Event} (read : declaration? cs = some (es, rest)) :
    ∃ used, cs = used ++ rest ∧ (Uses declaration? used fun rest => (es, rest)) ∧
      (es = [] ∨ ∃ chars, es = [.verbatim chars]) := by
  cases cs with
  | nil => cases read
  | cons c cs =>
      by_cases hyphen : c = '-'
      · subst hyphen
        obtain ⟨used, rfl, uses, silent⟩ := comment?_uses read
        exact ⟨'-' :: used, rfl, uses.cons declaration?_hyphen rfl, .inl silent⟩
      · by_cases bracket : c = '['
        · subst bracket
          obtain ⟨used, rfl, uses, text⟩ := verbatim?_uses read
          exact ⟨'[' :: used, rfl, uses.cons declaration?_bracket rfl, .inr text⟩
        · rw [declaration?_other hyphen bracket] at read
          obtain ⟨used, front, uses, silent⟩ := doctype?_uses read
          obtain ⟨d, used, rfl⟩ := List.exists_cons_of_ne_nil (uses.ne_nil rfl)
          obtain ⟨rfl, rfl⟩ := List.cons.inj front
          exact ⟨c :: used, rfl, uses.congr (declaration?_other hyphen bracket) rfl, .inl silent⟩

end Marks

/-! ## Elements that are open -/

/-- The names of the elements that are open behind an event, the innermost first. -/
def Event.leaves (opened : List String) : Event → List String
  | .start name _ => name :: opened
  | .stop _ => opened.tail
  | _ => opened

/-- The names of the elements that are still open at the end. -/
def unclosed (es : List Event) : List String := es.foldl Event.leaves []

/-- Whether an event is no end tag but that of the element that was opened last. -/
def Event.Fits (opened : List String) : Event → Prop
  | .stop name => opened.head? = some name
  | _ => True

/-- Whether each end tag closes the element that was opened last; `opened` are the names of those
that are open at the beginning. -/
def Nested (opened : List String) : List Event → Prop
  | [] => True
  | e :: es => e.Fits opened ∧ Nested (e.leaves opened) es

/-- Whether an event is a mark, which is read up to its end. -/
def Event.isMark : Event → Bool
  | .text _ => false
  | .broken => false
  | _ => true

/-- What stands behind the slash of an end tag, if `name` is that of the element opened last. -/
def stop? (name : String) (opened : List String) (cs : List Char) :
    Option (List Event × List String × List Char) :=
  (tag? none cs).bind fun (chars, rest) =>
    if String.ofList (stopName chars) = name then some ([.stop name], opened, rest) else none

/-- A start tag, or the tag of an element without content. -/
def start? (opened : List String) (cs : List Char) :
    Option (List Event × List String × List Char) :=
  (tag? none cs).bind fun (chars, rest) =>
    if chars.getLast? = some '/' then
      some ([.alone (nameOf chars.dropLast).1 (nameOf chars.dropLast).2], opened, rest)
    else some ([.start (nameOf chars).1 (nameOf chars).2], (nameOf chars).1 :: opened, rest)

theorem markup?_slash (name : String) (opened : List String) (cs : List Char) :
    markup? (name :: opened) ('/' :: cs) = stop? name opened cs := by
  cases found : tag? none cs with
  | none => simp only [markup?, stop?, found, Option.bind_none]
  | some tag => simp only [markup?, stop?, found, Option.bind_some]

theorem markup?_slash_nil (cs : List Char) : markup? [] ('/' :: cs) = none := by
  cases found : tag? none cs <;> simp only [markup?, found]

theorem markup?_other {c : Char} (mark : c ≠ '!') (question : c ≠ '?') (slash : c ≠ '/')
    (opened : List String) (cs : List Char) :
    markup? opened (c :: cs) = start? opened (c :: cs) := by
  rw [markup?, start?]
  · cases tag? none (c :: cs) with
    | none => rfl
    | some found => rw [Option.bind_some]
  · exact List.cons_ne_nil c cs
  · exact fun _ same => mark (List.cons.inj same).1
  · exact fun _ same => question (List.cons.inj same).1
  · exact fun _ same => slash (List.cons.inj same).1

/-- What stands behind the question mark of an instruction. -/
def instruction? (opened : List String) (cs : List Char) :
    Option (List Event × List String × List Char) :=
  if cs.head? = some '>' then none
  else (splitAt? "?>".toList cs).map fun (_, rest) => ([], opened, rest)

theorem markup?_question (opened : List String) (cs : List Char) :
    markup? opened ('?' :: cs) = instruction? opened cs := rfl

theorem markup?_mark (opened : List String) (cs : List Char) :
    markup? opened ('!' :: cs) = (declaration? cs).map fun (es, rest) => (es, opened, rest) := rfl

section Marks

variable {opened opened' : List String} {cs rest : List Char} {es : List Event}

theorem instruction?_uses (read : instruction? opened cs = some (es, opened', rest)) :
    ∃ used, cs = used ++ rest ∧
      (Uses (instruction? opened) used fun rest => (es, opened', rest)) ∧
      es = [] ∧ opened' = opened := by
  rw [instruction?] at read
  by_cases empty : cs.head? = some '>'
  · rw [if_pos empty] at read
    cases read
  · rw [if_neg empty] at read
    obtain ⟨⟨inside, rest⟩, found, ⟨⟩⟩ := Option.map_eq_some_iff.mp read
    obtain ⟨used, rfl, -, uses⟩ := splitAt?_uses (by decide) found
    obtain ⟨c, used, rfl⟩ := List.exists_cons_of_ne_nil (uses.ne_nil rfl)
    have silent := uses.map fun found => (([] : List Event), opened, found.2)
    exact ⟨c :: used, rfl, silent.congr (fun more => if_neg empty) rfl, rfl, rfl⟩

theorem stop?_uses {name : String} (read : stop? name opened cs = some (es, opened', rest)) :
    ∃ used, cs = used ++ rest ∧ (Uses (stop? name opened) used fun rest => (es, opened', rest)) ∧
      es = [.stop name] ∧ opened' = opened := by
  obtain ⟨⟨chars, rest⟩, found, matching⟩ := Option.bind_eq_some_iff.mp read
  obtain ⟨used, rfl, uses⟩ := tag?_uses found
  by_cases same : String.ofList (stopName chars) = name
  · simp only [if_pos same, Option.some.injEq, Prod.mk.injEq] at matching
    obtain ⟨rfl, rfl, rfl⟩ := matching
    exact ⟨used, rfl, uses.bind _ fun rest => if_pos same, rfl, rfl⟩
  · simp only [if_neg same, reduceCtorEq] at matching

theorem start?_uses (read : start? opened cs = some (es, opened', rest)) :
    ∃ used, cs = used ++ rest ∧ (Uses (start? opened) used fun rest => (es, opened', rest)) ∧
      ∃ e, es = [e] ∧ e.isMark = true ∧ opened' = e.leaves opened ∧ e.Fits opened := by
  obtain ⟨⟨chars, rest⟩, found, made⟩ := Option.bind_eq_some_iff.mp read
  obtain ⟨used, rfl, uses⟩ := tag?_uses found
  by_cases slash : chars.getLast? = some '/'
  · simp only [if_pos slash, Option.some.injEq, Prod.mk.injEq] at made
    obtain ⟨rfl, rfl, rfl⟩ := made
    exact ⟨used, rfl, uses.bind _ fun rest => if_pos slash, _, rfl, rfl, rfl, trivial⟩
  · simp only [if_neg slash, Option.some.injEq, Prod.mk.injEq] at made
    obtain ⟨rfl, rfl, rfl⟩ := made
    exact ⟨used, rfl, uses.bind _ fun rest => if_neg slash, _, rfl, rfl, rfl, trivial⟩

/-- A mark is read up to its end.  It gives one event at most, and an end tag only for the element
that was opened last. -/
theorem markup?_uses (read : markup? opened cs = some (es, opened', rest)) :
    ∃ used, cs = used ++ rest ∧ (Uses (markup? opened) used fun rest => (es, opened', rest)) ∧
      (es = [] ∧ opened' = opened ∨
        ∃ e, es = [e] ∧ e.isMark = true ∧ opened' = e.leaves opened ∧ e.Fits opened) := by
  cases cs with
  | nil => cases read
  | cons c cs =>
      by_cases mark : c = '!'
      · subst mark
        rw [markup?_mark] at read
        obtain ⟨⟨es, rest⟩, found, ⟨⟩⟩ := Option.map_eq_some_iff.mp read
        obtain ⟨used, rfl, uses, said⟩ := declaration?_uses found
        refine ⟨'!' :: used, rfl,
          (uses.map fun found => (found.1, opened, found.2)).cons (markup?_mark opened) rfl, ?_⟩
        rcases said with rfl | ⟨chars, rfl⟩
        · exact .inl ⟨rfl, rfl⟩
        · exact .inr ⟨_, rfl, rfl, rfl, trivial⟩
      · by_cases question : c = '?'
        · subst question
          obtain ⟨used, rfl, uses, silent⟩ := instruction?_uses read
          exact ⟨'?' :: used, rfl, uses.cons (markup?_question opened) rfl, .inl silent⟩
        · by_cases slash : c = '/'
          · subst slash
            cases opened with
            | nil =>
                rw [markup?_slash_nil] at read
                cases read
            | cons name opened =>
                rw [markup?_slash] at read
                obtain ⟨used, rfl, uses, rfl, rfl⟩ := stop?_uses read
                exact ⟨'/' :: used, rfl, uses.cons (markup?_slash name _) rfl,
                  .inr ⟨_, rfl, rfl, rfl, rfl⟩⟩
          · rw [markup?_other mark question slash] at read
            obtain ⟨used, front, uses, made⟩ := start?_uses read
            obtain ⟨d, used, rfl⟩ := List.exists_cons_of_ne_nil (uses.ne_nil rfl)
            obtain ⟨rfl, rfl⟩ := List.cons.inj front
            exact ⟨c :: used, rfl, uses.congr (markup?_other mark question slash opened) rfl,
              .inr made⟩

end Marks

end Harvest.Xml
