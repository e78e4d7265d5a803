import Mathlib
import Harvest.Proofs.Text.Trim
import Harvest.Proofs.Xml.Cut

/-!
# Content without elements

Content that has no elements in it is character data, with sections that stand for themselves and
comments in between.  What is read of it are its pieces in their order, without the comments, and
without the blanks at the two ends of each piece of character data, also where another piece stands
beside them.  Sections are read as they are.
-/

namespace Harvest.Xml

/-! ## Entities and blanks -/

theorem ne_of_isBlank {c d : Char} (blank : isBlank c = true) (visible : isBlank d = false) :
    c ≠ d := by
  rintro rfl
  rw [visible] at blank
  cases blank

theorem unescapeFrom_lead {blanks : List Char} (blank : ∀ c ∈ blanks, isBlank c = true)
    (cs : List Char) :
    unescapeFrom none (blanks ++ cs) = (unescapeFrom none cs).map (blanks ++ ·) := by
  induction blanks with
  | nil => simp
  | cons c blanks ih =>
      have ampersand : c ≠ '&' := ne_of_isBlank (blank c (.head _)) rfl
      rw [List.cons_append, unescapeFrom, if_neg ampersand,
        ih fun d member => blank d (.tail c member), Option.map_map]
      rfl

/-- No entity ends among blanks. -/
theorem unescapeFrom_unfinished {blanks : List Char} (blank : ∀ c ∈ blanks, isBlank c = true)
    (name : List Char) : unescapeFrom (some name) blanks = none := by
  induction blanks generalizing name with
  | nil => rfl
  | cons c blanks ih =>
      have semicolon : c ≠ ';' := ne_of_isBlank (blank c (.head _)) rfl
      have ampersand : c ≠ '&' := ne_of_isBlank (blank c (.head _)) rfl
      rw [unescapeFrom, if_neg semicolon, if_neg ampersand,
        ih fun d member => blank d (.tail c member)]

theorem unescapeFrom_trail {blanks : List Char} (blank : ∀ c ∈ blanks, isBlank c = true)
    (name : Option (List Char)) (cs : List Char) :
    unescapeFrom name (cs ++ blanks) = (unescapeFrom name cs).map (· ++ blanks) := by
  induction cs generalizing name with
  | nil =>
      cases name with
      | none => simpa [unescapeFrom] using unescapeFrom_lead blank []
      | some name =>
          rw [List.nil_append, unescapeFrom_unfinished blank, unescapeFrom]
          rfl
  | cons c cs ih =>
      rw [List.cons_append]
      cases name with
      | none =>
          rw [unescapeFrom, unescapeFrom]
          split
          · exact ih _
          · rw [ih, Option.map_map, Option.map_map]
            rfl
      | some read =>
          rw [unescapeFrom, unescapeFrom]
          split
          · split
            · rw [ih, Option.map_map, Option.map_map]
              rfl
            · rfl
          · split
            · rfl
            · exact ih _

/-! ## Character data -/

/-- Characters between two marks, with no other entities than those that are known. -/
structure CharData where
  chars : List Char
  plain : '<' ∉ chars := by decide
  known : (unescape? chars).isSome = true := by decide

namespace CharData

variable (d : CharData)

/-- The blanks in front. -/
def lead : List Char := d.chars.takeWhile isBlank

/-- The characters without the blanks at their ends. -/
def core : List Char := Text.dropEndWhile isBlank (d.chars.dropWhile isBlank)

/-- The blanks behind. -/
def trail : List Char := (d.chars.dropWhile isBlank).rtakeWhile isBlank

/-- What the characters stand for. -/
def text : List Char := (unescapeFrom none d.chars).getD []

/-- What is read of the characters. -/
def kept : List Char := (unescapeFrom none d.core).getD []

/-- What the characters stand for, each with whether it is read. -/
def marked : List (Char × Bool) :=
  d.lead.map (·, false) ++ (d.kept.map (·, true) ++ d.trail.map (·, false))

theorem chars_eq : d.chars = d.lead ++ (d.core ++ d.trail) := by
  rw [lead, core, trail, Text.dropEndWhile_eq, List.rdropWhile_append_rtakeWhile,
    List.takeWhile_append_dropWhile]

theorem isBlank_lead : ∀ c ∈ d.lead, isBlank c = true := fun _ => List.mem_takeWhile_imp

theorem isBlank_trail : ∀ c ∈ d.trail, isBlank c = true := fun _ => List.mem_rtakeWhile_imp

theorem unescapeFrom_chars :
    unescapeFrom none d.chars =
      (unescapeFrom none d.core).map fun cs => d.lead ++ (cs ++ d.trail) := by
  have whole := d.chars_eq
  rw [whole, unescapeFrom_lead d.isBlank_lead, unescapeFrom_trail d.isBlank_trail, Option.map_map]
  rfl

theorem unescape?_core : unescape? d.core = some (String.ofList d.kept) := by
  have known := d.known
  rw [unescape?, unescapeFrom_chars] at known
  rw [unescape?, kept]
  cases read : unescapeFrom none d.core with
  | none => rw [read] at known; cases known
  | some cs => rfl

theorem text_eq : d.text = d.lead ++ (d.kept ++ d.trail) := by
  have known := d.known
  rw [unescape?, unescapeFrom_chars] at known
  rw [text, unescapeFrom_chars, kept]
  cases read : unescapeFrom none d.core with
  | none => rw [read] at known; cases known
  | some cs => rfl

end CharData

/-! ## Pieces -/

/-- What can stand between characters. -/
inductive Insert where
  /-- Characters that stand for themselves. -/
  | verbatim (chars : List Char) (closed : ¬"]]>".toList <:+: chars := by decide)
  | comment (chars : List Char) (closed : ¬"-->".toList <:+: chars := by decide)

namespace Insert

def chars : Insert → List Char
  | .verbatim chars _ => "<![CDATA[".toList ++ (chars ++ "]]>".toList)
  | .comment chars _ => "<!--".toList ++ (chars ++ "-->".toList)

/-- What stands for itself; a comment stands for nothing. -/
def text : Insert → List Char
  | .verbatim chars _ => chars
  | .comment _ _ => []

def events : Insert → List Event
  | .verbatim chars _ => [.verbatim chars]
  | .comment _ _ => []

/-- The first end of a section or a comment is the one that is written, even if some of its characters
stand in front of it. -/
theorem splitAt?_closed {x : Char} (other : x ≠ '>') {cs : List Char}
    (closed : ¬[x, x, '>'] <:+: cs) (rest : List Char) :
    splitAt? [x, x, '>'] (cs ++ ([x, x, '>'] ++ rest)) = some (cs, rest) := by
  induction cs with
  | nil => exact (splitAt?_stop (List.cons_ne_nil _ _)).reads rest
  | cons c cs ih =>
      have later := ih fun inside => closed (inside.trans (List.suffix_cons c cs).isInfix)
      have absent : ¬[x, x, '>'] <+: c :: (cs ++ ([x, x, '>'] ++ rest)) := by
        rintro ⟨more, same⟩
        match cs with
        | [] =>
            simp only [List.nil_append, List.cons_append, List.cons.injEq] at same
            exact other same.2.2.1.symm
        | [d] =>
            simp only [List.nil_append, List.cons_append, List.cons.injEq] at same
            exact other same.2.2.1.symm
        | d :: e :: cs =>
            simp only [List.nil_append, List.cons_append, List.cons.injEq] at same
            obtain ⟨rfl, rfl, rfl, -⟩ := same
            exact closed ⟨[], cs, rfl⟩
      rw [List.cons_append, splitAt?_cons absent, later]
      rfl

theorem exists_markup? (insert : Insert) : ∃ cs, insert.chars = '<' :: cs ∧
    ∀ opened rest, markup? opened (cs ++ rest) = some (insert.events, opened, rest) := by
  cases insert with
  | verbatim chars closed =>
      refine ⟨'!' :: '[' :: ("CDATA[".toList ++ (chars ++ "]]>".toList)), rfl,
        fun opened rest => ?_⟩
      have keyword (cs : List Char) : verbatim? ("CDATA[".toList ++ cs) =
          (splitAt? "]]>".toList cs).map fun found => ([.verbatim found.1], found.2) := rfl
      have ended : splitAt? "]]>".toList (chars ++ ("]]>".toList ++ rest)) = some (chars, rest) :=
        splitAt?_closed (x := ']') (by decide) closed rest
      rw [List.cons_append, markup?_mark, List.cons_append, declaration?_bracket,
        List.append_assoc, List.append_assoc, keyword, ended]
      rfl
  | comment chars closed =>
      refine ⟨'!' :: '-' :: '-' :: (chars ++ "-->".toList), rfl, fun opened rest => ?_⟩
      have keyword (cs : List Char) : comment? ('-' :: cs) =
          (splitAt? "-->".toList cs).map fun found => ([], found.2) := rfl
      have ended : splitAt? "-->".toList (chars ++ ("-->".toList ++ rest)) = some (chars, rest) :=
        splitAt?_closed (x := '-') (by decide) closed rest
      rw [List.cons_append, markup?_mark, List.cons_append, declaration?_hyphen,
        List.cons_append, List.append_assoc, keyword, ended]
      rfl

end Insert

/-- Content without elements. -/
structure Content where
  first : CharData
  more : List (Insert × CharData) := []

namespace Content

variable (content : Content)

def chars : List Char :=
  content.first.chars ++ content.more.flatMap fun (i, d) => i.chars ++ d.chars

/-- What the characters stand for, pieces put together. -/
def text : String :=
  String.ofList (content.first.text ++ content.more.flatMap fun (i, d) => i.text ++ d.text)

/-- What is read of the content. -/
def kept : String :=
  String.ofList (content.first.kept ++ content.more.flatMap fun (i, d) => i.text ++ d.kept)

/-- What the characters stand for, each with whether it is read. -/
def marked : List (Char × Bool) :=
  content.first.marked ++ content.more.flatMap fun (i, d) => i.text.map (·, true) ++ d.marked

def events : List Event :=
  gapEvents content.first.chars ++
    content.more.flatMap fun (i, d) => i.events ++ gapEvents d.chars

theorem marked_text : content.marked.map Prod.fst = content.text.toList := by
  have data (d : CharData) : d.marked.map Prod.fst = d.text := by
    simp [CharData.marked, d.text_eq, Function.comp_def]
  simp [marked, text, List.map_flatMap, data, Function.comp_def]

theorem marked_kept :
    (content.marked.filter Prod.snd).map Prod.fst = content.kept.toList := by
  have data (d : CharData) : (d.marked.filter Prod.snd).map Prod.fst = d.kept := by
    simp [CharData.marked, List.filter_map, Function.comp_def]
  simp [marked, kept, List.map_flatMap, List.filter_flatMap, List.filter_map, data,
    Function.comp_def]

/-- Only blanks are not read. -/
theorem isBlank_of_dropped : ∀ m ∈ content.marked, m.2 = false → isBlank m.1 = true := by
  have data (d : CharData) : ∀ m ∈ d.marked, m.2 = false → isBlank m.1 = true := by
    intro m member dropped
    simp only [CharData.marked, List.mem_append, List.mem_map] at member
    rcases member with ⟨c, inside, rfl⟩ | ⟨c, inside, rfl⟩ | ⟨c, inside, rfl⟩
    · exact d.isBlank_lead c inside
    · cases dropped
    · exact d.isBlank_trail c inside
  intro m member dropped
  rcases List.mem_append.mp member with first | later
  · exact data content.first m first dropped
  · obtain ⟨⟨insert, d⟩, -, inside⟩ := List.mem_flatMap.mp later
    rcases List.mem_append.mp inside with verbatim | beside
    · obtain ⟨c, -, rfl⟩ := List.mem_map.mp verbatim
      cases dropped
    · exact data d m beside dropped

/-- The content is read up to the mark behind it. -/
theorem eventsOf_append {opened opened' : List String} {tail back : List Char} {es : List Event}
    (closes : markup? opened tail = some (es, opened', back)) :
    eventsOf opened (content.chars ++ '<' :: tail) =
      content.events ++ (es ++ eventsOf opened' back) := by
  obtain ⟨first, more⟩ := content
  induction more generalizing first with
  | nil =>
      simp only [chars, events, List.flatMap_nil, List.append_nil]
      exact eventsOf_mark first.plain closes
  | cons m more ih =>
      obtain ⟨insert, d⟩ := m
      obtain ⟨cs, begins, read⟩ := insert.exists_markup?
      have later := ih d
      simp only [chars, events, List.flatMap_cons, List.append_assoc] at later ⊢
      rw [begins, List.cons_append, eventsOf_mark first.plain (read opened _), later]

end Content

end Harvest.Xml
