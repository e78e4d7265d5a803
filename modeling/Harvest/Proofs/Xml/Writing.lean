import Mathlib
import Harvest.Xml.Event
import Harvest.Proofs.Text.Trim

/-!
# XML that was written

A tree of elements is written with its texts and values escaped, and with any blanks in front of its
tags.  What is read from it are the events of the tree, whatever stands behind it.  Each tag is
longer than a step of reading, so the bound on the steps is never reached.
-/

namespace Harvest.Xml

/-! ## Escaped texts -/

/-- What stands for a character in a text and in the value of an attribute. -/
def escapeChar (c : Char) : List Char :=
  if c = '&' then ['&', 'a', 'm', 'p', ';']
  else if c = '<' then ['&', 'l', 't', ';']
  else if c = '>' then ['&', 'g', 't', ';']
  else if c = '"' then ['&', 'q', 'u', 'o', 't', ';']
  else if c = '\'' then ['&', 'a', 'p', 'o', 's', ';']
  else [c]

def escape (s : String) : List Char := s.toList.flatMap escapeChar

theorem unescapeFrom_escapeChar (c : Char) (cs : List Char) :
    unescapeFrom none (escapeChar c ++ cs) = (unescapeFrom none cs).map (c :: ·) := by
  unfold escapeChar
  split
  · next ampersand => subst ampersand; rfl
  · next plain =>
      split
      · next less => subst less; rfl
      · split
        · next greater => subst greater; rfl
        · split
          · next quote => subst quote; rfl
          · split
            · next apostrophe => subst apostrophe; rfl
            · rw [List.singleton_append, unescapeFrom]
              exact if_neg plain

/-- Replacing entities undoes the escaping. -/
theorem unescape?_escape (s : String) : unescape? (escape s) = some s := by
  have chars (cs : List Char) : unescapeFrom none (cs.flatMap escapeChar) = some cs := by
    induction cs with
    | nil => rfl
    | cons c cs ih => rw [List.flatMap_cons, unescapeFrom_escapeChar, ih, Option.map_some]
  rw [unescape?, escape, chars, Option.map_some, String.ofList_toList]

/-- Whether a character has a meaning of its own in a tag or in front of one. -/
def IsSpecial (c : Char) : Prop := c = '<' ∨ c = '>' ∨ c = '"' ∨ c = '\''

theorem not_isSpecial_of_mem_escape {c : Char} {s : String} (member : c ∈ escape s) :
    ¬IsSpecial c := by
  obtain ⟨d, -, inside⟩ := List.mem_flatMap.mp member
  unfold escapeChar at inside
  unfold IsSpecial
  split_ifs at inside <;> grind

/-! ## Names and attributes -/

/-- A name of an element or an attribute. -/
structure Name where
  text : String
  filled : text.toList ≠ [] := by simp
  letters : ∀ c ∈ text.toList, c.isAlphanum = true := by simp

def Name.chars (name : Name) : List Char := name.text.toList

theorem Name.ofList_chars (name : Name) : String.ofList name.chars = name.text :=
  String.ofList_toList

/-- What a character of a name is not. -/
structure IsPlain (c : Char) : Prop where
  special : ¬IsSpecial c
  blank : isBlank c = false
  equals : c ≠ '='
  slash : c ≠ '/'
  mark : c ≠ '!' ∧ c ≠ '?'

theorem Name.isPlain (name : Name) : ∀ c ∈ name.chars, IsPlain c := by
  intro c member
  have letter := name.letters c member
  have other {d : Char} (unlike : d.isAlphanum = false) : c ≠ d := by
    rintro rfl
    rw [letter] at unlike
    cases unlike
  refine ⟨?_, ?_, other (by decide), other (by decide), other (by decide), other (by decide)⟩
  · rintro (rfl | rfl | rfl | rfl) <;> exact absurd letter (by decide)
  · simp [isBlank, other (d := ' ') (by decide), other (d := '\r') (by decide),
      other (d := '\n') (by decide), other (d := '\t') (by decide)]

/-- An attribute as it is written behind the name of a tag. -/
def attributeChars (a : Name × String) : List Char :=
  ' ' :: a.1.chars ++ '=' :: '"' :: escape a.2 ++ ['"']

/-- What is read of attributes. -/
def Attributes.of : List (Name × String) → Attributes
  | [] => .done
  | (name, value) :: as => .next name.text (escape value) (of as)

theorem tag?_append {cs rest inside after : List Char} (plain : ∀ c ∈ cs, ¬IsSpecial c)
    (read : tag? none rest = some (inside, after)) :
    tag? none (cs ++ rest) = some (cs ++ inside, after) := by
  induction cs with
  | nil => exact read
  | cons c cs ih =>
      obtain ⟨here, later⟩ := List.forall_mem_cons.mp plain
      simp only [IsSpecial, not_or] at here
      obtain ⟨-, ends, double, single⟩ := here
      have quotes : ¬(c = '"' || c = '\'') = true := by simp [double, single]
      rw [List.cons_append, tag?]
      dsimp only
      rw [if_neg ends, if_neg quotes, ih later]
      rfl

theorem tag?_quoted {cs rest inside after : List Char} (within : ∀ c ∈ cs, ¬IsSpecial c)
    (read : tag? none rest = some (inside, after)) :
    tag? (some '"') (cs ++ '"' :: rest) = some (cs ++ '"' :: inside, after) := by
  induction cs with
  | nil =>
      rw [List.nil_append, tag?]
      dsimp only
      rw [if_pos rfl, read]
      rfl
  | cons c cs ih =>
      obtain ⟨here, later⟩ := List.forall_mem_cons.mp within
      have open' : c ≠ '"' := fun quote => here (.inr (.inr (.inl quote)))
      rw [List.cons_append, tag?]
      dsimp only
      rw [if_neg open', ih later]
      rfl

theorem tag?_attributeChars (a : Name × String) {rest inside after : List Char}
    (read : tag? none rest = some (inside, after)) :
    tag? none (attributeChars a ++ rest) = some (attributeChars a ++ inside, after) := by
  have value := tag?_quoted (fun _ => not_isSpecial_of_mem_escape (s := a.2)) read
  have quote : tag? none ('"' :: (escape a.2 ++ '"' :: rest)) =
      some ('"' :: (escape a.2 ++ '"' :: inside), after) := by
    rw [tag?]
    dsimp only
    rw [if_neg (by decide), if_pos (by decide), value]
    rfl
  have front : ∀ c ∈ ' ' :: (a.1.chars ++ ['=']), ¬IsSpecial c := by
    intro c member
    rcases List.mem_cons.mp member with rfl | member
    · simp [IsSpecial]
    · rcases List.mem_append.mp member with name | equals
      · exact (a.1.isPlain c name).special
      · rw [List.mem_singleton.mp equals]
        simp [IsSpecial]
  have whole := tag?_append front quote
  simpa [attributeChars] using whole

theorem tag?_attributes (as : List (Name × String)) (rest : List Char) :
    tag? none (as.flatMap attributeChars ++ '>' :: rest) =
      some (as.flatMap attributeChars, rest) := by
  induction as with
  | nil => rfl
  | cons a as ih =>
      rw [List.flatMap_cons, List.append_assoc]
      exact tag?_attributeChars a ih

/-! ## Reading attributes -/

theorem splitAt?_quote {cs : List Char} (within : ∀ c ∈ cs, ¬IsSpecial c) (rest : List Char) :
    splitAt? ['"'] (cs ++ '"' :: rest) = some (cs, rest) := by
  induction cs with
  | nil => rfl
  | cons c cs ih =>
      obtain ⟨here, later⟩ := List.forall_mem_cons.mp within
      have quote : ¬['"'].isPrefixOf (c :: (cs ++ '"' :: rest)) = true := by
        simpa [List.isPrefixOf] using fun same => here (.inr (.inr (.inl (Eq.symm same))))
      rw [List.cons_append, splitAt?, if_neg quote, ih later]
      rfl

/-- The characters in front of the first one that `p` refuses. -/
theorem takeWhile_stop {p : Char → Bool} {cs : List Char} (passes : ∀ c ∈ cs, p c = true)
    {d : Char} (stop : p d = false) (rest : List Char) : (cs ++ d :: rest).takeWhile p = cs := by
  rw [List.takeWhile_append_of_pos passes]
  simp [stop]

theorem dropWhile_stop {p : Char → Bool} {cs : List Char} (passes : ∀ c ∈ cs, p c = true)
    {d : Char} (stop : p d = false) (rest : List Char) :
    (cs ++ d :: rest).dropWhile p = d :: rest := by
  rw [List.dropWhile_append_of_pos passes]
  simp [stop]

theorem Name.exists_chars_eq_cons (name : Name) : ∃ c cs, name.chars = c :: cs :=
  List.exists_cons_of_ne_nil name.filled

theorem attributesFrom_attributeChars (name : Name) (value : String) (fuel : Nat)
    {seen : List String} (fresh : name.text ∉ seen) (rest : List Char) :
    attributesFrom (fuel + 1) seen (attributeChars (name, value) ++ rest) =
      .next name.text (escape value) (attributesFrom fuel (name.text :: seen) rest) := by
  obtain ⟨c, cs, first⟩ := name.exists_chars_eq_cons
  have plain := name.isPlain
  rw [first] at plain
  obtain ⟨here, later⟩ := List.forall_mem_cons.mp plain
  have passes : ∀ d ∈ cs, (!(d = '=' || isBlank d)) = true := fun d member => by
    simp [(later d member).equals, (later d member).blank]
  have word : String.ofList (c :: cs) = name.text := by rw [← first, name.ofList_chars]
  have blank : isBlank ' ' = true := rfl
  have quoted := splitAt?_quote (fun _ => not_isSpecial_of_mem_escape (s := value)) rest
  have begun : (attributeChars (name, value) ++ rest).dropWhile isBlank =
      c :: (cs ++ '=' :: '"' :: (escape value ++ '"' :: rest)) := by
    simp [attributeChars, first, blank, here.blank]
  rw [attributesFrom, begun]
  dsimp only
  rw [takeWhile_stop passes (by rfl), dropWhile_stop passes (by rfl), word]
  have equals : isBlank '=' = false := rfl
  have quote : isBlank '"' = false := rfl
  simp [equals, quote, fresh, quoted]

/-- Attributes with different names are read as they were written. -/
theorem attributesFrom_flatMap {as : List (Name × String)} {seen : List String} {fuel : Nat}
    (distinct : (as.map fun a => a.1.text).Nodup) (fresh : ∀ a ∈ as, a.1.text ∉ seen)
    (enough : (as.flatMap attributeChars).length < fuel) :
    attributesFrom fuel seen (as.flatMap attributeChars) = .of as := by
  induction as generalizing seen fuel with
  | nil =>
      obtain ⟨fuel, rfl⟩ : ∃ n, fuel = n + 1 := ⟨fuel - 1, by omega⟩
      rfl
  | cons a as ih =>
      obtain ⟨name, value⟩ := a
      obtain ⟨fuel, rfl⟩ : ∃ n, fuel = n + 1 := ⟨fuel - 1, by omega⟩
      obtain ⟨here, later⟩ := List.forall_mem_cons.mp fresh
      obtain ⟨once, distinct⟩ := List.nodup_cons.mp distinct
      have others : ∀ b ∈ as, b.1.text ∉ name.text :: seen := by
        intro b member seen
        rcases List.mem_cons.mp seen with same | seen
        · exact once (List.mem_map.mpr ⟨b, member, same⟩)
        · exact later b member seen
      have shorter : (as.flatMap attributeChars).length < fuel := by
        simp only [List.flatMap_cons, List.length_append, attributeChars, List.length_cons] at enough
        omega
      rw [List.flatMap_cons, attributesFrom_attributeChars name value fuel here,
        ih distinct others shorter]
      rfl

theorem attributes_flatMap {as : List (Name × String)}
    (distinct : (as.map fun a => a.1.text).Nodup) : attributes (as.flatMap attributeChars) = .of as :=
  attributesFrom_flatMap distinct (fun _ _ => List.not_mem_nil) (Nat.lt_succ_self _)

/-! ## Elements -/

/-- An element that holds a text, or one that holds elements. -/
inductive Element where
  | leaf (name : Name) (text : Text.Trimmed)
  | node (name : Name) (attributes : List (Name × String)) (content : List Element)

/-- A start tag behind its first character. -/
def startChars (name : Name) (as : List (Name × String)) : List Char :=
  name.chars ++ as.flatMap attributeChars ++ ['>']

/-- An end tag behind its first character. -/
def stopChars (name : Name) : List Char := '/' :: name.chars ++ ['>']

mutual

/-- The characters of an element; `gap n` stands in front of the tags of elements in `n` others. -/
def Element.chars (gap : Nat → List Char) (level : Nat) : Element → List Char
  | .leaf name text =>
      '<' :: startChars name [] ++ (escape text.text ++ '<' :: stopChars name)
  | .node name as content =>
      '<' :: startChars name as ++ (contentChars gap (level + 1) content ++
        (gap level ++ '<' :: stopChars name))

def contentChars (gap : Nat → List Char) (level : Nat) : List Element → List Char
  | [] => []
  | e :: es => gap level ++ e.chars gap level ++ contentChars gap level es

end

/-- The text of an element that stands alone. -/
def Element.document (gap : Nat → List Char) (e : Element) : String :=
  String.ofList (contentChars gap 0 [e] ++ gap 0)

/-- The events of a text in front of a tag. -/
def textEvents (text : List Char) : List Event := if text.isEmpty then [] else [.text text]

mutual

/-- What is read of an element. -/
def Element.events : Element → List Event
  | .leaf name text =>
      .start name.text [] :: (textEvents (escape text.text) ++ [.stop name.text])
  | .node name as content =>
      .start name.text (as.flatMap attributeChars) :: (contentEvents content ++ [.stop name.text])

def contentEvents : List Element → List Event
  | [] => []
  | e :: es => e.events ++ contentEvents es

end

theorem contentEvents_append (es fs : List Element) :
    contentEvents (es ++ fs) = contentEvents es ++ contentEvents fs := by
  induction es with
  | nil => rfl
  | cons e es ih => rw [List.cons_append, contentEvents, contentEvents, ih, List.append_assoc]

/-! ## Tags -/

theorem nameOf_append (name : Name) (as : List (Name × String)) :
    nameOf (name.chars ++ as.flatMap attributeChars) =
      (name.text, as.flatMap attributeChars) := by
  have passes : ∀ c ∈ name.chars, (!isBlank c) = true := fun c member => by
    simp [(name.isPlain c member).blank]
  cases as with
  | nil =>
      rw [List.flatMap_nil, List.append_nil, nameOf, List.takeWhile_eq_self_iff.mpr passes,
        List.dropWhile_eq_nil_iff.mpr passes, name.ofList_chars]
  | cons a as =>
      obtain ⟨tail, front⟩ : ∃ tail, (a :: as).flatMap attributeChars = ' ' :: tail := ⟨_, rfl⟩
      have stop : (!isBlank ' ') = false := rfl
      rw [front, nameOf, takeWhile_stop passes stop, dropWhile_stop passes stop, name.ofList_chars]

theorem getLast?_attributes_ne_slash (name : Name) (as : List (Name × String)) :
    (name.chars ++ as.flatMap attributeChars).getLast? ≠ some '/' := by
  cases as using List.reverseRecOn with
  | nil =>
      intro last
      rw [List.flatMap_nil, List.append_nil] at last
      exact (name.isPlain '/' (List.mem_of_getLast? last)).slash rfl
  | append_singleton as a =>
      rw [List.flatMap_append, List.flatMap_singleton, attributeChars, ← List.append_assoc,
        ← List.append_assoc, List.getLast?_concat]
      decide

/-- A start tag opens its element. -/
theorem markup?_startChars (name : Name) (as : List (Name × String)) (opened : List String)
    (rest : List Char) :
    markup? opened (startChars name as ++ rest) =
      some ([.start name.text (as.flatMap attributeChars)], name.text :: opened, rest) := by
  have read : tag? none (startChars name as ++ rest) =
      some (name.chars ++ as.flatMap attributeChars, rest) := by
    rw [startChars, List.append_assoc, List.append_assoc, List.singleton_append]
    exact tag?_append (fun c member => (name.isPlain c member).special) (tag?_attributes as rest)
  obtain ⟨c, cs, first⟩ := name.exists_chars_eq_cons
  have plain := name.isPlain c (first ▸ List.mem_cons_self)
  obtain ⟨tail, front⟩ : ∃ tail, startChars name as ++ rest = c :: tail := by
    rw [startChars, first]
    exact ⟨_, rfl⟩
  rw [front] at read ⊢
  rw [markup?, read]
  · dsimp only
    rw [if_neg (getLast?_attributes_ne_slash name as), nameOf_append]
  · exact List.cons_ne_nil c tail
  · exact fun _ same => plain.mark.1 (List.cons.inj same).1
  · exact fun _ same => plain.mark.2 (List.cons.inj same).1
  · exact fun _ same => plain.slash (List.cons.inj same).1

theorem not_isSpecial_of_isBlank {c : Char} (blank : isBlank c = true) : ¬IsSpecial c := by
  rintro (rfl | rfl | rfl | rfl) <;> cases blank

theorem stopName_append (name : Name) {blanks : List Char}
    (blank : ∀ c ∈ blanks, isBlank c = true) : stopName (name.chars ++ blanks) = name.chars := by
  have front : name.chars.rdropWhile isBlank = name.chars := by
    rw [List.rdropWhile_eq_self_iff]
    intro filled
    simp [(name.isPlain _ (List.getLast_mem filled)).blank]
  have whole : Text.dropEndWhile isBlank (name.chars ++ blanks) = name.chars := by
    have behind : ∀ c ∈ blanks.reverse, isBlank c = true := fun c member =>
      blank c (List.mem_reverse.mp member)
    rw [Text.dropEndWhile_eq, List.rdropWhile, List.reverse_append,
      List.dropWhile_append_of_pos behind]
    exact front
  obtain ⟨c, cs, first⟩ := name.exists_chars_eq_cons
  rw [stopName, whole, first]

/-- An end tag closes the element that was opened last; it may have blanks behind the name. -/
theorem markup?_stop (name : Name) {blanks : List Char} (blank : ∀ c ∈ blanks, isBlank c = true)
    (opened : List String) (rest : List Char) :
    markup? (name.text :: opened) ('/' :: (name.chars ++ (blanks ++ '>' :: rest))) =
      some ([.stop name.text], opened, rest) := by
  have plain : ∀ c ∈ name.chars ++ blanks, ¬IsSpecial c := List.forall_mem_append.mpr
    ⟨fun c member => (name.isPlain c member).special,
      fun c member => not_isSpecial_of_isBlank (blank c member)⟩
  have read : tag? none (name.chars ++ (blanks ++ '>' :: rest)) =
      some (name.chars ++ blanks, rest) := by
    have ended := tag?_append plain (show tag? none ('>' :: rest) = some ([], rest) from rfl)
    rwa [List.append_nil, List.append_assoc] at ended
  simp only [markup?, read, stopName_append name blank, name.ofList_chars, if_true]

theorem markup?_stopChars (name : Name) (opened : List String) (rest : List Char) :
    markup? (name.text :: opened) (stopChars name ++ rest) =
      some ([.stop name.text], opened, rest) := by
  have chars : stopChars name ++ rest = '/' :: (name.chars ++ ([] ++ '>' :: rest)) := by
    simp [stopChars]
  rw [chars, markup?_stop name (List.forall_mem_nil _)]

/-! ## Events -/

/-- Whether a list neither begins nor ends with a blank. -/
def IsBare (cs : List Char) : Prop :=
  (∀ c ∈ cs.head?, isBlank c = false) ∧ ∀ c ∈ cs.getLast?, isBlank c = false

theorem isBare_nil : IsBare [] := ⟨by simp, by simp⟩

theorem isBlank_unicode {c : Char} (blank : isBlank c = true) : Text.isBlank c = true := by
  simp only [isBlank, Bool.or_eq_true, decide_eq_true_eq] at blank
  obtain ((rfl | rfl) | rfl) | rfl := blank <;> rfl

theorem not_isBlank_of_visible {c : Char} (visible : Text.isBlank c = false) :
    isBlank c = false := by
  by_contra blank
  rw [isBlank_unicode (eq_true_of_ne_false blank)] at visible
  cases visible

/-- The ends of what stands for a character are visible if the character is. -/
theorem ends_escapeChar {c : Char} (visible : isBlank c = false) :
    (∃ d cs, escapeChar c = d :: cs ∧ isBlank d = false) ∧
      ∃ cs d, escapeChar c = cs ++ [d] ∧ isBlank d = false := by
  have entity (cs : List Char) : (∃ d ds, '&' :: (cs ++ [';']) = d :: ds ∧ isBlank d = false) ∧
      ∃ ds d, '&' :: (cs ++ [';']) = ds ++ [d] ∧ isBlank d = false :=
    ⟨⟨_, _, rfl, rfl⟩, '&' :: cs, ';', rfl, rfl⟩
  unfold escapeChar
  split_ifs
  · exact entity ['a', 'm', 'p']
  · exact entity ['l', 't']
  · exact entity ['g', 't']
  · exact entity ['q', 'u', 'o', 't']
  · exact entity ['a', 'p', 'o', 's']
  · exact ⟨⟨c, [], rfl, visible⟩, [], c, rfl, visible⟩

/-- A trimmed text is bare when it is escaped. -/
theorem isBare_escape (text : Text.Trimmed) : IsBare (escape text.text) := by
  obtain ⟨first, last⟩ :=
    Text.trimChars_eq_self_iff.mp (Text.trim_eq_self_iff.mp text.trimmed)
  constructor
  · cases chars : text.text.toList with
    | nil => simp [escape, chars]
    | cons c cs =>
        rw [chars] at first
        obtain ⟨⟨d, ds, front, visible⟩, -⟩ := ends_escapeChar (not_isBlank_of_visible (first c rfl))
        simpa [escape, chars, front] using visible
  · cases chars : text.text.toList using List.reverseRecOn with
    | nil => simp [escape, chars]
    | append_singleton cs c =>
        rw [chars, List.getLast?_concat] at last
        obtain ⟨-, ds, d, back, visible⟩ := ends_escapeChar (not_isBlank_of_visible (last c rfl))
        rw [escape, chars, List.flatMap_append, List.flatMap_singleton, back, ← List.append_assoc,
          List.getLast?_concat]
        rintro _ ⟨⟩
        exact visible

/-- Blanks in front of a text are no part of it. -/
theorem textFront_append {gap text : List Char} (blank : ∀ c ∈ gap, isBlank c = true)
    (bare : IsBare text) (plain : '<' ∉ text) (rest : List Char) :
    textFront (gap ++ (text ++ '<' :: rest)) = (text, '<' :: rest) := by
  have begun : (gap ++ (text ++ '<' :: rest)).dropWhile isBlank = text ++ '<' :: rest := by
    rw [List.dropWhile_append_of_pos blank]
    cases text with
    | nil => rfl
    | cons c cs => rw [List.cons_append, List.dropWhile_cons_of_neg (by simpa using bare.1 c rfl)]
  have passes : ∀ c ∈ text, decide (c ≠ '<') = true := fun c member => by
    simpa using fun same : c = '<' => plain (same ▸ member)
  have stop : decide ('<' ≠ '<') = false := rfl
  have ended : Text.dropEndWhile isBlank text = text := by
    rw [Text.dropEndWhile_eq, List.rdropWhile_eq_self_iff]
    intro filled
    simpa using bare.2 _ (List.getLast?_eq_some_getLast filled)
  rw [textFront, begun, takeWhile_stop passes stop, dropWhile_stop passes stop, ended]

/-- Whether some characters are read as events, which leaves other elements open than before,
whatever stands behind them. -/
def Lexes (opened : List String) (cs : List Char) (es : List Event) (opened' : List String) :
    Prop :=
  ∀ fuel rest, (cs ++ rest).length < fuel →
    ∃ fuel', rest.length < fuel' ∧
      eventsFrom fuel opened (cs ++ rest) = es ++ eventsFrom fuel' opened' rest

theorem Lexes.append {o₁ o₂ o₃ : List String} {cs ds : List Char} {es fs : List Event}
    (first : Lexes o₁ cs es o₂) (second : Lexes o₂ ds fs o₃) :
    Lexes o₁ (cs ++ ds) (es ++ fs) o₃ := by
  intro fuel rest enough
  rw [List.append_assoc] at enough ⊢
  obtain ⟨fuel₁, enough₁, read₁⟩ := first fuel (ds ++ rest) enough
  obtain ⟨fuel₂, enough₂, read₂⟩ := second fuel₁ rest enough₁
  exact ⟨fuel₂, enough₂, by rw [read₁, read₂, List.append_assoc]⟩

theorem Lexes.nil (opened : List String) : Lexes opened [] [] opened :=
  fun fuel _ enough => ⟨fuel, enough, rfl⟩

/-- A tag is read with the text in front of it. -/
theorem lexes_tag {gap text tag : List Char} {opened opened' : List String} {e : Event}
    (blank : ∀ c ∈ gap, isBlank c = true) (bare : IsBare text) (plain : '<' ∉ text)
    (read : ∀ rest, markup? opened (tag ++ rest) = some ([e], opened', rest)) :
    Lexes opened (gap ++ (text ++ '<' :: tag)) (textEvents text ++ [e]) opened' := by
  intro fuel rest enough
  obtain ⟨fuel, rfl⟩ : ∃ n, fuel = n + 1 := ⟨fuel - 1, by omega⟩
  refine ⟨fuel, ?_, ?_⟩
  · simp only [List.length_append, List.length_cons] at enough
    omega
  · have chars : gap ++ (text ++ '<' :: tag) ++ rest = gap ++ (text ++ '<' :: (tag ++ rest)) := by
      simp
    rw [chars, eventsFrom, textFront_append blank bare plain]
    dsimp only
    rw [read]
    rfl

theorem lexes_start {gap : List Char} (blank : ∀ c ∈ gap, isBlank c = true) (name : Name)
    (as : List (Name × String)) (opened : List String) :
    Lexes opened (gap ++ '<' :: startChars name as)
      [.start name.text (as.flatMap attributeChars)] (name.text :: opened) :=
  lexes_tag blank isBare_nil List.not_mem_nil (markup?_startChars name as opened)

theorem lexes_stop {gap : List Char} (blank : ∀ c ∈ gap, isBlank c = true) (name : Name)
    (opened : List String) :
    Lexes (name.text :: opened) (gap ++ '<' :: stopChars name) [.stop name.text] opened :=
  lexes_tag blank isBare_nil List.not_mem_nil (markup?_stopChars name opened)

theorem lexes_text_stop (text : Text.Trimmed) (name : Name) (opened : List String) :
    Lexes (name.text :: opened) (escape text.text ++ '<' :: stopChars name)
      (textEvents (escape text.text) ++ [.stop name.text]) opened := by
  have plain : '<' ∉ escape text.text := fun member => not_isSpecial_of_mem_escape member (.inl rfl)
  exact lexes_tag (List.forall_mem_nil _) (isBare_escape text) plain
    (markup?_stopChars name opened)

variable {gap : Nat → List Char}

mutual

/-- An element is read as its events, and leaves open what was open. -/
theorem Element.lexes (blank : ∀ n, ∀ c ∈ gap n, isBlank c = true) :
    ∀ (e : Element) (level : Nat) (opened : List String),
      Lexes opened (gap level ++ e.chars gap level) e.events opened
  | .leaf name text, level, opened => by
      have read := (lexes_start (blank level) name [] opened).append
        (lexes_text_stop text name opened)
      simpa [Element.chars, Element.events] using read
  | .node name as content, level, opened => by
      have read := (lexes_start (blank level) name as opened).append
        ((lexes_contentChars blank content (level + 1) (name.text :: opened)).append
          (lexes_stop (blank level) name opened))
      simpa [Element.chars, Element.events] using read

theorem lexes_contentChars (blank : ∀ n, ∀ c ∈ gap n, isBlank c = true) :
    ∀ (es : List Element) (level : Nat) (opened : List String),
      Lexes opened (contentChars gap level es) (contentEvents es) opened
  | [], _, opened => Lexes.nil opened
  | e :: es, level, opened =>
      (Element.lexes blank e level opened).append (lexes_contentChars blank es level opened)

end

theorem eventsFrom_blank {cs : List Char} (blank : ∀ c ∈ cs, isBlank c = true) {fuel : Nat}
    (opened : List String) : eventsFrom fuel opened cs = [] := by
  cases fuel with
  | zero => rfl
  | succ fuel =>
      have nothing : textFront cs = ([], []) := by
        rw [textFront, List.dropWhile_eq_nil_iff.mpr blank]
        rfl
      rw [eventsFrom, nothing]
      rfl

theorem events_ofList {cs : List Char} (unmarked : cs.head? ≠ some '\uFEFF') :
    events (String.ofList cs) = eventsFrom (cs.length + 1) [] cs := by
  rw [events, String.toList_ofList]
  split
  · exact absurd rfl unmarked
  · rfl

/-- A document is read as the events of its element. -/
theorem events_document (blank : ∀ n, ∀ c ∈ gap n, isBlank c = true) (e : Element) :
    events (e.document gap) = e.events := by
  obtain ⟨inside, chars⟩ : ∃ inside, contentChars gap 0 [e] ++ gap 0 = gap 0 ++ '<' :: inside := by
    cases e <;> exact ⟨_, by simp [contentChars, Element.chars]; rfl⟩
  have unmarked : (contentChars gap 0 [e] ++ gap 0).head? ≠ some '\uFEFF' := by
    rw [chars]
    cases front : gap 0 with
    | nil => simp
    | cons c rest =>
        have first := blank 0 c (front ▸ List.mem_cons_self)
        rintro ⟨⟩
        exact absurd first (by decide)
  obtain ⟨fuel, -, read⟩ := lexes_contentChars blank [e] 0 [] _ (gap 0) (Nat.lt_succ_self _)
  rw [eventsFrom_blank (blank 0), List.append_nil] at read
  rw [Element.document, events_ofList unmarked]
  simpa [contentEvents] using read

end Harvest.Xml
