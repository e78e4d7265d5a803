import Mathlib
import Harvest.Document.Markup
import Harvest.Proofs.Document.Places
import Harvest.Proofs.Text.Split

/-!
# What raw markup tells of a tree

Each piece of raw markup tells where it ends: a name goes on up to the first character that no name
has, an escaped text has no character of markup in it, and an element ends with the tag that stands
behind its children.  So a tree can be read off its markup, up to the vocabularies and qualifiers of
names, which are not written.
-/

namespace Harvest

/-! ## Trees without qualifiers -/

/-- An attribute, as far as raw markup tells. -/
def Attribute.bare (a : Attribute) : Attribute := { a with qualifier := none }

namespace Tree

/-- What a node is, as far as raw markup tells. -/
def bareContent : Content → Content
  | .element _ name attributes =>
      .element .html name (attributes.map Attribute.bare)
  | content => content

mutual

/-- The tree with all names taken from HTML. -/
def bare : Tree → Tree
  | node content children => node (bareContent content) (bareAll children)

def bareAll : List Tree → List Tree
  | [] => []
  | t :: ts => t.bare :: bareAll ts

end

/-- Whether two siblings are texts. -/
def BothTexts (t u : Tree) : Prop := t.content.isText = true ∧ u.content.isText = true

end Tree

namespace Markup

/-! ## Names -/

/-- Whether a character can stand in a name. -/
def isNameChar (c : Char) : Bool := c.isAlphanum || c = '-'

/-- Whether a name begins with a letter and has no other characters than letters, digits and
hyphens. -/
def IsTagName (name : String) : Prop :=
  name.toList.head?.any Char.isAlpha = true ∧ ∀ c ∈ name.toList, isNameChar c = true

/-- Whether a tree has markup from which it can be read off: no element holds raw text, elements
without an end tag hold nothing, no text is empty or stands beside another, and no comment ends
early. -/
inductive IsPlain : Tree → Prop where
  | text {s : String} (filled : s ≠ "") : IsPlain (.node (.text s) [])
  | comment {s : String} (closed : ¬"-->".toList <:+: s.toList) : IsPlain (.node (.comment s) [])
  | element {vocabulary : Vocabulary} {name : String} {attributes : List Attribute}
      {children : List Tree} (named : IsTagName name)
      (titled : ∀ a ∈ attributes, IsTagName a.name)
      (escaped : name ∉ rawTextElements) (hollow : name ∈ voidElements → children = [])
      (apart : children.IsChain fun t u => ¬t.BothTexts u)
      (inside : ∀ c ∈ children, IsPlain c) :
      IsPlain (.node (.element vocabulary name attributes) children)

theorem IsTagName.exists_cons {name : String} (named : IsTagName name) :
    ∃ c cs, name.toList = c :: cs ∧ c.isAlpha = true := by
  obtain ⟨first, -⟩ := named
  cases chars : name.toList with
  | nil => simp [chars] at first
  | cons c cs => exact ⟨c, cs, rfl, by simpa [chars] using first⟩

/-! ## Pieces that tell where they end -/

/-- Whether what is written for a thing tells where it ends, and what `view` shows of the thing. -/
def Delimits {α β : Type} (write : α → List Char) (view : α → β) (a : α) (b : α) : Prop :=
  ∀ u v, write a ++ u = write b ++ v → view a = view b ∧ u = v

/-- Things one after the other, up to a character with which none of them begins. -/
theorem flatMap_append_cons_cancel {α β : Type} {write : α → List Char} {view : α → β}
    {stop : Char} {as bs : List α} {u v : List Char}
    (delimits : ∀ a ∈ as, ∀ b ∈ bs, Delimits write view a b)
    (starts : ∀ a ∈ as ++ bs, ∃ c cs, write a = c :: cs ∧ c ≠ stop)
    (same : as.flatMap write ++ stop :: u = bs.flatMap write ++ stop :: v) :
    as.map view = bs.map view ∧ u = v := by
  induction as generalizing bs with
  | nil =>
      cases bs with
      | nil => exact ⟨rfl, (List.cons.inj same).2⟩
      | cons b bs =>
          obtain ⟨c, cs, front, other⟩ := starts b (by simp)
          rw [List.flatMap_cons, front] at same
          exact absurd (List.cons.inj same).1.symm other
  | cons a as ih =>
      cases bs with
      | nil =>
          obtain ⟨c, cs, front, other⟩ := starts a (by simp)
          rw [List.flatMap_cons, front] at same
          exact absurd (List.cons.inj same).1 other
      | cons b bs =>
          rw [List.flatMap_cons, List.flatMap_cons, List.append_assoc, List.append_assoc] at same
          obtain ⟨first, rest⟩ := delimits a List.mem_cons_self b List.mem_cons_self _ _ same
          obtain ⟨others, behind⟩ := ih
            (fun x member y member' => delimits x (.tail _ member) y (.tail _ member'))
            (fun x member => starts x (by
              rcases List.mem_append.mp member with left | right
              · simp [left]
              · simp [right]))
            rest
          exact ⟨by rw [List.map_cons, List.map_cons, first, others], behind⟩

/-! ## Escaped characters -/

theorem escapeText_eq (c : Char) :
    (c = '&' ∧ escapeText c = ['&', 'a', 'm', 'p', ';']) ∨
    (c = '<' ∧ escapeText c = ['&', 'l', 't', ';']) ∨
    (c = '>' ∧ escapeText c = ['&', 'g', 't', ';']) ∨
    ('&' ≠ c ∧ c ≠ '<' ∧ escapeText c = [c]) := by
  unfold escapeText
  split
  · exact .inl ⟨rfl, rfl⟩
  · exact .inr (.inl ⟨rfl, rfl⟩)
  · exact .inr (.inr (.inl ⟨rfl, rfl⟩))
  · next ampersand less _ => exact .inr (.inr (.inr ⟨Ne.symm ampersand, less, rfl⟩))

theorem escapeValue_eq (c : Char) :
    (c = '&' ∧ escapeValue c = ['&', 'a', 'm', 'p', ';']) ∨
    (c = '"' ∧ escapeValue c = ['&', 'q', 'u', 'o', 't', ';']) ∨
    ('&' ≠ c ∧ c ≠ '"' ∧ escapeValue c = [c]) := by
  unfold escapeValue
  split
  · exact .inl ⟨rfl, rfl⟩
  · exact .inr (.inl ⟨rfl, rfl⟩)
  · next ampersand quote => exact .inr (.inr ⟨Ne.symm ampersand, quote, rfl⟩)

theorem delimits_escapeText (c d : Char) : Delimits escapeText id c d := by
  intro u v same
  rcases escapeText_eq c with ⟨rfl, e⟩ | ⟨rfl, e⟩ | ⟨rfl, e⟩ | ⟨n, -, e⟩ <;>
    rcases escapeText_eq d with ⟨rfl, f⟩ | ⟨rfl, f⟩ | ⟨rfl, f⟩ | ⟨m, -, f⟩ <;>
    simp_all

theorem delimits_escapeValue (c d : Char) : Delimits escapeValue id c d := by
  intro u v same
  rcases escapeValue_eq c with ⟨rfl, e⟩ | ⟨rfl, e⟩ | ⟨n, -, e⟩ <;>
    rcases escapeValue_eq d with ⟨rfl, f⟩ | ⟨rfl, f⟩ | ⟨m, -, f⟩ <;>
    simp_all

theorem escapeText_start (c : Char) : ∃ d cs, escapeText c = d :: cs ∧ d ≠ '<' := by
  rcases escapeText_eq c with ⟨-, e⟩ | ⟨-, e⟩ | ⟨-, e⟩ | ⟨-, less, e⟩
  · exact ⟨_, _, e, by decide⟩
  · exact ⟨_, _, e, by decide⟩
  · exact ⟨_, _, e, by decide⟩
  · exact ⟨_, _, e, less⟩

theorem escapeValue_start (c : Char) : ∃ d cs, escapeValue c = d :: cs ∧ d ≠ '"' := by
  rcases escapeValue_eq c with ⟨-, e⟩ | ⟨-, e⟩ | ⟨-, quote, e⟩
  · exact ⟨_, _, e, by decide⟩
  · exact ⟨_, _, e, by decide⟩
  · exact ⟨_, _, e, quote⟩

/-- A text ends in front of a tag. -/
theorem text_cancel {s t : String} {u v : List Char}
    (same : s.toList.flatMap escapeText ++ '<' :: u = t.toList.flatMap escapeText ++ '<' :: v) :
    s = t ∧ u = v := by
  obtain ⟨chars, rest⟩ := flatMap_append_cons_cancel
    (fun c _ d _ => delimits_escapeText c d) (fun c _ => escapeText_start c) same
  rw [List.map_id, List.map_id] at chars
  exact ⟨String.toList_injective chars, rest⟩

/-- A value ends in front of a quote. -/
theorem value_cancel {s t : String} {u v : List Char}
    (same : s.toList.flatMap escapeValue ++ '"' :: u = t.toList.flatMap escapeValue ++ '"' :: v) :
    s = t ∧ u = v := by
  obtain ⟨chars, rest⟩ := flatMap_append_cons_cancel
    (fun c _ d _ => delimits_escapeValue c d) (fun c _ => escapeValue_start c) same
  rw [List.map_id, List.map_id] at chars
  exact ⟨String.toList_injective chars, rest⟩

/-! ## Tags and comments -/

/-- An attribute as the raw serializer writes it. -/
def attributeChars (a : Attribute) : List Char :=
  ' ' :: bareTitle a ++ '=' :: '"' :: a.value.toList.flatMap escapeValue ++ ['"']

theorem startTag_append (name : String) (attributes : List Attribute) (u : List Char) :
    startTag bareTitle escapeValue name attributes ++ u =
      '<' :: (name.toList ++ (attributes.flatMap attributeChars ++ '>' :: u)) := by
  have written : startTag bareTitle escapeValue name attributes =
      '<' :: name.toList ++ attributes.flatMap attributeChars ++ ['>'] := rfl
  simp [written]

theorem attributeChars_append (a : Attribute) (u : List Char) :
    attributeChars a ++ u =
      ' ' :: (a.name.toList ++ '=' :: '"' :: (a.value.toList.flatMap escapeValue ++ '"' :: u)) := by
  simp [attributeChars, bareTitle]

theorem delimits_attributeChars {a b : Attribute} (named : IsTagName a.name)
    (named' : IsTagName b.name) :
    Delimits attributeChars Attribute.bare a b := by
  intro u v same
  rw [attributeChars_append, attributeChars_append] at same
  obtain ⟨names, rest⟩ := Text.append_cons_cancel named.2 named'.2 (by decide) (by decide)
    (List.cons.inj same).2
  obtain ⟨values, behind⟩ := value_cancel (List.cons.inj (List.cons.inj rest).2).2
  exact ⟨by rw [Attribute.bare, Attribute.bare, String.toList_injective names, values], behind⟩

/-- Behind the name of a start tag stands no character of a name. -/
theorem exists_stop (attributes : List Attribute) (u : List Char) :
    ∃ c rest, attributes.flatMap attributeChars ++ '>' :: u = c :: rest ∧ isNameChar c = false := by
  cases attributes with
  | nil => exact ⟨'>', u, rfl, by decide⟩
  | cons a attributes => exact ⟨' ', _, rfl, by decide⟩

/-- A start tag ends behind its attributes. -/
theorem startTag_cancel {name other : String} {attributes others : List Attribute}
    {u v : List Char} (named : IsTagName name) (named' : IsTagName other)
    (titled : ∀ a ∈ attributes, IsTagName a.name) (titled' : ∀ a ∈ others, IsTagName a.name)
    (same : startTag bareTitle escapeValue name attributes ++ u =
      startTag bareTitle escapeValue other others ++ v) :
    name = other ∧ attributes.map Attribute.bare = others.map Attribute.bare ∧ u = v := by
  rw [startTag_append, startTag_append] at same
  have behind := (List.cons.inj same).2
  obtain ⟨c, rest, front, stop⟩ := exists_stop attributes u
  obtain ⟨d, rest', front', stop'⟩ := exists_stop others v
  rw [front, front'] at behind
  obtain ⟨names, tags⟩ := Text.append_cons_cancel named.2 named'.2 stop stop' behind
  rw [← front, ← front'] at tags
  obtain ⟨titles, after⟩ := flatMap_append_cons_cancel
    (fun a member b member' => delimits_attributeChars (titled a member) (titled' b member'))
    (fun a _ => ⟨' ', _, rfl, by decide⟩) tags
  exact ⟨String.toList_injective names, titles, after⟩

/-- A text that does not have the end of a comment in it, in front of one, ends in front of the
first. -/
theorem stop_cancel {as bs u v : List Char} (closed : ¬"-->".toList <:+: bs)
    (shorter : as.length ≤ bs.length)
    (same : as ++ "-->".toList ++ u = bs ++ "-->".toList ++ v) : as = bs ∧ u = v := by
  rw [List.append_assoc, List.append_assoc] at same
  obtain ⟨more, rfl⟩ := List.prefix_of_prefix_length_le (List.prefix_append as _)
    (same ▸ List.prefix_append bs _) shorter
  rw [List.append_assoc, List.append_cancel_left_eq] at same
  -- what the second text has more begins like the end of a comment, so it is empty or has it all
  match more, same, closed with
  | [], same, _ =>
      rw [List.nil_append, List.append_cancel_left_eq] at same
      exact ⟨(List.append_nil as).symm, same⟩
  | [_], same, _ => simp at same
  | [_, _], same, _ => simp at same
  | c :: d :: e :: more, same, closed =>
      obtain ⟨rfl, rfl, rfl, -⟩ : '-' = c ∧ '-' = d ∧ '>' = e ∧ u = more ++ "-->".toList ++ v := by
        simpa using same
      exact absurd ⟨as, more, by simp⟩ closed

theorem comment_cancel {s t : String} {u v : List Char} (closed : ¬"-->".toList <:+: s.toList)
    (closed' : ¬"-->".toList <:+: t.toList) (same : commentChars s ++ u = commentChars t ++ v) :
    s = t ∧ u = v := by
  have inside : s.toList ++ "-->".toList ++ u = t.toList ++ "-->".toList ++ v := by
    simpa [commentChars] using same
  rcases Nat.le_total s.toList.length t.toList.length with shorter | longer
  · obtain ⟨chars, rest⟩ := stop_cancel closed' shorter inside
    exact ⟨String.toList_injective chars, rest⟩
  · obtain ⟨chars, rest⟩ := stop_cancel closed longer inside.symm
    exact ⟨(String.toList_injective chars).symm, rest.symm⟩

/-! ## Trees -/

theorem rawChars_element {name : String} (escaped : name ∉ rawTextElements)
    (vocabulary : Vocabulary) (attributes : List Attribute) (children : List Tree) (u : List Char) :
    rawChars false (.node (.element vocabulary name attributes) children) ++ u =
      startTag bareTitle escapeValue name attributes ++
        if name ∈ voidElements then u
        else rawAll false children ++ '<' :: '/' :: (name.toList ++ '>' :: u) := by
  have escapes : rawTextElements.contains name = false := by simpa using escaped
  rw [rawChars, escapes, List.append_assoc]
  by_cases hollow : name ∈ voidElements
  · simp [hollow]
  · simp [hollow, endTag]

/-- A text does not begin like markup. -/
theorem IsPlain.front_of_isText {t : Tree} (plain : IsPlain t) (text : t.content.isText = true) :
    ∃ c cs, rawChars false t = c :: cs ∧ c ≠ '<' := by
  cases plain with
  | @text s filled =>
      cases chars : s.toList with
      | nil => exact absurd (String.toList_eq_nil_iff.mp chars) filled
      | cons c cs =>
          obtain ⟨d, ds, front, other⟩ := escapeText_start c
          refine ⟨d, ds ++ cs.flatMap escapeText, ?_, other⟩
          rw [rawChars, chars]
          simp [front]
  | comment closed => cases text
  | element named titled escaped hollow apart inside => cases text

/-- All else begins with a `<` and a character that tells elements from comments. -/
theorem IsPlain.front {t : Tree} (plain : IsPlain t) (other : t.content.isText = false) :
    ∃ c cs, rawChars false t = '<' :: c :: cs ∧ c ≠ '/' ∧
      (c = '!' ↔ t.content.isComment = true) := by
  cases plain with
  | text filled => cases other
  | comment closed => exact ⟨'!', _, rfl, by decide, by simp [Tree.content, Content.isComment]⟩
  | element named titled escaped hollow apart inside =>
      obtain ⟨c, cs, front, letter⟩ := named.exists_cons
      refine ⟨c, _, by rw [rawChars, startTag, front]; rfl, ?_, ?_⟩
      · rintro rfl
        exact absurd letter (by decide)
      · simp only [Tree.content, Content.isComment, Bool.false_eq_true, iff_false]
        rintro rfl
        exact absurd letter (by decide)

theorem isComment_of_isText {content : Content} (text : content.isText = true) :
    content.isComment = false := by
  cases content with
  | text => rfl
  | _ => cases text

/-- What begins with the markup of a tree begins with that of trees of the same kind only. -/
theorem IsPlain.same_kind {t t' : Tree} {u v : List Char} (plain : IsPlain t) (plain' : IsPlain t')
    (same : rawChars false t ++ u = rawChars false t' ++ v) :
    t.content.isText = t'.content.isText ∧ t.content.isComment = t'.content.isComment := by
  cases text : t.content.isText with
  | true =>
      obtain ⟨c, cs, front, other⟩ := plain.front_of_isText text
      cases text' : t'.content.isText with
      | true => exact ⟨rfl, by rw [isComment_of_isText text, isComment_of_isText text']⟩
      | false =>
          obtain ⟨c', cs', front', -⟩ := plain'.front text'
          rw [front, front'] at same
          exact absurd (List.cons.inj same).1 other
  | false =>
      obtain ⟨c, cs, front, -, mark⟩ := plain.front text
      cases text' : t'.content.isText with
      | true =>
          obtain ⟨c', cs', front', other⟩ := plain'.front_of_isText text'
          rw [front, front'] at same
          exact absurd (List.cons.inj same).1.symm other
      | false =>
          obtain ⟨c', cs', front', -, mark'⟩ := plain'.front text'
          rw [front, front'] at same
          obtain rfl : c = c' := (List.cons.inj (List.cons.inj same).2).1
          exact ⟨rfl, Bool.eq_iff_iff.mpr (mark.symm.trans mark')⟩

/-- Whether a tree can be read off what begins with its markup.  A text needs markup behind it. -/
def Legible (t : Tree) : Prop :=
  ∀ {t' : Tree} {u v : List Char}, IsPlain t' →
    (t.content.isText = true → ∃ rest, u = '<' :: rest) →
    (t'.content.isText = true → ∃ rest, v = '<' :: rest) →
    rawChars false t ++ u = rawChars false t' ++ v → t.bare = t'.bare ∧ u = v

section Siblings

variable {t : Tree} {ts us : List Tree} {u v : List Char}

/-- What stands behind a text among siblings is markup. -/
theorem exists_behind (plain : ∀ c ∈ ts, IsPlain c)
    (apart : (t :: ts).IsChain fun t u => ¬t.BothTexts u) (text : t.content.isText = true) :
    ∃ rest, rawAll false ts ++ '<' :: u = '<' :: rest := by
  cases ts with
  | nil => exact ⟨u, rfl⟩
  | cons next ts =>
      have other : next.content.isText = false := by
        refine eq_false_of_ne_true fun text' => ?_
        exact (List.isChain_cons_cons.mp apart).1 ⟨text, text'⟩
      obtain ⟨c, cs, front, -⟩ := (plain next List.mem_cons_self).front other
      exact ⟨_, by rw [rawAll, front]; rfl⟩

/-- No node begins like an end tag. -/
theorem rawChars_ne_stop (plain : IsPlain t) (u v : List Char) :
    rawChars false t ++ u ≠ '<' :: '/' :: v := by
  intro same
  cases text : t.content.isText with
  | true =>
      obtain ⟨c, cs, front, other⟩ := plain.front_of_isText text
      rw [front] at same
      exact other (List.cons.inj same).1
  | false =>
      obtain ⟨c, cs, front, slash, -⟩ := plain.front text
      rw [front] at same
      exact slash (List.cons.inj (List.cons.inj same).2).1

/-- Siblings can be read off their markup, up to the end tag behind them. -/
theorem rawAll_cancel (each : ∀ c ∈ ts, Legible c) (plain : ∀ c ∈ ts, IsPlain c)
    (plain' : ∀ c ∈ us, IsPlain c) (apart : ts.IsChain fun t u => ¬t.BothTexts u)
    (apart' : us.IsChain fun t u => ¬t.BothTexts u)
    (same : rawAll false ts ++ '<' :: '/' :: u = rawAll false us ++ '<' :: '/' :: v) :
    Tree.bareAll ts = Tree.bareAll us ∧ u = v := by
  induction ts generalizing us with
  | nil =>
      cases us with
      | nil => exact ⟨rfl, (List.cons.inj (List.cons.inj same).2).2⟩
      | cons t' us =>
          rw [rawAll, rawAll, List.append_assoc] at same
          exact absurd same.symm (rawChars_ne_stop (plain' t' List.mem_cons_self) _ _)
  | cons t ts ih =>
      cases us with
      | nil =>
          rw [rawAll, rawAll, List.append_assoc] at same
          exact absurd same (rawChars_ne_stop (plain t List.mem_cons_self) _ _)
      | cons t' us =>
          obtain ⟨here, rest⟩ := List.forall_mem_cons.mp plain
          obtain ⟨here', rest'⟩ := List.forall_mem_cons.mp plain'
          rw [rawAll, rawAll, List.append_assoc, List.append_assoc] at same
          obtain ⟨first, behind⟩ := each t List.mem_cons_self here'
            (exists_behind rest apart) (exists_behind rest' apart') same
          obtain ⟨others, after⟩ := ih (fun c member => each c (.tail _ member)) rest rest'
            apart.tail apart'.tail behind
          exact ⟨by rw [Tree.bareAll, Tree.bareAll, first, others], after⟩

end Siblings

/-- Every plain tree can be read off its markup. -/
theorem IsPlain.legible {t : Tree} (plain : IsPlain t) : Legible t := by
  induction plain with
  | @text s filled =>
      intro t' u v plain' behind behind' same
      obtain ⟨kind, -⟩ := (IsPlain.text filled).same_kind plain' same
      obtain ⟨rest, rfl⟩ := behind rfl
      cases plain' with
      | @text s' filled' =>
          obtain ⟨rest', rfl⟩ := behind' rfl
          simp only [rawChars, Bool.false_eq_true, if_false] at same
          obtain ⟨rfl, rfl⟩ := text_cancel same
          exact ⟨rfl, rfl⟩
      | comment closed => cases kind
      | element named titled escaped hollow apart inside => cases kind
  | @comment s closed =>
      intro t' u v plain' _ _ same
      obtain ⟨kind, mark⟩ := (IsPlain.comment closed).same_kind plain' same
      cases plain' with
      | text filled => cases kind
      | @comment s' closed' =>
          rw [rawChars, rawChars] at same
          obtain ⟨rfl, rfl⟩ := comment_cancel closed closed' same
          exact ⟨rfl, rfl⟩
      | element named titled escaped hollow apart inside => cases mark
  | @element vocabulary name attributes children named titled escaped hollow apart inside ih =>
      intro t' u v plain' _ _ same
      obtain ⟨kind, mark⟩ :=
        (IsPlain.element named titled escaped hollow apart inside).same_kind plain' same
      cases plain' with
      | text filled => cases kind
      | comment closed => cases mark
      | @element vocabulary' name' attributes' children' named' titled' escaped' hollow' apart'
          inside' =>
          rw [rawChars_element escaped, rawChars_element escaped'] at same
          obtain ⟨rfl, titles, behind⟩ := startTag_cancel named named' titled titled' same
          by_cases empty : name ∈ voidElements
          · rw [if_pos empty, if_pos empty] at behind
            rw [hollow empty, hollow' empty, Tree.bare, Tree.bare, Tree.bareContent,
              Tree.bareContent, titles]
            exact ⟨rfl, behind⟩
          · rw [if_neg empty, if_neg empty] at behind
            obtain ⟨contents, after⟩ := rawAll_cancel ih inside inside' apart apart' behind
            rw [List.append_cancel_left_eq] at after
            rw [Tree.bare, Tree.bare, Tree.bareContent, Tree.bareContent, titles, contents]
            exact ⟨rfl, (List.cons.inj after).2⟩

mutual

/-- Vocabularies and qualifiers are not written. -/
theorem rawChars_bare (inRaw : Bool) : ∀ t : Tree, rawChars inRaw t.bare = rawChars inRaw t
  | .node (.element _ name attributes) children => by
      have tag : startTag bareTitle escapeValue name (attributes.map Attribute.bare) =
          startTag bareTitle escapeValue name attributes := by
        simp [startTag, List.flatMap_map, Attribute.bare, bareTitle]
      rw [Tree.bare, Tree.bareContent, rawChars, rawChars, tag, rawAll_bareAll]
  | .node (.text _) _ => rfl
  | .node (.comment _) _ => rfl
  | .node .document children => rawAll_bareAll false children
  | .node .fragment children => rawAll_bareAll false children
  | .node (.doctype _) _ => rfl
  | .node (.instruction _ _) _ => rfl

theorem rawAll_bareAll (inRaw : Bool) :
    ∀ ts : List Tree, rawAll inRaw (Tree.bareAll ts) = rawAll inRaw ts
  | [] => rfl
  | t :: ts => by rw [Tree.bareAll, rawAll, rawAll, rawChars_bare, rawAll_bareAll]

end

/-- It is of no account for an element what stands around it. -/
theorem rawChars_of_element {t : Tree} (element : t.content.element?.isSome) (inRaw : Bool) :
    rawChars inRaw t = rawChars false t := by
  obtain ⟨content, children⟩ := t
  cases content with
  | element => rfl
  | _ => cases element

/-- Elements that are written plainly have the same raw markup if and only if they are the same but
for the vocabularies and qualifiers of names; if all names are those of HTML, if and only if they
are the same. -/
theorem raw_eq_iff {t u : Tree} (plain : IsPlain t) (plain' : IsPlain u)
    (element : t.content.element?.isSome) (element' : u.content.element?.isSome)
    (inRaw inRaw' : Bool) :
    (t.markup .raw inRaw = u.markup .raw inRaw' ↔ t.bare = u.bare) ∧
    (t.bare = t → u.bare = u → (t.markup .raw inRaw = u.markup .raw inRaw' ↔ t = u)) := by
  have written : t.markup .raw inRaw = u.markup .raw inRaw' ↔ t.bare = u.bare := by
    rw [Tree.markup, Tree.markup, rawChars_of_element element, rawChars_of_element element']
    constructor
    · intro same
      have chars : rawChars false t ++ [] = rawChars false u ++ [] := by
        rw [String.ofList_inj.mp same]
      have noText {content : Content} (element : content.element?.isSome) :
          content.isText = true → ∃ rest, ([] : List Char) = '<' :: rest := by
        intro text
        cases content with
        | text => cases element
        | _ => cases text
      exact (plain.legible plain' (noText element) (noText element') chars).1
    · intro same
      rw [← rawChars_bare false t, same, rawChars_bare]
  refine ⟨written, fun own own' => ?_⟩
  rw [written, own, own']

/-- A paragraph with a value that looks like two attributes. -/
def quotedParagraph (children : List Tree) : Tree :=
  .node (.element .html "p" [⟨"title", "a\" id=\"b", none⟩]) children

/-- What looks like an element in a text is written otherwise than the element. -/
theorem raw_eq_iff_quoted :
    IsPlain (quotedParagraph [.node (.text "<b></b>") []]) ∧
    IsPlain (quotedParagraph [.node (.element .html "b" []) []]) ∧
    (quotedParagraph [.node (.text "<b></b>") []]).markup .raw false =
      "<p title=\"a&quot; id=&quot;b\">&lt;b&gt;&lt;/b&gt;</p>" ∧
    (quotedParagraph [.node (.text "<b></b>") []]).markup .raw false ≠
      (quotedParagraph [.node (.element .html "b" []) []]).markup .raw false := by
  have paragraph : "p" ∉ voidElements := by decide
  have outer {c : Tree} (inside : IsPlain c) : IsPlain (quotedParagraph [c]) :=
    .element (by simp [IsTagName, isNameChar]) (by simp [IsTagName, isNameChar]) (by decide)
      (fun empty => absurd empty paragraph) (.singleton c) (by simpa using inside)
  have text : IsPlain (.node (.text "<b></b>") []) := .text (by decide)
  have element : IsPlain (.node (.element .html "b" []) []) :=
    .element (by simp [IsTagName, isNameChar]) (by simp) (by decide) (by decide) .nil (by simp)
  refine ⟨outer text, outer element, by decide, ?_⟩
  rw [ne_eq, (raw_eq_iff (outer text) (outer element) rfl rfl false false).1]
  intro same
  cases same

end Markup

end Harvest
