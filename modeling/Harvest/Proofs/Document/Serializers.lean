import Mathlib
import Harvest.Document.Markup
import Harvest.Proofs.Document.Places

/-!
# Where the serializers agree

The raw serializer differs from the standard one in the vocabularies and qualifiers that it does not
look at, in four elements without an end tag, in what such elements hold, and in the no-break space.
Where nothing of this occurs they write the same.
-/

namespace Harvest.Markup

/-- The elements that only the standard serializer writes without an end tag. -/
def standardOnlyVoidElements : List String := ["basefont", "bgsound", "frame", "keygen"]

theorem mem_standardVoidElements_iff (name : String) :
    name ∈ standardVoidElements ↔ name ∈ voidElements ∨ name ∈ standardOnlyVoidElements := by
  have together : standardVoidElements.Perm (voidElements ++ standardOnlyVoidElements) := by decide
  rw [together.mem_iff, List.mem_append]

/-- The no-break space, which only the standard serializer escapes. -/
def noBreakSpace : Char := '\u00A0'

/-- Whether a tree has nothing in it that the serializers write differently: the elements are those
of HTML, and their attributes have no qualifiers; elements without an end tag hold nothing, and are
so for both; and there is no no-break space in texts and values. -/
inductive IsOrdinary : Tree → Prop where
  | text {s : String} (breaking : noBreakSpace ∉ s.toList) : IsOrdinary (.node (.text s) [])
  | comment (s : String) : IsOrdinary (.node (.comment s) [])
  | element {name : String} {attributes : List Attribute} {children : List Tree}
      (common : name ∉ standardOnlyVoidElements) (hollow : name ∈ voidElements → children = [])
      (unqualified : ∀ a ∈ attributes, a.qualifier = none)
      (breaking : ∀ a ∈ attributes, noBreakSpace ∉ a.value.toList)
      (inside : ∀ c ∈ children, IsOrdinary c) :
      IsOrdinary (.node (.element .html name attributes) children)

/-! ## Characters and tags -/

/-- Without no-break spaces the escapes are the same. -/
theorem flatMap_escapeSpace {escape : Char → List Char} {cs : List Char}
    (breaking : noBreakSpace ∉ cs) : cs.flatMap (escapeSpace escape) = cs.flatMap escape := by
  refine List.flatMap_congr fun c member => ?_
  have other : c.toNat ≠ 0xA0 := by
    intro same
    have space : c = noBreakSpace := Char.ext (UInt32.toNat_inj.mp same)
    exact breaking (space ▸ member)
  rw [escapeSpace, if_neg other]

theorem startTag_standard (name : String) {attributes : List Attribute}
    (unqualified : ∀ a ∈ attributes, a.qualifier = none)
    (breaking : ∀ a ∈ attributes, noBreakSpace ∉ a.value.toList) :
    startTag qualifiedTitle (escapeSpace escapeValue) name attributes =
      startTag bareTitle escapeValue name attributes := by
  have written : attributes.flatMap (fun a => ' ' :: qualifiedTitle a ++
        '=' :: '"' :: a.value.toList.flatMap (escapeSpace escapeValue) ++ ['"']) =
      attributes.flatMap (fun a => ' ' :: bareTitle a ++
        '=' :: '"' :: a.value.toList.flatMap escapeValue ++ ['"']) := by
    refine List.flatMap_congr fun a member => ?_
    have title : qualifiedTitle a = bareTitle a := by
      rw [qualifiedTitle, unqualified a member, bareTitle]
    rw [title, flatMap_escapeSpace (breaking a member)]
  rw [startTag, written, startTag]

/-! ## Trees -/

section Equations

variable (inRaw muted : Bool) (name s : String) (attributes : List Attribute) (t : Tree)
  (children ts : List Tree)

theorem standardChars_element :
    standardChars inRaw false (.node (.element .html name attributes) children) =
      startTag qualifiedTitle (escapeSpace escapeValue) name attributes ++
        standardAll (rawTextElements.contains name) (standardVoidElements.contains name) children ++
        if standardVoidElements.contains name then [] else endTag name := rfl

theorem standardChars_text : standardChars inRaw muted (.node (.text s) children) =
    (if inRaw then s.toList else s.toList.flatMap (escapeSpace escapeText)) ++
      standardAll inRaw muted children := rfl

theorem standardChars_comment : standardChars inRaw muted (.node (.comment s) children) =
    commentChars s ++ standardAll inRaw muted children := rfl

theorem standardAll_nil : standardAll inRaw muted [] = [] := rfl

theorem standardAll_cons : standardAll inRaw muted (t :: ts) =
    standardChars inRaw muted t ++ standardAll inRaw muted ts := rfl

end Equations

/-- Siblings are written in the same way if each of them is. -/
theorem standardAll_eq {ts : List Tree} {inRaw : Bool}
    (each : ∀ t ∈ ts, standardChars inRaw false t = rawChars inRaw t) :
    standardAll inRaw false ts = rawAll inRaw ts := by
  induction ts with
  | nil => rfl
  | cons t ts ih =>
      obtain ⟨here, rest⟩ := List.forall_mem_cons.mp each
      rw [standardAll_cons, rawAll, here, ih rest]

/-- Inside an element both serializers write an ordinary tree in the same way. -/
theorem IsOrdinary.standardChars_eq {t : Tree} (ordinary : IsOrdinary t) (inRaw : Bool) :
    standardChars inRaw false t = rawChars inRaw t := by
  induction ordinary generalizing inRaw with
  | text breaking =>
      rw [standardChars_text, standardAll_nil, List.append_nil, flatMap_escapeSpace breaking,
        rawChars]
  | comment s => rw [standardChars_comment, standardAll_nil, List.append_nil, rawChars]
  | @element name attributes children common hollow unqualified breaking inside ih =>
      have void : standardVoidElements.contains name = voidElements.contains name := by
        rw [Bool.eq_iff_iff, List.contains_iff_mem, List.contains_iff_mem,
          mem_standardVoidElements_iff, or_iff_left common]
      rw [standardChars_element, rawChars, void, startTag_standard name unqualified breaking,
        List.append_assoc]
      by_cases empty : name ∈ voidElements
      · have contained : voidElements.contains name = true := by simpa using empty
        rw [contained, if_pos rfl, if_pos rfl, hollow empty, standardAll_nil, List.nil_append]
      · have absent : voidElements.contains name = false := by simpa using empty
        have siblings := standardAll_eq fun c member => ih c member (rawTextElements.contains name)
        rw [absent, if_neg Bool.false_ne_true, if_neg Bool.false_ne_true, siblings]

/-- Above the elements, where the standard serializer has not begun yet, it is the same. -/
theorem IsOrdinary.standardOuter_eq {t : Tree} (ordinary : IsOrdinary t) :
    standardOuter t = rawChars false t := by
  cases ordinary with
  | text breaking => rfl
  | comment s => rfl
  | element common hollow unqualified breaking inside =>
      rw [standardOuter]
      exact (IsOrdinary.element common hollow unqualified breaking inside).standardChars_eq false

theorem standardOuterAll_eq {ts : List Tree} (ordinary : ∀ t ∈ ts, IsOrdinary t) :
    standardOuterAll ts = rawAll false ts := by
  induction ts with
  | nil => rfl
  | cons t ts ih =>
      obtain ⟨here, rest⟩ := List.forall_mem_cons.mp ordinary
      rw [standardOuterAll, rawAll, here.standardOuter_eq, ih rest]

/-- Whether a node is an ordinary element, or a root above ordinary nodes. -/
inductive IsOrdinaryWhole : Tree → Prop where
  | element {name : String} {attributes : List Attribute} {children : List Tree}
      (ordinary : IsOrdinary (.node (.element .html name attributes) children)) :
      IsOrdinaryWhole (.node (.element .html name attributes) children)
  | document {children : List Tree} (inside : ∀ c ∈ children, IsOrdinary c) :
      IsOrdinaryWhole (.node .document children)
  | fragment {children : List Tree} (inside : ∀ c ∈ children, IsOrdinary c) :
      IsOrdinaryWhole (.node .fragment children)

theorem IsOrdinaryWhole.markup_eq {t : Tree} (ordinary : IsOrdinaryWhole t) (inRaw : Bool) :
    t.markup .raw inRaw = t.markup .standard inRaw := by
  rw [Tree.markup, Tree.markup]
  cases ordinary with
  | element ordinary => rw [ordinary.standardOuter_eq, rawChars, rawChars]
  | document inside => rw [standardOuter, standardOuterAll_eq inside, rawChars]
  | fragment inside => rw [standardOuter, standardOuterAll_eq inside, rawChars]

end Harvest.Markup

namespace Harvest.Document

open Markup

/-- The serializers write an element or a root of a document in the same way if there is nothing
below it that they write differently. -/
theorem markup_raw_eq_standard {doc : Document} {path : Path} {t : Tree}
    (here : doc.node? path = some t) (ordinary : IsOrdinaryWhole t) :
    doc.markup .raw (.ofPath path) = doc.markup .standard (.ofPath path) := by
  have outer (serializer : Serializer) : doc.markup serializer (.ofPath path) =
      t.markup serializer (doc.inRawText path) := by
    simp only [markup, Place.ofPath, here, Option.map_some, Option.getD_some]
  rw [outer, outer, ordinary.markup_eq]

/-- A script with characters that are escaped elsewhere. -/
def comparingScript : Tree :=
  .node (.element .html "script" []) [.node (.text "if (a < b)") []]

/-- A page with that script, an element without an end tag, and characters to be escaped. -/
def scriptedDocument : Document :=
  ⟨.node .document [.node (.comment " a & b ") [],
    .node (.element .html "div" [⟨"id", "\"a\" & b", none⟩])
      [.node (.text "1 < 2") [], .node (.element .html "br" []) [], comparingScript]]⟩

theorem markup_raw_eq_standard_scripted :
    (∃ t, scriptedDocument.node? [] = some t ∧ IsOrdinaryWhole t) ∧
    scriptedDocument.markup .raw .root = scriptedDocument.markup .standard .root ∧
    scriptedDocument.markup .standard .root =
      "<!-- a & b --><div id=\"&quot;a&quot; &amp; b\">1 &lt; 2<br>" ++
        "<script>if (a < b)</script></div>" := by
  have line : IsOrdinary (.node (.element .html "br" []) []) :=
    .element (by decide) (by simp) (by simp) (by simp) (by simp)
  have script : IsOrdinary comparingScript :=
    .element (by decide) (by decide) (by simp) (by simp)
      (by simpa using IsOrdinary.text (by decide))
  have ordinary : IsOrdinaryWhole scriptedDocument.root := by
    refine .document ?_
    simp only [List.mem_cons, List.not_mem_nil, or_false, forall_eq_or_imp, forall_eq]
    refine ⟨.comment _, .element (by decide) (by decide) (by simp) (by decide) ?_⟩
    simp only [List.mem_cons, List.not_mem_nil, or_false, forall_eq_or_imp, forall_eq]
    exact ⟨.text (by decide), line, script⟩
  exact ⟨⟨_, rfl, ordinary⟩, markup_raw_eq_standard rfl ordinary, by decide⟩

end Harvest.Document
