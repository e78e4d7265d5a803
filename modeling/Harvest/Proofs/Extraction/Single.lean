import Mathlib
import Harvest.Proofs.Extraction.Multiplicity
import Harvest.Proofs.Extraction.Markup

/-!
# One value or all of them

Whether a field asks for one value or for all that its query leads to, it selects, tests, cleans,
cuts up and converts in the same way, so the one value is the first of all of them.  Where a
submatch does not match, though, one value is made of nothing, which is a text as well, while no
value at all is among all of them.
-/

namespace Harvest

/-! ## Parts of a text -/

/-- The first match is the first of all matches. -/
theorem Regex.head?_findAll (r : Regex) (bytes : Bytes) :
    (r.findAll bytes).head? = r.find? bytes := by
  rw [findAll, matchesFrom, find?]
  cases searchAt r.program (.ofBytes bytes) 0 with
  | none => rfl
  | some m => simp

namespace TextFilter

variable {f : TextFilter} {input : Bytes}

/-- Whether a filter has a submatch that does not match a text. -/
def Misses (f : TextFilter) (input : Bytes) : Prop :=
  ∃ r, f.submatch = some r ∧ r.isMatch input = false

/-- The part of a text that counts is the first of those that do. -/
theorem head?_all (hit : ¬f.Misses input) : (f.all input).head? = some (f.first input) := by
  rw [all, first]
  cases submatch : f.submatch with
  | none => rfl
  | some r =>
      dsimp only
      rw [List.head?_map, Regex.head?_findAll]
      cases found : r.find? input with
      | none => exact absurd ⟨r, submatch, by rw [Regex.isMatch, found]; rfl⟩ hit
      | some m => rfl

theorem first_of_misses (missed : f.Misses input) : f.first input = [] := by
  obtain ⟨r, submatch, unmatched⟩ := missed
  have none : r.find? input = none := by simpa [Regex.isMatch] using unmatched
  rw [first, submatch]
  dsimp only
  rw [none]

end TextFilter

/-- Nothing is a text and no number. -/
theorem Shape.coerce_nil (shape : Shape) :
    shape.coerce [] =
      if shape.kind = .string ∨ shape.kind = .html then some (.text "") else none := by
  have empty : Bytes.text? [] = some "" := by decide
  rw [coerce, empty]
  cases shape.kind with
  | int => cbv
  | float => cbv
  | string => rfl
  | html => rfl
  | struct => rfl

/-! ## Fields -/

namespace FieldPlan

variable {f : FieldPlan} {doc : Document} {place : Place} {q : XPath.Query} {v : Datum}

/-- The field that asks for all values, and is like another in all else. -/
def several (f : FieldPlan) : FieldPlan := { f with multiple := true }

theorem isMultiple_several (f : FieldPlan) : f.several.isMultiple = true := Bool.true_or _

/-- Whether a field for texts has a submatch that does not match the first text that a query leads
to, as it is once it is cleaned. -/
def Misses (f : FieldPlan) (doc : Document) (place : Place) (q : XPath.Query) : Prop :=
  f.shape.kind = .string ∧ ∃ text, (texts q doc place).head? = some text ∧
    f.textFilter.Misses (f.textFilter.clean (Bytes.ofString text))

/-- Values that are to be unique begin with the same one as all values. -/
theorem head?_collect (f : FieldPlan) (values : List Datum) :
    (f.collect values).head? = values.head? := by
  rw [collect_eq]
  split
  · cases values with
    | nil => rfl
    | cons value values => rw [List.eraseDups_cons]; rfl
  · rfl

theorem text?_eq_some_iff : f.text? doc place q = some v ↔
    ∃ text, (texts q doc place).head? = some text ∧
      f.textFilter.accepts (Bytes.ofString text) = true ∧
      f.shape.coerce (f.textFilter.first (f.textFilter.clean (Bytes.ofString text))) = some v := by
  rw [text?]
  cases texts q doc place with
  | nil => simp
  | cons text rest => simp

/-- The value of a text is the first of its values, unless a submatch misses. -/
theorem head?_textValues {text : String}
    (hit : ¬f.textFilter.Misses (f.textFilter.clean (Bytes.ofString text)))
    (accepted : f.textFilter.accepts (Bytes.ofString text) = true)
    (valued : f.shape.coerce (f.textFilter.first (f.textFilter.clean (Bytes.ofString text))) =
      some v) : (f.textValues text).head? = some v := by
  obtain ⟨parts, own⟩ := List.head?_eq_some_iff.mp (TextFilter.head?_all hit)
  rw [textValues, if_pos accepted, own, List.filterMap_cons_some valued]
  rfl

/-- Only a field for texts makes a value of nothing. -/
theorem eq_of_misses {text : String} (plain : f.shape.kind ≠ .html)
    (missed : f.textFilter.Misses (f.textFilter.clean (Bytes.ofString text)))
    (valued : f.shape.coerce (f.textFilter.first (f.textFilter.clean (Bytes.ofString text))) =
      some v) : f.shape.kind = .string ∧ v = .text "" := by
  rw [TextFilter.first_of_misses missed, Shape.coerce_nil, Option.ite_none_right_eq_some] at valued
  obtain ⟨kind, same⟩ := valued
  exact ⟨kind.resolve_right plain, (Option.some.inj same).symm⟩

theorem eq_of_text? (found : f.text? doc place q = some v) (missed : f.Misses doc place q) :
    v = .text "" := by
  obtain ⟨text, first, -, valued⟩ := text?_eq_some_iff.mp found
  obtain ⟨string, other, first', missed⟩ := missed
  obtain rfl : text = other := Option.some.inj (first.symm.trans first')
  exact (eq_of_misses (by rw [string]; decide) missed valued).2

theorem head?_textList (plain : f.shape.kind ≠ .html) (found : f.text? doc place q = some v)
    (hit : ¬f.Misses doc place q) : (f.textList doc place q).head? = some v := by
  obtain ⟨text, first, accepted, valued⟩ := text?_eq_some_iff.mp found
  have hit' : ¬f.textFilter.Misses (f.textFilter.clean (Bytes.ofString text)) := fun missed =>
    hit ⟨(eq_of_misses plain missed valued).1, text, first, missed⟩
  obtain ⟨rest, own⟩ := List.head?_eq_some_iff.mp first
  obtain ⟨values, own'⟩ := List.head?_eq_some_iff.mp (head?_textValues hit' accepted valued)
  rw [textList, head?_collect, own, List.flatMap_cons, own']
  rfl

theorem head?_markupList (found : f.markup? doc place q = some v) :
    (f.markupList doc place q).head? = some v := by
  rw [markup?, XPath.Query.select?] at found
  rw [markupList_eq, head?_collect]
  cases own : q.select doc place with
  | nil =>
      rw [own] at found
      cases found
  | cons target rest =>
      rw [own, List.head?_cons] at found
      obtain ⟨accepted, same⟩ := Option.ite_none_right_eq_some.mp found
      rw [List.filter_cons_of_pos accepted, List.map_cons, List.head?_cons, same]

/-- The one value that a query finds is the first of all that it finds, unless a submatch misses;
then it is the empty text. -/
theorem candidate?_several (single : f.isMultiple = false)
    (found : f.candidate? doc place q = some v) :
    ∃ items, f.several.candidate? doc place q = some (.list items) ∧
      (f.Misses doc place q → v = .text "") ∧ (¬f.Misses doc place q → items.head? = some v) := by
  rw [candidate?, if_neg (by simp [single])] at found
  rw [candidate?, if_pos (isMultiple_several f)]
  refine ⟨_, rfl, ?_⟩
  by_cases html : f.shape.kind = .html
  · have html' : f.several.shape.kind = .html := html
    rw [if_pos html] at found
    rw [if_pos html']
    refine ⟨fun missed => ?_, fun _ => ?_⟩
    · have string := missed.1
      rw [html] at string
      cases string
    · exact head?_markupList (f := f.several) found
  · have html' : f.several.shape.kind ≠ .html := html
    rw [if_neg html] at found
    rw [if_neg html']
    exact ⟨eq_of_text? found, head?_textList (f := f.several) html found⟩

end FieldPlan

namespace Plan

/-- A field that has one query and asks for one value also compiles when it asks for all.  If it
finds a value, this is the first of all those that it finds otherwise.  The exception is a field for
texts with a submatch that does not match the first text that the query leads to, be it that of a
node or a value of another kind, as it is once it is cleaned: the one value is then the empty
text. -/
theorem retrieve_several (f : Definition.Field) (p : Plan) (query : XPath.Query)
    (compiled : compile { f with multiple := false } = .ok p) (leaf : p.field.shape.kind ≠ .struct)
    (single : p.field.shape.isArray = false) (one : p.field.candidates = [query]) :
    ∃ q, compile { f with multiple := true } = .ok q ∧
      ∀ doc place v, p.retrieve doc place = some v →
        ∃ items, q.retrieve doc place = some (.list items) ∧
          (p.field.Misses doc place query → v = .text "") ∧
          (¬p.field.Misses doc place query → items.head? = some v) := by
  obtain ⟨fits, below⟩ := compile_eq_ok_iff.mp compiled
  have alone : p.field.isMultiple = false := by
    rw [FieldPlan.isMultiple, single, Bool.or_false]
    exact fits.multiple
  have leaf' : p.field.several.shape.kind ≠ .struct := leaf
  have one' : p.field.several.candidates = [query] := one
  refine ⟨.node p.field.several p.children,
    compile_eq_ok_iff.mpr ⟨{ fits with multiple := rfl }, below⟩, fun doc place v found => ?_⟩
  rw [retrieve_eq, if_neg leaf, FieldPlan.leaf?, one, List.findSome?_singleton] at found
  rw [retrieve_eq, Plan.field, if_neg leaf', FieldPlan.leaf?, one', List.findSome?_singleton]
  exact FieldPlan.candidate?_several alone found

/-- What matches in the texts that a path leads to. -/
def letterField (path : String) : Definition.Field :=
  { title := "letter", type := "string", path := ⟨[path]⟩, data := some { submatch := "b" } }

def letterFilter : TextFilter := { submatch := some ⟨.ofExpr (.literal [98]), 0⟩ }

def letterPlan (query : XPath.Query) (multiple : Bool) : Plan :=
  .node ⟨"letter", ⟨.string, false⟩, [query], letterFilter, {}, false, false, multiple, false,
    false⟩ []

/-- What is bold. -/
def boldQuery : XPath.Query :=
  ⟨"//b", .path true [.mk .descendantOrSelf .node [], .mk .child (.name "b") []]⟩

/-- Some texts, each of them bold. -/
def boldDocument (texts : List String) : Document :=
  ⟨.node .document (texts.map fun s => .node (.element .html "b" []) [.node (.text s) []])⟩

theorem compile_letterFilter :
    TextFilter.compile (some { submatch := "b" }) = .ok letterFilter := by cbv

theorem compile_letterField {path : String} {query : XPath.Query} (multiple : Bool)
    (compiled : XPath.Query.compileLines .path ⟨[path]⟩ = .ok [query]) :
    compile { letterField path with multiple } = .ok (letterPlan query multiple) :=
  compile_eq_ok_iff.mpr
    ⟨⟨rfl, compiled, compile_letterFilter, rfl, by cbv, rfl, rfl, rfl, rfl, rfl⟩, .nil⟩

theorem retrieve_several_letter :
    compile { letterField "//b" with multiple := false } = .ok (letterPlan boldQuery false) ∧
    (letterPlan boldQuery false).retrieve (boldDocument ["abb", "b"]) .root = some (.text "b") ∧
    (letterPlan boldQuery false).retrieve (boldDocument ["a", "b"]) .root = some (.text "") ∧
    ∃ q, compile { letterField "//b" with multiple := true } = .ok q ∧
      (∃ items, q.retrieve (boldDocument ["abb", "b"]) .root = some (.list items) ∧
        items.head? = some (.text "b")) ∧
      ∃ items, q.retrieve (boldDocument ["a", "b"]) .root = some (.list items) := by
  have compiled : compile { letterField "//b" with multiple := false } =
      .ok (letterPlan boldQuery false) := compile_letterField false (by cbv)
  have hits : (letterPlan boldQuery false).retrieve (boldDocument ["abb", "b"]) .root =
      some (.text "b") := by cbv
  have misses : (letterPlan boldQuery false).retrieve (boldDocument ["a", "b"]) .root =
      some (.text "") := by cbv
  obtain ⟨q, compiled', values⟩ :=
    retrieve_several (letterField "//b") (letterPlan boldQuery false) boldQuery compiled (by decide)
      rfl rfl
  refine ⟨compiled, hits, misses, q, compiled', ?_, ?_⟩
  · obtain ⟨items, listed, -, first⟩ := values _ _ _ hits
    refine ⟨items, listed, first ?_⟩
    rintro ⟨-, text, own, r, submatch, unmatched⟩
    have bold : (FieldPlan.texts boldQuery (boldDocument ["abb", "b"]) .root).head? =
        some "abb" := by cbv
    obtain rfl := Option.some.inj (bold.symm.trans own)
    obtain rfl := Option.some.inj submatch
    have matched : (⟨.ofExpr (.literal [98]), 0⟩ : Regex).isMatch
        (letterFilter.clean (Bytes.ofString "abb")) = true := by cbv
    exact Bool.false_ne_true (unmatched.symm.trans matched)
  · obtain ⟨items, listed, -⟩ := values _ _ _ misses
    exact ⟨items, listed⟩

/-- A text, wherever one looks. -/
def literalQuery : XPath.Query := ⟨"'a'", .literal "a"⟩

/-- Not only for the text of a node may a submatch miss: where a query has a text for its value, and
selects no node at all, the one value is the empty text as well, and all values are none. -/
theorem retrieve_letter_not_first :
    ¬∀ (f : Definition.Field) (p q : Plan) (query : XPath.Query) (doc : Document) (place : Place)
      (v : Datum), compile { f with multiple := false } = .ok p →
      compile { f with multiple := true } = .ok q → p.field.shape.kind ≠ .struct →
      p.field.shape.isArray = false → p.field.candidates = [query] →
      p.retrieve doc place = some v →
        (∃ items, q.retrieve doc place = some (.list items) ∧ items.head? = some v) ∨
        (p.field.shape.kind = .string ∧ v = .text "" ∧
          ∃ target, query.select? doc place = some target ∧ p.field.textFilter.Misses
            (p.field.textFilter.clean (Bytes.ofString (doc.stringValue target)))) := by
  intro first
  have lines : XPath.Query.compileLines .path ⟨["'a'"]⟩ = .ok [literalQuery] := by cbv
  have one : (letterPlan literalQuery false).retrieve ⟨.node .document []⟩ .root =
      some (.text "") := by cbv
  have all : (letterPlan literalQuery true).retrieve ⟨.node .document []⟩ .root =
      some (.list []) := by cbv
  rcases first (letterField "'a'") _ _ literalQuery ⟨.node .document []⟩ .root (.text "")
    (compile_letterField false lines) (compile_letterField true lines) (by decide) rfl rfl one with
    ⟨items, listed, own⟩ | ⟨-, -, target, selected, -⟩
  · obtain rfl := Datum.list.inj (Option.some.inj (all.symm.trans listed))
    cases own
  · cases selected

end Plan

end Harvest
