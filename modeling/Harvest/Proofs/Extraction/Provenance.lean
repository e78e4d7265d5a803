import Mathlib
import Harvest.Proofs.Extraction.Conformance
import Harvest.Proofs.Extraction.Single
import Harvest.Proofs.Regex.Groups
import Harvest.Proofs.Text.Utf8

/-!
# Where texts come from

Nothing is made up: a text that is found is a stretch of what the removes have left of a text that
the query leads to, and they only take bytes away.  The parts that a submatch picks from one text
stand one behind the other in it.
-/

namespace Harvest

/-! ## Spans -/

/-- Spans of a text from its front to its back that do not overlap. -/
structure Ascending (size : Nat) (spans : List (Nat × Nat)) : Prop where
  proper : ∀ s ∈ spans, s.1 ≤ s.2 ∧ s.2 ≤ size
  apart : spans.Pairwise fun s t => s.2 ≤ t.1

theorem Ascending.singleton {size : Nat} {span : Nat × Nat} (proper : span.1 ≤ span.2)
    (inside : span.2 ≤ size) : Ascending size [span] :=
  ⟨List.forall_mem_singleton.mpr ⟨proper, inside⟩, List.pairwise_singleton ..⟩

/-- The bytes of a span. -/
def Bytes.within (bytes : Bytes) (span : Nat × Nat) : Bytes := (bytes.take span.2).drop span.1

theorem Regex.slice_toArray (bytes : Bytes) (span : Nat × Nat) :
    slice bytes.toArray span = bytes.within span := by
  rw [slice, Bytes.within, List.extract_toArray]
  rw [List.extract_eq_take_drop, List.drop_take]

namespace Bytes

theorem within_sublist (bytes : Bytes) (span : Nat × Nat) : (bytes.within span).Sublist bytes :=
  (List.drop_sublist ..).trans (List.take_sublist ..)

theorem within_all (bytes : Bytes) : bytes.within (0, bytes.length) = bytes :=
  List.take_length

theorem within_nil (bytes : Bytes) (place : Nat) : bytes.within (place, place) = [] :=
  List.drop_eq_nil_of_le (List.length_take_le ..)

/-- Places behind a byte that is kept, which keeps its place. -/
def behind (origin : Nat → Nat) : Nat → Nat
  | 0 => 0
  | i + 1 => origin i + 1

theorem monotone_behind {origin : Nat → Nat} (mono : Monotone origin) :
    Monotone (behind origin) := by
  intro i j le
  match i, j with
  | 0, _ => exact Nat.zero_le _
  | i + 1, j + 1 => exact Nat.succ_le_succ (mono (Nat.le_of_succ_le_succ le))

/-- Places in a text from which bytes have been taken, for the places in what is left. -/
theorem exists_origins {left whole : Bytes} (taken : left.Sublist whole) :
    ∃ origin : Nat → Nat, Monotone origin ∧ (∀ i, origin i ≤ whole.length) ∧
      ∀ i j, (left.within (i, j)).Sublist (whole.within (origin i, origin j)) := by
  induction taken with
  | slnil =>
      refine ⟨fun _ => 0, fun _ _ _ => le_rfl, fun _ => le_rfl, fun i j => ?_⟩
      exact (within_sublist [] (i, j)).trans (List.nil_sublist _)
  | @cons left whole b taken ih =>
      obtain ⟨origin, mono, inside, subs⟩ := ih
      exact ⟨fun i => origin i + 1, fun i j le => Nat.succ_le_succ (mono le),
        fun i => Nat.succ_le_succ (inside i), subs⟩
  | @cons_cons left whole b taken ih =>
      obtain ⟨origin, mono, inside, subs⟩ := ih
      refine ⟨behind origin, monotone_behind mono, ?_, ?_⟩
      · rintro (_ | i)
        · exact Nat.zero_le _
        · exact Nat.succ_le_succ (inside i)
      · rintro (_ | i) (_ | j)
        · exact List.nil_sublist _
        · -- the byte itself, in front of what is taken from the others
          have others : (left.take j).Sublist (whole.take (origin j)) :=
            (subs 0 j).trans (List.drop_sublist ..)
          exact others.cons_cons b
        · exact List.nil_sublist _
        · exact subs i j

/-- The stretches of a text that spans of what is left of it come from do not overlap either. -/
theorem exists_ascending_origins {left whole : Bytes} (taken : left.Sublist whole)
    {spans : List (Nat × Nat)} (ascending : Ascending left.length spans) :
    ∃ origins, Ascending whole.length origins ∧
      List.Forall₂ (fun s o => (left.within s).Sublist (whole.within o)) spans origins := by
  obtain ⟨origin, mono, inside, subs⟩ := exists_origins taken
  refine ⟨spans.map fun s => (origin s.1, origin s.2), ⟨?_, ?_⟩, ?_⟩
  · intro o member
    obtain ⟨s, own, rfl⟩ := List.mem_map.mp member
    exact ⟨mono (ascending.proper s own).1, inside s.2⟩
  · exact List.pairwise_map.mpr (ascending.apart.imp fun le => mono le)
  · rw [List.forall₂_map_right_iff, List.forall₂_same]
    exact fun s _ => subs s.1 s.2

end Bytes

/-! ## Parts of a text -/

theorem Regex.exists_expr_of_compile? {pattern : String} {r : Regex}
    (compiled : Regex.compile? pattern = some r) : ∃ e, r.program = .ofExpr e := by
  rw [Regex.compile?] at compiled
  split at compiled
  · next e parsed =>
      obtain ⟨-, same⟩ := Option.ite_none_right_eq_some.mp compiled
      cases same
      exact ⟨e, rfl⟩
  · cases compiled

namespace TextFilter

variable {f : TextFilter} {r : Regex} {m : Regex.Match} {input : Bytes}

/-- Whether the submatch of a filter is the program of an expression. -/
def IsCompiled (f : TextFilter) : Prop := ∀ r, f.submatch = some r → ∃ e, r.program = .ofExpr e

theorem compileSubmatch_of_compile {rules : Definition.TextRules}
    (compiled : compile (some rules) = .ok f) :
    compileSubmatch rules.submatch = .ok f.submatch := by
  simp only [compile, compileRules, bind, Except.bind, pure, Except.pure] at compiled
  split at compiled
  · cases compiled
  · next submatch read =>
      repeat' split at compiled
      all_goals cases compiled
      exact read

theorem isCompiled_of_compile {rules : Option Definition.TextRules}
    (compiled : compile rules = .ok f) : f.IsCompiled := by
  intro r submatch
  cases rules with
  | none =>
      cases compiled
      cases submatch
  | some rules =>
      have read := compileSubmatch_of_compile compiled
      rw [submatch, compileSubmatch] at read
      split at read
      · cases read
      · split at read
        · next own =>
            cases read
            exact Regex.exists_expr_of_compile? own
        · cases read

/-- The span of what a match picks; a group that took no part has an empty one. -/
def span (r : Regex) (m : Regex.Match) : Nat × Nat :=
  (m.span? (groupOf r)).getD (m.start, m.start)

/-- The spans of all parts that count. -/
def spans (f : TextFilter) (input : Bytes) : List (Nat × Nat) :=
  match f.submatch with
  | none => [(0, input.length)]
  | some r => (r.findAll input).map (span r)

theorem pick_eq (r : Regex) (input : Bytes) (m : Regex.Match) :
    pick r input.toArray m = input.within (span r m) := by
  rw [pick, span]
  cases m.span? (groupOf r) with
  | none => exact (Bytes.within_nil input m.start).symm
  | some span => exact Regex.slice_toArray input span

theorem all_eq (f : TextFilter) (input : Bytes) :
    f.all input = (f.spans input).map input.within := by
  rw [all, spans]
  cases f.submatch with
  | none => rw [List.map_singleton, Bytes.within_all]
  | some r =>
      rw [List.map_map]
      exact List.map_congr_left fun m _ => pick_eq r input m

theorem span_inside {e : Regex.Expr} (program : r.program = .ofExpr e)
    (member : m ∈ r.findAll input) :
    m.start ≤ (span r m).1 ∧ (span r m).1 ≤ (span r m).2 ∧ (span r m).2 ≤ m.stop := by
  rw [Regex.findAll, program] at member
  obtain ⟨place, found⟩ := Regex.exists_searchAt member
  rw [span]
  cases own : m.span? (groupOf r) with
  | none => exact ⟨le_rfl, le_rfl, (Regex.isFrom_of_searchAt found).ordered⟩
  | some s => exact Regex.span?_inside found own

theorem ascending_spans (compiled : f.IsCompiled) (input : Bytes) :
    Ascending input.length (f.spans input) := by
  rw [spans]
  cases submatch : f.submatch with
  | none => exact .singleton (Nat.zero_le _) le_rfl
  | some r =>
      obtain ⟨e, program⟩ := compiled r submatch
      have follow := Regex.follow_findAll r input
      refine ⟨fun s member => ?_, ?_⟩
      · obtain ⟨m, own, rfl⟩ := List.mem_map.mp member
        obtain ⟨-, ordered, stop⟩ := span_inside program own
        exact ⟨ordered, stop.trans (follow.isFrom m own).inside⟩
      · rw [List.pairwise_map]
        refine follow.pairwise.imp_of_mem fun own own' le => ?_
        exact (span_inside program own).2.2.trans (le.trans (span_inside program own').1)

theorem clean_sublist (f : TextFilter) (input : Bytes) : (f.clean input).Sublist input := by
  rw [clean]
  induction f.removes generalizing input with
  | nil => exact .refl input
  | cons r rs ih => exact (ih (r.removeAll input)).trans (Regex.removeAll_sublist r input)

/-- The part of a text that counts has a span, too. -/
theorem exists_first_eq (compiled : f.IsCompiled) (input : Bytes) :
    ∃ s : Nat × Nat, s.1 ≤ s.2 ∧ s.2 ≤ input.length ∧ f.first input = input.within s := by
  by_cases hit : f.Misses input
  · have nothing := (first_of_misses hit).trans (Bytes.within_nil input 0).symm
    exact ⟨(0, 0), le_rfl, Nat.zero_le _, nothing⟩
  · have head := head?_all hit
    rw [all_eq, List.head?_map, Option.map_eq_some_iff] at head
    obtain ⟨s, own, same⟩ := head
    obtain ⟨proper, inside⟩ := (ascending_spans compiled input).proper s (List.mem_of_mem_head? own)
    exact ⟨s, proper, inside, same.symm⟩

/-- How spans of a text, as it is once it is cleaned, stand in it and in the text itself, and what
they have to do with the matches of a submatch: each is that of the group that counts in its match,
and empty if this group took no part. -/
structure Stands (f : TextFilter) (text : Bytes) (spans : List (Nat × Nat)) : Prop where
  ascending : Ascending (f.clean text).length spans
  origins : ∃ origins, Ascending text.length origins ∧
    List.Forall₂ (fun s o => ((f.clean text).within s).Sublist (text.within o)) spans origins
  matched : ∀ r, f.submatch = some r →
    List.Forall₂ (fun m s => (m.start ≤ s.1 ∧ s.2 ≤ m.stop) ∧
      (m.span? (groupOf r) = some s ∨
        m.span? (groupOf r) = none ∧ (f.clean text).within s = []))
      (r.findAll (f.clean text)) spans

/-- Whether a text is a stretch of another one that has been cleaned, which takes bytes away from
that one and does nothing else. -/
structure IsDrawn (f : TextFilter) (text s : String) : Prop where
  sublist : (Bytes.ofString s).Sublist (Bytes.ofString text)
  stretch : ∃ span : Nat × Nat, span.1 ≤ span.2 ∧
    span.2 ≤ (f.clean (Bytes.ofString text)).length ∧
    Bytes.ofString s = (f.clean (Bytes.ofString text)).within span

/-- Whether texts are those of some spans of a text, in their order, as far as their bytes are
texts. -/
def AreDrawn (f : TextFilter) (text : String) (found : List String) : Prop :=
  ∃ spans, f.Stands (Bytes.ofString text) spans ∧
    found = if f.accepts (Bytes.ofString text) then
      (spans.map (f.clean (Bytes.ofString text)).within).filterMap Bytes.text? else []

theorem stands_spans (compiled : f.IsCompiled) (text : Bytes) :
    f.Stands text (f.spans (f.clean text)) where
  ascending := ascending_spans compiled (f.clean text)
  origins := Bytes.exists_ascending_origins (f.clean_sublist text)
    (ascending_spans compiled (f.clean text))
  matched r submatch := by
    obtain ⟨e, program⟩ := compiled r submatch
    rw [spans, submatch, List.forall₂_map_right_iff, List.forall₂_same]
    intro m member
    obtain ⟨start, -, stop⟩ := span_inside program member
    refine ⟨⟨start, stop⟩, ?_⟩
    rw [span]
    cases m.span? (groupOf r) with
    | none => exact .inr ⟨rfl, Bytes.within_nil _ _⟩
    | some s => exact .inl rfl

theorem isDrawn_of_within {text s : String} {span : Nat × Nat} (proper : span.1 ≤ span.2)
    (inside : span.2 ≤ (f.clean (Bytes.ofString text)).length)
    (own : Bytes.ofString s = (f.clean (Bytes.ofString text)).within span) : f.IsDrawn text s where
  sublist := by
    rw [own]
    exact (Bytes.within_sublist _ span).trans (f.clean_sublist _)
  stretch := ⟨span, proper, inside, own⟩

theorem AreDrawn.isDrawn {text : String} {found : List String} (drawn : f.AreDrawn text found) :
    ∀ s ∈ found, f.IsDrawn text s := by
  obtain ⟨spans, stands, rfl⟩ := drawn
  intro s member
  split at member
  · obtain ⟨bytes, piece, read⟩ := List.mem_filterMap.mp member
    obtain ⟨span, own, rfl⟩ := List.mem_map.mp piece
    obtain ⟨proper, inside⟩ := stands.ascending.proper span own
    exact isDrawn_of_within proper inside (Bytes.text?_eq_some_iff.mp read).symm
  · cases member

end TextFilter

/-! ## Fields -/

namespace FieldPlan

variable {f : FieldPlan} {doc : Document} {place : Place} {q : XPath.Query} {v : Datum}

theorem coerce_of_string (string : f.shape.kind = .string) (raw : Bytes) :
    f.shape.coerce raw = raw.text?.map Datum.text := by
  rw [Shape.coerce, string]

theorem exists_areDrawn (string : f.shape.kind = .string) (compiled : f.textFilter.IsCompiled)
    (text : String) : ∃ found, f.textFilter.AreDrawn text found ∧
      f.textValues text = found.map Datum.text := by
  refine ⟨_, ⟨_, TextFilter.stands_spans compiled _, rfl⟩, ?_⟩
  rw [textValues]
  split
  · rw [TextFilter.all_eq, List.map_filterMap]
    exact List.filterMap_congr fun raw _ => coerce_of_string string raw
  · rfl

theorem exists_drawn_texts (string : f.shape.kind = .string) (compiled : f.textFilter.IsCompiled)
    (texts : List String) : ∃ pieces, List.Forall₂ f.textFilter.AreDrawn texts pieces ∧
      texts.flatMap f.textValues = pieces.flatten.map Datum.text := by
  induction texts with
  | nil => exact ⟨[], .nil, rfl⟩
  | cons text texts ih =>
      obtain ⟨pieces, drawn, values⟩ := ih
      obtain ⟨found, drawn', values'⟩ := exists_areDrawn string compiled text
      refine ⟨found :: pieces, .cons drawn' drawn, ?_⟩
      rw [List.flatMap_cons, values, values', List.flatten_cons, List.map_append]

theorem isDrawn_of_text? (string : f.shape.kind = .string) (compiled : f.textFilter.IsCompiled)
    (found : f.text? doc place q = some v) :
    ∃ text s, (texts q doc place).head? = some text ∧ v = .text s ∧
      f.textFilter.IsDrawn text s := by
  obtain ⟨text, first, -, valued⟩ := text?_eq_some_iff.mp found
  rw [coerce_of_string string, Option.map_eq_some_iff] at valued
  obtain ⟨s, read, rfl⟩ := valued
  obtain ⟨span, proper, inside, own⟩ :=
    TextFilter.exists_first_eq compiled (f.textFilter.clean (Bytes.ofString text))
  rw [Bytes.text?_eq_some_iff, own] at read
  exact ⟨text, s, first, rfl, TextFilter.isDrawn_of_within proper inside read.symm⟩

theorem exists_texts_of_collect (f : FieldPlan) (strings : List String) :
    ∃ kept : List String, f.collect (strings.map Datum.text) = kept.map Datum.text ∧
      ∀ s ∈ kept, s ∈ strings := by
  have texts : f.collect (strings.map Datum.text) ∈ Set.range (List.map Datum.text) := by
    rw [Set.range_list_map]
    intro d member
    obtain ⟨s, -, own⟩ := List.mem_map.mp (mem_of_mem_collect member)
    exact ⟨s, own⟩
  obtain ⟨kept, own⟩ := texts
  refine ⟨kept, own.symm, fun s member => ?_⟩
  have collected : Datum.text s ∈ f.collect (strings.map Datum.text) :=
    own ▸ List.mem_map_of_mem member
  obtain ⟨s', own', same⟩ := List.mem_map.mp (mem_of_mem_collect collected)
  exact Datum.text.inj same ▸ own'

end FieldPlan

namespace Plan

open FieldPlan (texts)

/-- What a field for texts finds comes from what one of its queries leads to.  A single value is a
stretch of the first text there as it is once it is cleaned.  The values of a list are what is kept
of the pieces of all texts there, the pieces of each in their order and none overlapping another. -/
theorem retrieve_drawn (f : Definition.Field) (p : Plan) (compiled : compile f = .ok p)
    (string : p.field.shape.kind = .string) (doc : Document) (place : Place) (v : Datum)
    (found : p.retrieve doc place = some v) :
    ∃ q ∈ p.field.candidates,
      (p.field.isMultiple = false →
        ∃ text s, (texts q doc place).head? = some text ∧ v = .text s ∧
          p.field.textFilter.IsDrawn text s) ∧
      (p.field.isMultiple = true →
        ∃ (strings : List String) (pieces : List (List String)),
          v = .list (strings.map .text) ∧
          v = .list (p.field.collect (pieces.flatten.map .text)) ∧
          List.Forall₂ p.field.textFilter.AreDrawn (texts q doc place) pieces ∧
          ∀ s ∈ strings, ∃ text ∈ texts q doc place, p.field.textFilter.IsDrawn text s) := by
  obtain ⟨fits, -⟩ := compile_eq_ok_iff.mp compiled
  have ready := TextFilter.isCompiled_of_compile fits.textFilter
  rw [retrieve_eq, if_neg (by rw [string]; decide), FieldPlan.leaf?] at found
  obtain ⟨q, queried, found⟩ := List.exists_of_findSome?_eq_some found
  have plain : p.field.shape.kind ≠ .html := by rw [string]; decide
  rw [FieldPlan.candidate?, if_neg plain, if_neg plain] at found
  refine ⟨q, queried, fun single => ?_, fun multiple => ?_⟩
  · rw [if_neg (by rw [single]; decide)] at found
    exact FieldPlan.isDrawn_of_text? string ready found
  · rw [if_pos multiple] at found
    obtain ⟨pieces, drawn, values⟩ := FieldPlan.exists_drawn_texts string ready (texts q doc place)
    obtain ⟨strings, kept, own⟩ := p.field.exists_texts_of_collect pieces.flatten
    rw [FieldPlan.textList, values] at found
    cases found
    refine ⟨strings, pieces, congrArg Datum.list kept, rfl, drawn, fun s member => ?_⟩
    obtain ⟨piece, picked, inside⟩ := List.mem_flatten.mp (own s member)
    obtain ⟨text, selected, part⟩ := exists_counterpart drawn.flip picked
    exact ⟨text, selected, TextFilter.AreDrawn.isDrawn part s inside⟩

/-- The letters `a` and `b`, of which only `a` counts, in bold texts without `x`. -/
def groupField : Definition.Field :=
  { title := "letters", type := "[]string", path := ⟨["//b"]⟩,
    data := some { submatch := "(a)|b", removes := ⟨["x"]⟩ } }

def groupFilter : TextFilter :=
  { submatch := some ⟨.ofExpr (.either (.group 1 (.literal [97])) (.literal [98])), 1⟩,
    removes := [⟨.ofExpr (.literal [120]), 0⟩] }

def groupPlan : Plan :=
  .node ⟨"letters", ⟨.string, true⟩, [boldQuery], groupFilter, {}, false, false, false, false,
    false⟩ []

theorem compile?_group : Regex.compile? "(a)|b" =
    some ⟨.ofExpr (.either (.group 1 (.literal [97])) (.literal [98])), 1⟩ := by
  have parsed : Regex.Expr.parse? "(a)|b" =
      some (.either (.group 1 (.literal [97])) (.literal [98])) := by cbv
  have small : (Regex.Expr.either (.group 1 (.literal [97])) (.literal [98])).fits = true := by cbv
  rw [Regex.compile?, parsed]
  exact if_pos small

theorem compile_groupFilter :
    TextFilter.compile (some { submatch := "(a)|b", removes := ⟨["x"]⟩ }) = .ok groupFilter := by
  have submatch : TextFilter.compileSubmatch "(a)|b" = .ok groupFilter.submatch := by
    have trimmed : Text.trim "(a)|b" = "(a)|b" := by cbv
    have filled : "(a)|b".isEmpty = false := by cbv
    rw [TextFilter.compileSubmatch, trimmed, filled, compile?_group]
    rfl
  have removes : TextFilter.compileLines .removes ⟨["x"]⟩ = .ok groupFilter.removes := by cbv
  rw [TextFilter.compile, TextFilter.compileRules, submatch, removes]
  rfl

theorem compile_groupField : compile groupField = .ok groupPlan :=
  compile_eq_ok_iff.mpr
    ⟨⟨rfl, by cbv, compile_groupFilter, rfl, by cbv, rfl, rfl, rfl, rfl, rfl⟩, .nil⟩

theorem retrieve_drawn_group :
    compile groupField = .ok groupPlan ∧ groupPlan.field.shape.kind = .string ∧
    groupPlan.retrieve (boldDocument ["axb", "c", "b"]) .root =
      some (.list [.text "a", .text "", .text ""]) ∧
    ∃ pieces, List.Forall₂ groupFilter.AreDrawn ["axb", "c", "b"] pieces ∧
      pieces.flatten = ["a", "", ""] := by
  have found : groupPlan.retrieve (boldDocument ["axb", "c", "b"]) .root =
      some (.list [.text "a", .text "", .text ""]) := by cbv
  have bold : texts boldQuery (boldDocument ["axb", "c", "b"]) .root = ["axb", "c", "b"] := by cbv
  refine ⟨compile_groupField, rfl, found, ?_⟩
  obtain ⟨q, queried, -, several⟩ :=
    retrieve_drawn groupField groupPlan compile_groupField rfl _ _ _ found
  obtain rfl := List.mem_singleton.mp queried
  obtain ⟨strings, pieces, -, values, drawn, -⟩ := several rfl
  rw [bold] at drawn
  have kept : groupPlan.field.collect (pieces.flatten.map .text) = pieces.flatten.map .text := by
    rw [FieldPlan.collect_eq]
    exact if_neg (by decide)
  rw [kept] at values
  exact ⟨pieces, drawn, List.map_injective_iff.mpr (fun _ _ => Datum.text.inj)
    (Datum.list.inj values).symm⟩

end Plan

end Harvest
