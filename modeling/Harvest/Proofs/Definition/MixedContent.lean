import Mathlib
import Harvest.Proofs.Definition.HalfRead
import Harvest.Proofs.Definition.LineBreaks
import Harvest.Proofs.Definition.XmlForm
import Harvest.Proofs.Xml.Content

/-!
# Rules in mixed content

The rules in an element may be cut into character data, sections that stand for themselves and
comments.  Each piece of character data loses the blanks at its ends before the pieces are put
together, so a line break goes with the blanks beside it where a piece ends: a comment between two
lines makes one line of them.  The lines are those of the whole text exactly if no blanks that count
are lost.  Nothing else of the content matters to the definition.
-/

namespace Harvest.Definition

/-! ## Where rules go -/

/-- The lines that a rule is added to; a submatch is not one of many lines. -/
def TextRules.lines? (rules : TextRules) : Rule → Option Lines
  | .includes => some rules.includes
  | .excludes => some rules.excludes
  | .removes => some rules.removes
  | .submatch => none
  | .path => none

def NodeRules.lines? (rules : NodeRules) : Rule → Option Lines
  | .includes => some rules.includes
  | .excludes => some rules.excludes
  | .removes => some rules.removes
  | .submatch => none
  | .path => none

namespace HalfRead

/-- The lines that an element for a rule adds to: those of the innermost open field, or of the rules
for the address. -/
def lines? (s : HalfRead) (rule : Rule) : Option Lines :=
  if rule = .path then s.openFields.head?.map (·.path)
  else
    match s.current with
    | none => none
    | some .url => (s.definition.url.getD {}).lines? rule
    | some .data => s.openFields.head?.bind fun f => (f.data.getD {}).lines? rule
    | some .xdata => s.openFields.head?.bind fun f => (f.xdata.getD {}).lines? rule

variable {s : HalfRead} {rule : Rule} {lines : Lines}

theorem start_word (s : HalfRead) (rule : Rule) (attributes : List Char) :
    s.start rule.word attributes = .ok s := by
  cases rule <;> rfl

/-- Where the lines are that an element for a rule adds to. -/
theorem lines?_cases (held : s.lines? rule = some lines) :
    (rule = .path ∧ ∃ f outer, s.openFields = f :: outer ∧ f.path = lines) ∨
      rule ≠ .path ∧
        (s.current = some .url ∧ (s.definition.url.getD {}).lines? rule = some lines ∨
          ∃ f outer, s.openFields = f :: outer ∧
            (s.current = some .data ∧ (f.data.getD {}).lines? rule = some lines ∨
              s.current = some .xdata ∧ (f.xdata.getD {}).lines? rule = some lines)) := by
  obtain ⟨definition, root, openFields, current, text⟩ := s
  unfold lines? at held
  by_cases path : rule = .path
  · rw [if_pos path] at held
    obtain ⟨f, first, found⟩ := Option.map_eq_some_iff.mp held
    obtain ⟨outer, rfl⟩ := List.head?_eq_some_iff.mp first
    exact .inl ⟨path, f, outer, rfl, found⟩
  · rw [if_neg path] at held
    refine .inr ⟨path, ?_⟩
    match current with
    | none => cases held
    | some .url => exact .inl ⟨rfl, held⟩
    | some .data =>
        obtain ⟨f, first, found⟩ := Option.bind_eq_some_iff.mp held
        obtain ⟨outer, rfl⟩ := List.head?_eq_some_iff.mp first
        exact .inr ⟨f, outer, rfl, .inl ⟨rfl, found⟩⟩
    | some .xdata =>
        obtain ⟨f, first, found⟩ := Option.bind_eq_some_iff.mp held
        obtain ⟨outer, rfl⟩ := List.head?_eq_some_iff.mp first
        exact .inr ⟨f, outer, rfl, .inr ⟨rfl, found⟩⟩

theorem lines?_addTextRule {rules : TextRules} (held : rules.lines? rule = some lines)
    (text : String) : (addTextRule rule text rules).lines? rule = some (lines.push text) := by
  cases rule <;> cases held <;> rfl

theorem lines?_addNodeRule {rules : NodeRules} (held : rules.lines? rule = some lines)
    (text : String) : (addNodeRule rule text rules).lines? rule = some (lines.push text) := by
  cases rule <;> cases held <;> rfl

theorem normal_addTextRule_congr {rules : TextRules} (held : rules.lines? rule = some lines)
    {text text' : String} (same : Lines.ofBlock text = Lines.ofBlock text') :
    (addTextRule rule text rules).mapLines Lines.normal =
      (addTextRule rule text' rules).mapLines Lines.normal := by
  cases rule <;> cases held <;>
    simp [addTextRule, TextRules.mapLines, Lines.normal_push_congr same]

theorem normal_addNodeRule_congr {rules : NodeRules} (held : rules.lines? rule = some lines)
    {text text' : String} (same : Lines.ofBlock text = Lines.ofBlock text') :
    (addNodeRule rule text rules).mapLines Lines.normal =
      (addNodeRule rule text' rules).mapLines Lines.normal := by
  cases rule <;> cases held <;>
    simp [addNodeRule, NodeRules.mapLines, Lines.normal_push_congr same]

theorem stop_word (other : rule ≠ .path) (s : HalfRead) : s.stop rule.word = s.addRule rule := by
  cases rule with
  | path => exact absurd rfl other
  | submatch => rfl
  | includes => rfl
  | excludes => rfl
  | removes => rfl

/-- The end of an element adds the text in it as a block to the lines. -/
theorem lines?_stop (held : s.lines? rule = some lines) :
    (s.stop rule.word).lines? rule = some (lines.push s.text) := by
  obtain ⟨definition, root, openFields, current, text⟩ := s
  rcases lines?_cases held with ⟨rfl, f, outer, rfl, rfl⟩ | ⟨other, ⟨rfl, found⟩ | ⟨f, outer, rfl,
    ⟨rfl, found⟩ | ⟨rfl, found⟩⟩⟩
  · rfl
  · rw [stop_word other, lines?, if_neg other]
    exact lines?_addTextRule found text
  · rw [stop_word other, lines?, if_neg other]
    exact lines?_addTextRule found text
  · rw [stop_word other, lines?, if_neg other]
    exact lines?_addNodeRule found text

/-- Of the text in an element only the lines count. -/
theorem normal_stop_congr (held : s.lines? rule = some lines) {text text' : String}
    (same : Lines.ofBlock text = Lines.ofBlock text') :
    normal { ({ s with text := text }).stop rule.word with text := "" } =
      normal { ({ s with text := text' }).stop rule.word with text := "" } := by
  obtain ⟨definition, root, openFields, current, before⟩ := s
  rcases lines?_cases held with ⟨rfl, f, outer, rfl, rfl⟩ | ⟨other, ⟨rfl, found⟩ | ⟨f, outer, rfl,
    ⟨rfl, found⟩ | ⟨rfl, found⟩⟩⟩
  · simp [stop, Rule.word, updateField, normal, mapLines, Field.mapLines_eq,
      Lines.normal_push_congr same f.path]
  · have rules := normal_addTextRule_congr found same
    simp [stop_word other, addRule, normal, mapLines, Definition.mapLines, rules]
  · have rules := normal_addTextRule_congr found same
    simp [stop_word other, addRule, updateField, normal, mapLines, Field.mapLines_eq, rules]
  · have rules := normal_addNodeRule_congr found same
    simp [stop_word other, addRule, updateField, normal, mapLines, Field.mapLines_eq, rules]

/-! ## Content -/

theorem foldlM_gapEvents (d : Xml.CharData) (s : HalfRead) :
    (Xml.gapEvents d.chars).foldlM read s =
      .ok { s with text := s.text ++ String.ofList d.kept } := by
  have known := d.unescape?_core
  have cut : Xml.gapEvents d.chars = Xml.textEvents d.core := rfl
  rw [cut, Xml.textEvents]
  split
  · next empty =>
      rw [List.isEmpty_iff.mp empty] at known
      rw [← Option.some.inj known, String.append_empty]
      rfl
  · rw [List.foldlM_cons, read, known]
    rfl

theorem foldlM_insert (insert : Xml.Insert) (s : HalfRead) :
    insert.events.foldlM read s = .ok { s with text := s.text ++ String.ofList insert.text } := by
  cases insert with
  | verbatim chars closed => rfl
  | comment chars closed =>
      refine congrArg Except.ok ?_
      rw [Xml.Insert.text, String.append_empty]

/-- Content is read as the text that is kept of it. -/
theorem foldlM_content (content : Xml.Content) (s : HalfRead) :
    content.events.foldlM read s = .ok { s with text := s.text ++ content.kept } := by
  obtain ⟨first, more⟩ := content
  induction more generalizing first s with
  | nil =>
      simp only [Xml.Content.events, Xml.Content.kept, List.flatMap_nil, List.append_nil]
      exact foldlM_gapEvents first s
  | cons m more ih =>
      obtain ⟨insert, d⟩ := m
      have whole := foldlM_append_ok (foldlM_gapEvents first s)
        (foldlM_append_ok (foldlM_insert insert _) (ih _ d))
      simp only [Xml.Content.events, Xml.Content.kept, List.flatMap_cons, List.append_assoc,
        String.ofList_append, String.append_assoc] at whole ⊢
      exact whole

end HalfRead

/-! ## Elements with content -/

/-- The name of an element for a rule. -/
def wordName (rule : Rule) : Xml.Name where
  text := rule.word
  filled := by cases rule <;> simp [Rule.word]
  letters := by cases rule <;> simp [Rule.word]

/-- A text with some content in front of an end tag. -/
def withContent (front : List Char) (name : String) (blanks back : List Char)
    (content : Xml.Content) : String :=
  String.ofList (front ++ (content.chars ++ '<' :: '/' :: (name.toList ++ (blanks ++ '>' :: back))))

/-- What is read up to the end of an element with content. -/
def elementEvents (before : List Xml.Event) (name : String) (attributes : List Char)
    (content : Xml.Content) : List Xml.Event :=
  before ++ .start name attributes :: (content.events ++ [.stop name])

/-- At its end, an element for a rule is known with the text that is kept of its content. -/
theorem HalfRead.foldlM_elementEvents {before : List Xml.Event} {s : HalfRead}
    (run : before.foldlM read {} = .ok s) (rule : Rule) (attributes : List Char)
    (content : Xml.Content) :
    (elementEvents before rule.word attributes content).foldlM read {} =
      .ok { ({ s with text := content.kept }).stop rule.word with text := "" } := by
  have begun : s.read (.start rule.word attributes) = .ok { s with text := "" } := by
    rw [read, start_word]
    rfl
  have inside := foldlM_content content { s with text := "" }
  rw [show ({ s with text := "" } : HalfRead).text ++ content.kept = content.kept from
    String.empty_append] at inside
  refine foldlM_append_ok run ?_
  rw [List.foldlM_cons, begun]
  exact foldlM_append_ok inside rfl

/-- In an element that holds rules, whatever its content, the rules are read as one block of lines,
which is the text of the content up to the blanks that are lost at the ends of its pieces.  The
lines in it are those of the whole text exactly if each gap between visible characters keeps a line
break, or all its blanks if there is none among them.  Contents with the same lines give the same
definition, up to the blocks in which its lines are. -/
theorem ofXml_withContent {text : String} {before after : List Xml.Event} {rule : Rule}
    {attributes : List Char} {s : HalfRead} {lines : Lines}
    (located : Xml.events text = before ++ .start rule.word attributes :: after)
    (run : before.foldlM HalfRead.read {} = .ok s) (held : s.lines? rule = some lines) :
    ∃ front, front <+: text.toList ∧
      Xml.events (String.ofList front) = before ++ [.start rule.word attributes] ∧
      ∀ blanks back : List Char, (∀ c ∈ blanks, Xml.isBlank c = true) → ∀ content : Xml.Content,
        (∃ t, elementEvents before rule.word attributes content <+:
            Xml.events (withContent front rule.word blanks back content) ∧
          (elementEvents before rule.word attributes content).foldlM HalfRead.read {} = .ok t ∧
          t.lines? rule = some (lines.push content.kept)) ∧
        (Lines.ofBlock content.kept = Lines.ofBlock content.text ↔
          Lines.KeepsLines content.marked) ∧
        ∀ other : Xml.Content, Lines.ofBlock other.kept = Lines.ofBlock content.kept →
          (ofXml (withContent front rule.word blanks back other)).map normal =
            (ofXml (withContent front rule.word blanks back content)).map normal := by
  obtain ⟨front, within, reads⟩ := Xml.exists_front located rfl
  have whole := reads []
  rw [List.append_nil, Xml.eventsOf_nil] at whole
  refine ⟨front, within, whole, fun blanks back blank content => ?_⟩
  have closes := Xml.markup?_stop (wordName rule) blank (Xml.unclosed before) back
  have cut (content : Xml.Content) :
      Xml.events (withContent front rule.word blanks back content) =
        elementEvents before rule.word attributes content ++
          Xml.eventsOf (Xml.unclosed before) back := by
    rw [withContent, reads]
    refine (congrArg _ (congrArg _ (content.eventsOf_append closes))).trans ?_
    simp [elementEvents, wordName]
  have ends := HalfRead.foldlM_elementEvents run rule attributes
  refine ⟨⟨_, cut content ▸ List.prefix_append _ _, ends content, ?_⟩, ?_, fun other same => ?_⟩
  · exact HalfRead.lines?_stop (s := { s with text := content.kept }) held
  · rw [Lines.ofBlock_eq_iff, ← content.marked_kept, ← content.marked_text]
    exact Lines.lineChars_keptChars_iff fun m member dropped =>
      Xml.isBlank_unicode (content.isBlank_of_dropped m member dropped)
  · exact HalfRead.normal_ofXml_congr (cut other) (cut content) (ends other) (ends content)
      (HalfRead.normal_stop_congr held same)

/-- The front of a definition up to its first query. -/
def offerFront : String := "<Pattern><Field title=\"Offer\" type=\"string\"><Path>"

/-- Queries with a comment behind them. -/
def commented : Xml.Content where
  first := { chars := "//a\n//b".toList }
  more := [(.comment " links ".toList, { chars := [] })]

theorem ofXml_withContent_offer :
    ∃ before s, Xml.events offerFront = before ++ [.start Rule.path.word []] ∧
      before.foldlM HalfRead.read {} = .ok s ∧ s.lines? .path = some {} ∧
      ∃ front, front <+: offerFront.toList ∧
        (∃ t, (elementEvents before Rule.path.word [] commented).foldlM HalfRead.read {} = .ok t ∧
          t.lines? .path = some (Lines.push {} "//a\n//b")) ∧
        ∀ content : Xml.Content, Lines.ofBlock content.kept = Lines.ofBlock "//a\n//b" →
          (ofXml (withContent front Rule.path.word [] [] content)).map normal =
            (ofXml (withContent front Rule.path.word [] [] commented)).map normal := by
  have located : Xml.events offerFront =
      [.start "Pattern" [], .start "Field" " title=\"Offer\" type=\"string\"".toList] ++
        .start Rule.path.word [] :: [] := by cbv
  have run : [Xml.Event.start "Pattern" [],
      .start "Field" " title=\"Offer\" type=\"string\"".toList].foldlM HalfRead.read {} =
        .ok { openFields := [{ title := "Offer", type := "string" }] } := by cbv
  have kept : commented.kept = "//a\n//b" := by cbv
  have held : HalfRead.lines? { openFields := [{ title := "Offer", type := "string" }] } .path =
      some {} := rfl
  obtain ⟨front, within, -, elements⟩ := ofXml_withContent located run held
  obtain ⟨⟨t, -, reads, lines⟩, -, alike⟩ := elements [] [] (List.forall_mem_nil _) commented
  rw [kept] at lines alike
  exact ⟨_, _, located, run, held, front, within, ⟨t, reads, lines⟩, alike⟩

/-- Queries with a comment between them. -/
def divided : Xml.Content where
  first := { chars := "//a\n".toList }
  more := [(.comment " or ".toList, { chars := "\n//b".toList })]

/-- A comment between two lines makes one line of them. -/
theorem ofXml_divided : ¬∀ (content : Xml.Content) (d : Definition),
    ofXml (withContent offerFront.toList Rule.path.word [] "</Field></Pattern>".toList content) =
      .ok d → d.field.path.toList = Lines.ofBlock content.text := by
  intro whole
  have inside : divided.chars = "//a\n<!-- or -->\n//b".toList := by decide +kernel
  have read : ofXml (withContent offerFront.toList Rule.path.word []
      "</Field></Pattern>".toList divided) =
        .ok { field := { title := "Offer", type := "string", path := ⟨["//a//b"]⟩ } } := by
    rw [withContent, inside]
    cbv
  have lines := whole divided _ read
  have joined : Lines.toList ⟨["//a//b"]⟩ = ["//a//b"] := by cbv
  have apart : Lines.ofBlock divided.text = ["//a", "//b"] := by cbv
  rw [joined, apart] at lines
  cases (List.cons.inj lines).2

end Harvest.Definition
