import Mathlib
import Harvest.Proofs.Definition.Sheet

/-!
# Definitions written as XML

A sheet is read as the definition that it stands for.  The reader keeps a stack of the fields that
are open; in front of each part of a field, the innermost open field is what the parts before it
make up, and the fields around it are as they were when it was opened.
-/

namespace Harvest.Definition

open Text (Trimmed)

namespace HalfRead

/-! ## Attributes -/

/-- Attributes that were written are applied one after the other. -/
theorem applyAttributes_of {α β : Type} {set : α → String → String → α}
    {write : β → Xml.Name × String} {apply : α → β → α}
    (sets : ∀ a b, set a (write b).1.text (write b).2 = apply a b) (bs : List β) (a : α) :
    applyAttributes set a (.of (bs.map write)) = .ok (bs.foldl apply a) := by
  induction bs generalizing a with
  | nil => rfl
  | cons b bs ih =>
      rw [List.map_cons, Xml.Attributes.of, applyAttributes, Xml.unescape?_escape]
      dsimp only
      rw [sets, ih, List.foldl_cons]

theorem isOn_flagWord (value : Bool) : isOn (Attribute.flagWord value) = value := by
  cases value <;> cbv

theorem setAttribute_written (f : Field) (a : Attribute) :
    setAttribute f a.written.1.text a.written.2 = a.set f := by
  cases a <;> simp [Attribute.written, Attribute.name, Attribute.value, setAttribute,
    isOn_flagWord, Attribute.set]

theorem setPatternAttribute_written (d : Definition) (a : PatternAttribute) :
    setPatternAttribute d a.written.1.text a.written.2 = a.set d := by
  cases a <;> rfl

/-! ## Elements -/

theorem foldlM_append_ok {es fs : List Xml.Event} {s t u : HalfRead}
    (first : es.foldlM read s = .ok t) (second : fs.foldlM read t = .ok u) :
    (es ++ fs).foldlM read s = .ok u := by
  rw [List.foldlM_append, first]
  exact second

/-- A text is known at the end tag behind it. -/
theorem foldlM_leaf {s : HalfRead} {name : Xml.Name} (started : s.start name.text [] = .ok s)
    (clear : s.text = "") (text : Trimmed) :
    (Xml.Element.leaf name text).events.foldlM read s =
      .ok { ({ s with text := text.text }).stop name.text with text := "" } := by
  have begun : s.read (.start name.text []) = .ok s := by
    rw [read, started]
    exact congrArg Except.ok (by rw [← clear])
  have known : (Xml.textEvents (Xml.escape text.text)).foldlM read s =
      .ok { s with text := text.text } := by
    rw [Xml.textEvents]
    split
    · next nothing =>
        have empty : text.text = "" := by
          have same := Xml.unescape?_escape text.text
          rw [List.isEmpty_iff.mp nothing] at same
          exact (Option.some.inj same).symm
        rw [empty, ← clear]
        rfl
    · have unescaped : s.read (.text (Xml.escape text.text)) = .ok { s with text := text.text } := by
        rw [read, Xml.unescape?_escape]
        dsimp only
        rw [clear, String.empty_append]
      rw [List.foldlM_cons, unescaped]
      rfl
  rw [Xml.Element.events, List.foldlM_cons, begun]
  exact foldlM_append_ok known rfl

theorem foldlM_node {s t u : HalfRead} {name : Xml.Name} {as : List (Xml.Name × String)}
    {content : List Xml.Element}
    (started : s.start name.text (as.flatMap Xml.attributeChars) = .ok t) (clear : t.text = "")
    (inside : (Xml.contentEvents content).foldlM read t = .ok u) :
    (Xml.Element.node name as content).events.foldlM read s =
      .ok { u.stop name.text with text := "" } := by
  have begun : s.read (.start name.text (as.flatMap Xml.attributeChars)) = .ok t := by
    rw [read, started]
    exact congrArg Except.ok (by rw [← clear])
  rw [Xml.Element.events, List.foldlM_cons, begun]
  exact foldlM_append_ok inside rfl

/-! ## Sections -/

theorem start_ruleLine (s : HalfRead) (r : RuleLine) : s.start r.name.text [] = .ok s := by
  obtain ⟨rule, text, inSection⟩ := r
  cases rule <;> rfl

theorem stop_ruleLine (s : HalfRead) (r : RuleLine) : s.stop r.name.text = s.addRule r.rule := by
  obtain ⟨rule, text, inSection⟩ := r
  cases rule with
  | path => exact absurd rfl inSection
  | submatch => rfl
  | includes => rfl
  | excludes => rfl
  | removes => rfl

/-- The rules in a section are added one after the other; `put` is what is known when some have been
added. -/
theorem foldlM_rules (put : List RuleLine → HalfRead) (clear : ∀ rs, (put rs).text = "")
    (adds : ∀ rs r, { ({ put rs with text := r.text.text }).addRule r.rule with text := "" } =
      put (rs ++ [r])) (rules rs : List RuleLine) :
    (Xml.contentEvents (rules.map RuleLine.element)).foldlM read (put rs) =
      .ok (put (rs ++ rules)) := by
  induction rules generalizing rs with
  | nil => rw [List.append_nil]; rfl
  | cons r rules ih =>
      have first := foldlM_leaf (start_ruleLine (put rs) r) (clear rs) r.text
      rw [stop_ruleLine, adds] at first
      have later := ih (rs ++ [r])
      rw [List.append_assoc] at later
      exact foldlM_append_ok first later

end HalfRead

theorem getD_textRules? (rs : List RuleLine) :
    (textRules? rs).getD {} =
      { submatch := (linesOf .submatch rs).getLast?.getD ""
        includes := ⟨linesOf .includes rs⟩
        excludes := ⟨linesOf .excludes rs⟩
        removes := ⟨linesOf .removes rs⟩ } := by
  cases rs <;> rfl

theorem getD_nodeRules? (rs : List RuleLine) :
    (nodeRules? rs).getD {} =
      { includes := ⟨linesOf .includes rs⟩
        excludes := ⟨linesOf .excludes rs⟩
        removes := ⟨linesOf .removes rs⟩ } := by
  cases rs <;> rfl

/-- One more rule for texts. -/
theorem textRules?_append (rs : List RuleLine) (r : RuleLine) :
    textRules? (rs ++ [r]) =
      some (HalfRead.addTextRule r.rule r.text.text ((textRules? rs).getD {})) := by
  have filled : ¬(rs ++ [r]).isEmpty = true := by simp
  rw [textRules?, if_neg filled, getD_textRules?]
  obtain ⟨rule, text, inSection⟩ := r
  cases rule with
  | path => exact absurd rfl inSection
  | submatch => simp [linesOf_cons, HalfRead.addTextRule, text.trimmed]
  | includes => simp [linesOf_cons, HalfRead.addTextRule, Lines.push]
  | excludes => simp [linesOf_cons, HalfRead.addTextRule, Lines.push]
  | removes => simp [linesOf_cons, HalfRead.addTextRule, Lines.push]

/-- One more rule for nodes. -/
theorem nodeRules?_append (rs : List RuleLine) (r : RuleLine) :
    nodeRules? (rs ++ [r]) =
      some (HalfRead.addNodeRule r.rule r.text.text ((nodeRules? rs).getD {})) := by
  have filled : ¬(rs ++ [r]).isEmpty = true := by simp
  rw [nodeRules?, if_neg filled, getD_nodeRules?]
  obtain ⟨rule, text, inSection⟩ := r
  cases rule with
  | path => exact absurd rfl inSection
  | submatch => simp [linesOf_cons, HalfRead.addNodeRule]
  | includes => simp [linesOf_cons, HalfRead.addNodeRule, Lines.push]
  | excludes => simp [linesOf_cons, HalfRead.addNodeRule, Lines.push]
  | removes => simp [linesOf_cons, HalfRead.addNodeRule, Lines.push]

/-! ## Fields -/

section

variable (h : Head) (done : List Part)

theorem fill_append_path (line : Trimmed) :
    h.fill (done ++ [.path line]) =
      { h.fill done with path := (h.fill done).path.push line.text } := by
  simp [Head.fill, Head.fillWith, childrenOf_eq, Part.line?, Part.dataRules, Part.xdataRules,
    Part.field?, Lines.push]

theorem fill_append_data (rules : List RuleLine) :
    h.fill (done ++ [.data rules]) =
      { h.fill done with data := textRules? (done.flatMap Part.dataRules ++ rules) } := by
  simp [Head.fill, Head.fillWith, childrenOf_eq, Part.line?, Part.dataRules, Part.xdataRules,
    Part.field?]

theorem fill_append_xdata (rules : List RuleLine) :
    h.fill (done ++ [.xdata rules]) =
      { h.fill done with xdata := nodeRules? (done.flatMap Part.xdataRules ++ rules) } := by
  simp [Head.fill, Head.fillWith, childrenOf_eq, Part.line?, Part.dataRules, Part.xdataRules,
    Part.field?]

theorem fill_append_field (head : Head) (parts : List Part) :
    h.fill (done ++ [.field head parts]) =
      { h.fill done with fields := (h.fill done).fields ++ [head.fill parts] } := by
  simp [Head.fill, Head.fillWith, childrenOf_eq, Part.line?, Part.dataRules, Part.xdataRules,
    Part.field?]

end

/-- Attributes leave what is said by parts as it is. -/
theorem foldl_set_parts (as : List Attribute) (f : Field) :
    (as.foldl Attribute.set f).path = f.path ∧ (as.foldl Attribute.set f).data = f.data ∧
      (as.foldl Attribute.set f).xdata = f.xdata ∧
      (as.foldl Attribute.set f).fields = f.fields := by
  induction as generalizing f with
  | nil => exact ⟨rfl, rfl, rfl, rfl⟩
  | cons a as ih =>
      rw [List.foldl_cons]
      obtain ⟨path, data, xdata, fields⟩ := ih (a.set f)
      rw [path, data, xdata, fields]
      cases a <;> exact ⟨rfl, rfl, rfl, rfl⟩

theorem Head.fill_nil (h : Head) : h.fill [] = h.start := by
  obtain ⟨path, data, xdata, fields⟩ := foldl_set_parts h.attributes {}
  rw [Head.fill, Head.fillWith, Head.start]
  generalize h.attributes.foldl Attribute.set {} = f at path data xdata fields
  obtain ⟨_, _, _, _, _, _, _, _, _, _, _⟩ := f
  subst path data xdata fields
  rfl

namespace HalfRead

/-- What is known between two elements that stand in no section. -/
def between (d : Definition) (root : Option Field) (openFields : List Field) : HalfRead :=
  { definition := d, root, openFields }

theorem foldlM_path (d : Definition) (root : Option Field) (outer : List Field) (f : Field)
    (line : Trimmed) :
    (Part.path line).element.events.foldlM read (between d root (f :: outer)) =
      .ok (between d root ({ f with path := f.path.push line.text } :: outer)) :=
  foldlM_leaf rfl rfl line

/-- A section is left with the rules in it added; `put` is what is known around it when some have
been added. -/
theorem foldlM_section (put : List RuleLine → HalfRead) {kind : Section} {name : Xml.Name}
    (starts : ∀ s : HalfRead, s.start name.text [] = .ok { s with current := some kind })
    (stops : ∀ s : HalfRead, s.stop name.text = { s with current := none })
    (closed : ∀ rs, (put rs).current = none) (clear : ∀ rs, (put rs).text = "")
    (adds : ∀ rs r, { ({ put rs with current := some kind, text := r.text.text }).addRule r.rule with
      text := "" } = { put (rs ++ [r]) with current := some kind })
    (rules rs : List RuleLine) :
    (Xml.Element.node name [] (rules.map RuleLine.element)).events.foldlM read (put rs) =
      .ok (put (rs ++ rules)) := by
  have inside := foldlM_rules (fun rs => { put rs with current := some kind }) clear adds rules rs
  have known : { ({ put (rs ++ rules) with current := some kind } : HalfRead).stop name.text with
      text := "" } = put (rs ++ rules) := by
    rw [stops, ← closed (rs ++ rules), ← clear (rs ++ rules)]
  rw [← known]
  exact foldlM_node (t := { put rs with current := some kind }) (starts (put rs)) (clear rs) inside

variable (d : Definition) (root : Option Field) (outer : List Field)

theorem foldlM_data (f : Field) (rs rules : List RuleLine) :
    (Part.data rules).element.events.foldlM read
        (between d root ({ f with data := textRules? rs } :: outer)) =
      .ok (between d root ({ f with data := textRules? (rs ++ rules) } :: outer)) :=
  foldlM_section (fun rs => between d root ({ f with data := textRules? rs } :: outer))
    (fun _ => rfl) (fun _ => rfl) (fun _ => rfl) (fun _ => rfl)
    (fun rs r => by rw [textRules?_append]; rfl) rules rs

theorem foldlM_xdata (f : Field) (rs rules : List RuleLine) :
    (Part.xdata rules).element.events.foldlM read
        (between d root ({ f with xdata := nodeRules? rs } :: outer)) =
      .ok (between d root ({ f with xdata := nodeRules? (rs ++ rules) } :: outer)) :=
  foldlM_section (fun rs => between d root ({ f with xdata := nodeRules? rs } :: outer))
    (fun _ => rfl) (fun _ => rfl) (fun _ => rfl) (fun _ => rfl)
    (fun rs r => by rw [nodeRules?_append]; rfl) rules rs

theorem foldlM_url (rs rules : List RuleLine) :
    (Sheet.urlElement rules).events.foldlM read
        (between { d with url := textRules? rs } root outer) =
      .ok (between { d with url := textRules? (rs ++ rules) } root outer) :=
  foldlM_section (fun rs => between { d with url := textRules? rs } root outer)
    (fun _ => rfl) (fun _ => rfl) (fun _ => rfl) (fun _ => rfl)
    (fun rs r => by rw [textRules?_append]; rfl) rules rs

theorem start_field (s : HalfRead) (h : Head) :
    s.start fieldName.text ((h.attributes.map Attribute.written).flatMap Xml.attributeChars) =
      .ok { s with openFields := h.start :: s.openFields } := by
  have distinct : ((h.attributes.map Attribute.written).map fun a => a.1.text).Nodup := by
    rw [List.map_map]
    exact h.distinct
  have applied := applyAttributes_of setAttribute_written h.attributes {}
  rw [← Xml.attributes_flatMap distinct] at applied
  rw [fieldName, start, applied]
  rfl

/-- A field is closed as what its parts make up, if they do so inside it. -/
theorem foldlM_field_of {h : Head} {parts : List Part}
    (inside : (Xml.contentEvents (elementsOf parts)).foldlM read
        (between d root (h.start :: outer)) =
      .ok (between d root (h.fill parts :: outer))) :
    (Part.field h parts).element.events.foldlM read (between d root outer) =
      .ok ((between d root outer).close (h.fill parts)) := by
  have stopped : { (between d root (h.fill parts :: outer)).stop fieldName.text with text := "" } =
      (between d root outer).close (h.fill parts) := by
    cases outer <;> rfl
  rw [← stopped]
  exact foldlM_node (start_field (between d root outer) h) rfl inside

mutual

/-- Each part is added to the field that is open innermost. -/
theorem foldlM_part (d : Definition) (root : Option Field) :
    ∀ (p : Part) (outer : List Field) (h : Head) (done : List Part),
      p.element.events.foldlM read (between d root (h.fill done :: outer)) =
        .ok (between d root (h.fill (done ++ [p]) :: outer))
  | .path line, outer, h, done => by
      rw [fill_append_path]
      exact foldlM_path d root outer (h.fill done) line
  | .data rules, outer, h, done => by
      rw [fill_append_data]
      exact foldlM_data d root outer (h.fill done) (done.flatMap Part.dataRules) rules
  | .xdata rules, outer, h, done => by
      rw [fill_append_xdata]
      exact foldlM_xdata d root outer (h.fill done) (done.flatMap Part.xdataRules) rules
  | .field head parts, outer, h, done => by
      have inside := foldlM_parts d root parts (h.fill done :: outer) head []
      rw [head.fill_nil, List.nil_append] at inside
      rw [fill_append_field]
      exact foldlM_field_of d root (h.fill done :: outer) inside

theorem foldlM_parts (d : Definition) (root : Option Field) :
    ∀ (ps : List Part) (outer : List Field) (h : Head) (done : List Part),
      (Xml.contentEvents (elementsOf ps)).foldlM read (between d root (h.fill done :: outer)) =
        .ok (between d root (h.fill (done ++ ps) :: outer))
  | [], outer, h, done => by
      rw [List.append_nil]
      rfl
  | p :: ps, outer, h, done => by
      have later := foldlM_parts d root ps outer h (done ++ [p])
      rw [List.append_assoc] at later
      exact foldlM_append_ok (foldlM_part d root p outer h done) later

end

/-! ## Sheets -/

/-- The rules for the address are collected from all sections for it. -/
theorem foldlM_urls (sections : List (List RuleLine)) (rs : List RuleLine) :
    (Xml.contentEvents (sections.map Sheet.urlElement)).foldlM read
        (between { d with url := textRules? rs } root outer) =
      .ok (between { d with url := textRules? (rs ++ sections.flatten) } root outer) := by
  induction sections generalizing rs with
  | nil =>
      rw [List.flatten_nil, List.append_nil]
      rfl
  | cons rules sections ih =>
      have later := ih (rs ++ rules)
      rw [List.append_assoc] at later
      exact foldlM_append_ok (foldlM_url d root outer rs rules) later

theorem foldl_set_url (as : List PatternAttribute) (d : Definition) :
    (as.foldl PatternAttribute.set d).url = d.url := by
  induction as generalizing d with
  | nil => rfl
  | cons a as ih =>
      rw [List.foldl_cons, ih]
      cases a <;> rfl

theorem start_pattern (s : Sheet) :
    start {} "Pattern" ((s.attributes.map PatternAttribute.written).flatMap Xml.attributeChars) =
      .ok (between (s.attributes.foldl PatternAttribute.set {}) none []) := by
  have distinct : ((s.attributes.map PatternAttribute.written).map fun a => a.1.text).Nodup := by
    rw [List.map_map]
    exact s.distinct
  have applied := applyAttributes_of setPatternAttribute_written s.attributes {}
  rw [← Xml.attributes_flatMap distinct] at applied
  rw [start, applied]
  rfl

end HalfRead

open HalfRead in
/-- What is known when a sheet has been read. -/
theorem foldlM_sheet (s : Sheet) :
    s.element.events.foldlM read {} = .ok (between
      { s.attributes.foldl PatternAttribute.set {} with
        url := textRules? (s.before.flatten ++ s.after.flatten) }
      (some (s.head.fill s.parts)) []) := by
  have start := start_pattern s
  have nothing := foldl_set_url s.attributes {}
  generalize s.attributes.foldl PatternAttribute.set {} = d at start nothing
  have empty : d = { d with url := textRules? [] } := by
    rw [show textRules? [] = d.url from nothing.symm]
  have before := foldlM_urls d none [] s.before []
  have inside := foldlM_parts { d with url := textRules? s.before.flatten } none s.parts [] s.head []
  rw [s.head.fill_nil, List.nil_append] at inside
  have field := foldlM_field_of { d with url := textRules? s.before.flatten } none [] inside
  have after := foldlM_urls d (some (s.head.fill s.parts)) [] s.after s.before.flatten
  rw [← empty, List.nil_append] at before
  have content : (Xml.contentEvents (s.before.map Sheet.urlElement ++
      (Part.field s.head s.parts).element :: s.after.map Sheet.urlElement)).foldlM read
        (between d none []) = .ok (between
          { d with url := textRules? (s.before.flatten ++ s.after.flatten) }
          (some (s.head.fill s.parts)) []) := by
    rw [Xml.contentEvents_append, Xml.contentEvents]
    exact foldlM_append_ok before (foldlM_append_ok field after)
  rw [Sheet.element, foldlM_node start rfl content]
  rfl

/-- A sheet is read as the definition that it stands for. -/
theorem ofXml_sheet (s : Sheet) {gap : Nat → List Char}
    (blank : ∀ n, ∀ c ∈ gap n, Xml.isBlank c = true) :
    ofXml (s.element.document gap) = .ok s.definition := by
  rw [ofXml, Xml.events_document blank, foldlM_sheet]
  rfl

/-- A definition whose rules can be told from rules that are left out has a sheet, and from each of
its sheets, in whatever order the parts of a field are written and whatever blanks stand in front of
the tags, a definition is read that has the same JSON form. -/
theorem ofXml_written (d : Definition) (writable : d.Writable) :
    d.sheet.definition = d.normal ∧
      ∀ (s : Sheet) (gap : Nat → List Char), s.definition = d.normal →
        (∀ n, ∀ c ∈ gap n, Xml.isBlank c = true) →
          ∃ d', ofXml (s.element.document gap) = .ok d' ∧ d'.toJson = d.toJson := by
  refine ⟨definition_sheet writable, fun s gap same blank => ⟨s.definition, ?_, ?_⟩⟩
  · exact ofXml_sheet s blank
  · rw [same, toJson_normal]

/-- Offers of a shop: the price without its currency, and the text without what is not shown. -/
def offers : Definition where
  url := some { includes := ⟨["^https://[^/]+/offers\\?a=1&b=2"]⟩ }
  field :=
    { title := "Offer <\"new\">", type := "struct", path := ⟨["//li\n//tr[@class='offer']"]⟩,
      multiple := true,
      fields :=
        [{ title := "price", type := "float64", path := ⟨["b", ".//td[2]"]⟩,
           data := some { submatch := "(\\d+) EUR", excludes := ⟨["sold"]⟩ } },
         { title := "text", type := "html", optional := true, path := ⟨["p"]⟩,
           xdata := some { excludes := ⟨[".//s", ".//del"]⟩ },
           fields := [{ title := "mark", type := "string", path := ⟨["em"]⟩ }] }] }
  mime := "html"
  storage := some "offers"

/-- Each tag on a line of its own, indented by the number of elements around it. -/
def indented (level : Nat) : List Char := '\n' :: List.replicate level ' '

theorem ofXml_written_offers : offers.Writable ∧ ∃ d',
    ofXml (offers.sheet.element.document indented) = .ok d' ∧ d'.toJson = offers.toJson := by
  have writable : offers.Writable := by decide +kernel
  have blank : ∀ level, ∀ c ∈ indented level, Xml.isBlank c = true := by
    intro level c member
    obtain rfl | spaces := List.mem_cons.mp member
    · rfl
    · rw [List.eq_of_mem_replicate spaces]
      rfl
  obtain ⟨same, read⟩ := ofXml_written offers writable
  exact ⟨writable, read offers.sheet indented same blank⟩

end Harvest.Definition
