import Mathlib
import Harvest.Proofs.Definition.Acceptance
import Harvest.Proofs.Definition.Normal

/-!
# Reading and the blocks of lines

Reading adds blocks of lines to a definition, but does not look at those that are in it.  Two that
are half read and hold the same lines in different blocks hold the same lines whatever is read next,
and end as definitions with one normal form or with the same mistake.
-/

namespace Harvest

/-! ## Changes of lines -/

namespace Lines

theorem toList_push (lines : Lines) (block : String) :
    (lines.push block).toList = lines.toList ++ ofBlock block := by
  simp [push, toList]

@[simp] theorem normal_normal (lines : Lines) : lines.normal.normal = lines.normal := by
  rw [normal, toList_normal]
  rfl

@[simp] theorem normal_push_normal (lines : Lines) (block : String) :
    (lines.normal.push block).normal = (lines.push block).normal := by
  rw [normal, toList_push, toList_normal, ← toList_push]
  rfl

theorem normal_push_congr {block block' : String} (same : ofBlock block = ofBlock block')
    (lines : Lines) : (lines.push block).normal = (lines.push block').normal := by
  rw [normal, normal, toList_push, toList_push, same]

end Lines

namespace Definition

@[simp] theorem TextRules.mapLines_normal_normal (rules : TextRules) :
    (rules.mapLines Lines.normal).mapLines Lines.normal = rules.mapLines Lines.normal := by
  simp [mapLines]

@[simp] theorem NodeRules.mapLines_normal_normal (rules : NodeRules) :
    (rules.mapLines Lines.normal).mapLines Lines.normal = rules.mapLines Lines.normal := by
  simp [mapLines]

mutual

theorem Field.mapLines_normal_normal :
    ∀ f : Field, (f.mapLines Lines.normal).mapLines Lines.normal = f.mapLines Lines.normal
  | ⟨title, type, path, data, xdata, optional, transient, multiple, unique, standard, fields⟩ => by
      simp [Field.mapLines, Function.comp_def, mapLinesAll_normal_normal fields]

theorem mapLinesAll_normal_normal :
    ∀ fs : List Field,
      mapLinesAll Lines.normal (mapLinesAll Lines.normal fs) = mapLinesAll Lines.normal fs
  | [] => rfl
  | f :: fs => by
      rw [mapLinesAll, mapLinesAll, Field.mapLines_normal_normal f, mapLinesAll_normal_normal fs]

end

theorem mapLinesAll_append (change : Lines → Lines) (fs gs : List Field) :
    mapLinesAll change (fs ++ gs) = mapLinesAll change fs ++ mapLinesAll change gs := by
  induction fs with
  | nil => rfl
  | cons f fs ih => rw [List.cons_append, mapLinesAll, ih, mapLinesAll, List.cons_append]

theorem Field.mapLines_eq (change : Lines → Lines) (f : Field) :
    f.mapLines change =
      { f with
        path := change f.path
        data := f.data.map (·.mapLines change)
        xdata := f.xdata.map (·.mapLines change)
        fields := mapLinesAll change f.fields } := by
  cases f
  rfl

namespace HalfRead

/-! ## Reading up to the blocks of lines -/

/-- What is half read, with all of its lines changed. -/
def mapLines (change : Lines → Lines) (s : HalfRead) : HalfRead where
  definition := s.definition.mapLines change
  root := s.root.map (·.mapLines change)
  openFields := s.openFields.map (·.mapLines change)
  current := s.current
  text := s.text

/-- What is half read, with each line in a block of its own. -/
def normal (s : HalfRead) : HalfRead := s.mapLines Lines.normal

variable {s s' : HalfRead}

theorem close_mapLines (change : Lines → Lines) (s : HalfRead) (f : Field) :
    (s.close f).mapLines change = (s.mapLines change).close (f.mapLines change) := by
  obtain ⟨definition, root, openFields, current, text⟩ := s
  cases openFields with
  | nil => cases root <;> rfl
  | cons parent outer =>
      simp [close, mapLines, Field.mapLines_eq, mapLinesAll_append, mapLinesAll]

theorem finish_mapLines (change : Lines → Lines) (s : HalfRead) :
    (s.mapLines change).finish = s.finish.map (·.mapLines change) := by
  obtain ⟨definition, root, openFields, current, text⟩ := s
  cases root <;> rfl

theorem applyAttributes_map {α : Type} {set : α → String → String → α} {change : α → α}
    (commutes : ∀ a name value, set (change a) name value = change (set a name value)) (a : α)
    (attributes : Xml.Attributes) :
    applyAttributes set (change a) attributes = (applyAttributes set a attributes).map change := by
  induction attributes generalizing a with
  | done => rfl
  | broken => rfl
  | next name value rest ih =>
      rw [applyAttributes, applyAttributes]
      cases Xml.unescape? value with
      | none => rfl
      | some value =>
          dsimp only
          rw [commutes, ih]

theorem setPatternAttribute_mapLines (change : Lines → Lines) (d : Definition)
    (name value : String) :
    setPatternAttribute (d.mapLines change) name value =
      (setPatternAttribute d name value).mapLines change := by
  unfold setPatternAttribute
  split <;> rfl

theorem normal_normal (s : HalfRead) : s.normal.normal = s.normal := by
  obtain ⟨definition, root, openFields, current, text⟩ := s
  simp [normal, mapLines, Definition.mapLines, Field.mapLines_normal_normal, Function.comp_def]

theorem normal_close (s : HalfRead) (f : Field) :
    (s.normal.close f).normal = (s.close f).normal := by
  have twice : s.normal.mapLines Lines.normal = s.normal := s.normal_normal
  rw [normal, close_mapLines, twice]
  exact (close_mapLines Lines.normal s f).symm

theorem normal_updateField {change : Field → Field}
    (respects : ∀ f, (change (f.mapLines Lines.normal)).mapLines Lines.normal =
      (change f).mapLines Lines.normal) (s : HalfRead) :
    (s.normal.updateField change).normal = (s.updateField change).normal := by
  obtain ⟨definition, root, openFields, current, text⟩ := s
  cases openFields with
  | nil => exact normal_normal _
  | cons f outer =>
      simp [normal, mapLines, updateField, respects, Definition.mapLines,
        Field.mapLines_normal_normal, Function.comp_def]

theorem normal_addTextRule (rule : Rule) (text : String) (rules : Option TextRules) :
    (addTextRule rule text ((rules.map (·.mapLines Lines.normal)).getD {})).mapLines Lines.normal =
      (addTextRule rule text (rules.getD {})).mapLines Lines.normal := by
  have inner : (rules.map (·.mapLines Lines.normal)).getD {} =
      (rules.getD {}).mapLines Lines.normal := Option.getD_map _ {} rules
  rw [inner]
  cases rule <;> simp [addTextRule, TextRules.mapLines]

theorem normal_addNodeRule (rule : Rule) (text : String) (rules : Option NodeRules) :
    (addNodeRule rule text ((rules.map (·.mapLines Lines.normal)).getD {})).mapLines Lines.normal =
      (addNodeRule rule text (rules.getD {})).mapLines Lines.normal := by
  have inner : (rules.map (·.mapLines Lines.normal)).getD {} =
      (rules.getD {}).mapLines Lines.normal := Option.getD_map _ {} rules
  rw [inner]
  cases rule <;> simp [addNodeRule, NodeRules.mapLines]

theorem normal_addRule (rule : Rule) (s : HalfRead) :
    (s.normal.addRule rule).normal = (s.addRule rule).normal := by
  have current : s.normal.current = s.current := rfl
  unfold addRule
  rw [current]
  split
  · exact normal_normal s
  · obtain ⟨⟨url, field, mime, storage⟩, root, openFields, current, text⟩ := s
    simp [normal, mapLines, Definition.mapLines, normal_addTextRule, Field.mapLines_normal_normal,
      Function.comp_def]
  · refine normal_updateField (fun f => ?_) s
    simp [Field.mapLines_eq, normal_addTextRule, normal, mapLines, mapLinesAll_normal_normal,
      Function.comp_def]
  · refine normal_updateField (fun f => ?_) s
    simp [Field.mapLines_eq, normal_addNodeRule, normal, mapLines, mapLinesAll_normal_normal,
      Function.comp_def]

theorem normal_stop (name : String) (s : HalfRead) :
    (s.normal.stop name).normal = (s.stop name).normal := by
  unfold stop
  split
  · obtain ⟨definition, root, openFields, current, text⟩ := s
    cases openFields with
    | nil => exact normal_normal _
    | cons f outer =>
        let inner : HalfRead := ⟨definition, root, outer, current, text⟩
        change (inner.normal.close (f.mapLines Lines.normal)).normal = (inner.close f).normal
        rw [normal_close, normal, close_mapLines, Field.mapLines_normal_normal, ← close_mapLines]
        rfl
  · exact normal_normal { s with current := none }
  · exact normal_normal { s with current := none }
  · exact normal_normal { s with current := none }
  · refine normal_updateField (fun f => ?_) s
    simp [Field.mapLines_eq, normal, mapLines, mapLinesAll_normal_normal, Function.comp_def]
  · exact normal_addRule .submatch s
  · exact normal_addRule .includes s
  · exact normal_addRule .excludes s
  · exact normal_addRule .removes s
  · exact normal_normal { s with definition := { s.definition with mime := Text.trim s.text } }
  · exact normal_normal
      { s with definition := { s.definition with storage := some (Text.trim s.text) } }
  · exact normal_normal s

theorem normal_start (name : String) (attributes : List Char) (s : HalfRead) :
    (s.normal.start name attributes).map normal = (s.start name attributes).map normal := by
  unfold start
  split
  · have inner : s.normal.definition = s.definition.mapLines Lines.normal := rfl
    rw [inner, applyAttributes_map (setPatternAttribute_mapLines Lines.normal)]
    cases applyAttributes setPatternAttribute s.definition (Xml.attributes attributes) with
    | error mistake => rfl
    | ok d => exact congrArg Except.ok (normal_normal { s with definition := d })
  · cases applyAttributes setAttribute {} (Xml.attributes attributes) with
    | error mistake => rfl
    | ok f =>
        refine congrArg Except.ok ?_
        simp [normal, mapLines, Definition.mapLines, Field.mapLines_normal_normal,
          Function.comp_def]
  · exact congrArg Except.ok (normal_normal { s with current := some .url })
  · exact congrArg Except.ok (normal_normal { s with current := some .data })
  · exact congrArg Except.ok (normal_normal { s with current := some .xdata })
  · exact congrArg Except.ok (normal_normal s)

theorem normal_alone (name : String) (attributes : List Char) (s : HalfRead) :
    (s.normal.alone name attributes).map normal = (s.alone name attributes).map normal := by
  unfold alone
  split
  · exact normal_start _ attributes s
  · cases applyAttributes setAttribute {} (Xml.attributes attributes) with
    | error mistake => rfl
    | ok f => exact congrArg Except.ok (normal_close s f)
  · exact congrArg Except.ok (normal_normal s)

theorem exists_of_map_normal_eq {r r' : Except DecodeError HalfRead}
    (same : r.map normal = r'.map normal) : (∃ mistake, r = .error mistake ∧ r' = .error mistake) ∨
      ∃ t t', r = .ok t ∧ r' = .ok t' ∧ t.normal = t'.normal := by
  cases r with
  | error mistake =>
      cases r' with
      | error mistake' =>
          cases same
          exact .inl ⟨mistake, rfl, rfl⟩
      | ok t' => cases same
  | ok t =>
      cases r' with
      | error mistake' => cases same
      | ok t' => exact .inr ⟨t, t', rfl, rfl, Except.ok.inj same⟩

/-- A step does not look at the blocks in which lines are. -/
theorem normal_read (e : Xml.Event) (s : HalfRead) :
    (s.normal.read e).map normal = (s.read e).map normal := by
  have clear {t t' : HalfRead} (alike : t.normal = t'.normal) :
      normal { t with text := "" } = normal { t' with text := "" } :=
    congrArg (fun u : HalfRead => { u with text := "" }) alike
  have clear_map {r r' : Except DecodeError HalfRead} (same : r.map normal = r'.map normal) :
      (r.map ({ · with text := "" })).map normal = (r'.map ({ · with text := "" })).map normal := by
    obtain ⟨mistake, rfl, rfl⟩ | ⟨t, t', rfl, rfl, alike⟩ := exists_of_map_normal_eq same
    · rfl
    · exact congrArg Except.ok (clear alike)
  cases e with
  | start name attributes => exact clear_map (normal_start name attributes s)
  | alone name attributes => exact clear_map (normal_alone name attributes s)
  | stop name => exact congrArg Except.ok (clear (normal_stop name s))
  | text chars =>
      rw [read, read]
      cases Xml.unescape? chars with
      | none => rfl
      | some text => exact congrArg Except.ok (normal_normal { s with text := s.text ++ text })
  | verbatim chars =>
      exact congrArg Except.ok (normal_normal { s with text := s.text ++ String.ofList chars })
  | broken => rfl

/-- A run does not look at the blocks in which lines are. -/
theorem normal_foldlM_congr {es : List Xml.Event} (alike : s.normal = s'.normal) :
    (es.foldlM read s).map normal = (es.foldlM read s').map normal := by
  induction es generalizing s s' with
  | nil => exact congrArg Except.ok alike
  | cons e es ih =>
      have step : (s.read e).map normal = (s'.read e).map normal := by
        rw [← normal_read, alike, normal_read]
      rw [List.foldlM_cons, List.foldlM_cons]
      obtain ⟨mistake, first, first'⟩ | ⟨t, t', first, first', alike⟩ := exists_of_map_normal_eq step
      · rw [first, first']
      · rw [first, first']
        exact ih alike

/-- Nor does the definition that is read in the end. -/
theorem normal_ofXml_congr {first second : String} {es fs rest : List Xml.Event}
    (cut : Xml.events first = es ++ rest) (cut' : Xml.events second = fs ++ rest)
    (run : es.foldlM read {} = .ok s) (run' : fs.foldlM read {} = .ok s')
    (alike : s.normal = s'.normal) :
    (ofXml first).map Definition.normal = (ofXml second).map Definition.normal := by
  have finished (t : HalfRead) : t.finish.map Definition.normal = t.normal.finish :=
    (finish_mapLines Lines.normal t).symm
  rw [ofXml, ofXml, cut, cut', List.foldlM_append, List.foldlM_append, run, run']
  dsimp only [bind, Except.bind]
  have ends : (rest.foldlM read s).map normal = (rest.foldlM read s').map normal :=
    normal_foldlM_congr alike
  obtain ⟨mistake, last, last'⟩ | ⟨t, t', last, last', alike⟩ := exists_of_map_normal_eq ends
  · rw [last, last']
  · rw [last, last', finished, finished, alike]

end HalfRead

end Definition

end Harvest
