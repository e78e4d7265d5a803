import Mathlib
import Harvest.Definition.Xml
import Harvest.Proofs.Xml.Cut

/-!
# Which texts are definitions in XML

A text is a definition if all its events can be read and one of them ends a field that no other
field is around.  The first of these completes the root.  Which elements are open when the text ends
is not asked: what is cut off behind the root is a definition with the same root, even if rules for
the address are missing.
-/

namespace Harvest.Definition

/-! ## Events that can be read -/

/-- Whether all attributes of a tag can be read. -/
def areReadable : Xml.Attributes → Bool
  | .done => true
  | .next _ value rest => (Xml.unescape? value).isSome && areReadable rest
  | .broken => false

/-- Whether the characters behind the name of a tag can be read, if they matter. -/
def isReadableTag (name : String) (attributes : List Char) : Bool :=
  if name = "Pattern" ∨ name = "Field" then areReadable (Xml.attributes attributes) else true

/-- Whether an event can be read. -/
def isReadable : Xml.Event → Bool
  | .start name attributes => isReadableTag name attributes
  | .alone name attributes => isReadableTag name attributes
  | .stop _ => true
  | .text chars => (Xml.unescape? chars).isSome
  | .verbatim _ => true
  | .broken => false

/-- Whether an event is the end of a field. -/
def endsField : Xml.Event → Bool
  | .alone name _ => name == "Field"
  | .stop name => name == "Field"
  | _ => false

/-- Whether an event ends a field that no other field is around; `opened` are the names of the
elements that are open in front of it. -/
def EndsRoot (opened : List String) (e : Xml.Event) : Prop :=
  endsField e = true ∧ "Field" ∉ e.leaves opened

/-- Whether a field that no other field is around ends in some events. -/
def HasRoot (opened : List String) (es : List Xml.Event) : Prop :=
  ∃ before e after, es = before ++ e :: after ∧ EndsRoot (before.foldl Xml.Event.leaves opened) e

section Roots

variable {opened : List String} {es fs : List Xml.Event} {e : Xml.Event}

theorem isMark_of_endsField (ends : endsField e = true) : e.isMark = true := by
  cases e <;> first | rfl | cases ends

theorem endsRoot_iff (opened : List String) (e : Xml.Event) (ends : endsField e = true) :
    EndsRoot opened e ↔ "Field" ∉ e.leaves opened :=
  and_iff_right ends

theorem not_hasRoot_nil : ¬HasRoot opened [] := by
  rintro ⟨before, e, after, located, -⟩
  exact List.append_ne_nil_of_right_ne_nil before (List.cons_ne_nil e after) located.symm

theorem hasRoot_cons :
    HasRoot opened (e :: es) ↔ EndsRoot opened e ∨ HasRoot (e.leaves opened) es := by
  constructor
  · rintro ⟨before, x, after, located, ends⟩
    cases before with
    | nil =>
        obtain ⟨rfl, -⟩ := List.cons.inj located
        exact .inl ends
    | cons b before =>
        obtain ⟨rfl, later⟩ := List.cons.inj located
        exact .inr ⟨before, x, after, later, ends⟩
  · rintro (ends | ⟨before, x, after, rfl, ends⟩)
    · exact ⟨[], e, es, rfl, ends⟩
    · exact ⟨e :: before, x, after, rfl, ends⟩

/-- Of the events that end such a field, one is the first. -/
theorem HasRoot.exists_first (has : HasRoot opened es) : ∃ before e after,
    es = before ++ e :: after ∧ EndsRoot (before.foldl Xml.Event.leaves opened) e ∧
      ¬HasRoot opened before := by
  induction es generalizing opened with
  | nil => exact absurd has not_hasRoot_nil
  | cons x es ih =>
      by_cases ends : EndsRoot opened x
      · exact ⟨[], x, es, rfl, ends, not_hasRoot_nil⟩
      · obtain ⟨before, e, after, rfl, ends', none⟩ := ih ((hasRoot_cons.mp has).resolve_left ends)
        refine ⟨x :: before, e, after, rfl, ends', fun early => ?_⟩
        exact (hasRoot_cons.mp early).elim ends none

theorem HasRoot.mono (has : HasRoot opened es) (front : es <+: fs) : HasRoot opened fs := by
  obtain ⟨before, e, after, rfl, ends⟩ := has
  obtain ⟨rest, rfl⟩ := front
  exact ⟨before, e, after ++ rest, by rw [List.append_assoc, List.cons_append], ends⟩

/-- What is no mark ends nothing. -/
theorem HasRoot.of_append {loose : List Xml.Event} (has : HasRoot opened (es ++ loose))
    (marks : ∀ x ∈ loose, x.isMark = false) : HasRoot opened es := by
  induction es generalizing opened with
  | nil =>
      obtain ⟨before, e, after, rfl, ends, -⟩ := has
      have mark := isMark_of_endsField ends
      rw [marks e (List.mem_append_right before List.mem_cons_self)] at mark
      cases mark
  | cons x es ih => exact hasRoot_cons.mpr ((hasRoot_cons.mp has).imp_right ih)

end Roots

namespace HalfRead

/-! ## Reading without a mistake -/

section Results

variable {ε α β : Type} {r : Except ε α} {b : β}

theorem map_eq_ok_iff {f : α → β} : r.map f = .ok b ↔ ∃ a, r = .ok a ∧ f a = b := by
  cases r <;> simp [Except.map]

theorem bind_eq_ok_iff {f : α → Except ε β} : r.bind f = .ok b ↔ ∃ a, r = .ok a ∧ f a = .ok b := by
  cases r <;> simp [Except.bind]

theorem isOk_map {f : α → β} : (r.map f).isOk = r.isOk := by
  cases r <;> rfl

theorem isOk_iff : r.isOk = true ↔ ∃ a, r = .ok a := by
  cases r <;> simp [Except.isOk, Except.toBool]

end Results

theorem isOk_applyAttributes {α : Type} {set : α → String → String → α} {a : α}
    {attributes : Xml.Attributes} :
    (applyAttributes set a attributes).isOk = areReadable attributes := by
  induction attributes generalizing a with
  | done => rfl
  | broken => rfl
  | next name value rest ih =>
      rw [applyAttributes, areReadable]
      cases Xml.unescape? value with
      | none => rfl
      | some value => rw [ih, Option.isSome_some, Bool.true_and]

variable {s s' t : HalfRead} {name : String} {attributes : List Char} {es fs : List Xml.Event}

theorem isOk_start : (s.start name attributes).isOk = isReadableTag name attributes := by
  unfold start
  split
  · exact isOk_map.trans isOk_applyAttributes
  · exact isOk_map.trans isOk_applyAttributes
  all_goals simp_all [isReadableTag, Except.isOk, Except.toBool]

theorem isOk_alone : (s.alone name attributes).isOk = isReadableTag name attributes := by
  unfold alone
  split
  · exact isOk_start
  · exact isOk_map.trans isOk_applyAttributes
  · simp_all [isReadableTag, Except.isOk, Except.toBool]

theorem isOk_read (e : Xml.Event) : (s.read e).isOk = isReadable e := by
  cases e with
  | start name attributes => exact isOk_map.trans isOk_start
  | alone name attributes => exact isOk_map.trans isOk_alone
  | stop name => rfl
  | text chars =>
      rw [read, isReadable]
      cases Xml.unescape? chars <;> rfl
  | verbatim chars => rfl
  | broken => rfl

/-- All events are read exactly if each of them can be. -/
theorem isOk_foldlM : (es.foldlM read s).isOk = es.all isReadable := by
  induction es generalizing s with
  | nil => rfl
  | cons e es ih =>
      rw [List.foldlM_cons, List.all_cons, ← isOk_read (s := s) e]
      cases s.read e with
      | error mistake => rfl
      | ok t => exact ih.trans (Bool.true_and _).symm

/-! ## Fields that are open -/

@[simp] theorem updateField_root (change : Field → Field) :
    (s.updateField change).root = s.root := by
  unfold updateField
  split <;> rfl

@[simp] theorem length_updateField (change : Field → Field) :
    (s.updateField change).openFields.length = s.openFields.length := by
  unfold updateField
  split
  · next f outer fields => rw [fields, List.length_cons, List.length_cons]
  · rfl

@[simp] theorem addRule_root (rule : Rule) : (s.addRule rule).root = s.root := by
  unfold addRule
  split
  · rfl
  · rfl
  · exact updateField_root _
  · exact updateField_root _

@[simp] theorem length_addRule (rule : Rule) :
    (s.addRule rule).openFields.length = s.openFields.length := by
  unfold addRule
  split
  · rfl
  · rfl
  · exact length_updateField _
  · exact length_updateField _

theorem length_close (f : Field) : (s.close f).openFields.length = s.openFields.length := by
  unfold close
  split
  · next parent outer fields => rw [fields, List.length_cons, List.length_cons]
  · rfl

/-- A finished field becomes the root if there is none yet and no field is around it. -/
theorem close_root (f : Field) :
    (s.close f).root = (s.root <|> if s.openFields = [] then some f else none) := by
  unfold close
  split
  · next parent outer fields =>
      rw [fields, if_neg (List.cons_ne_nil parent outer)]
      cases s.root <;> rfl
  · next fields => rw [if_pos fields]

theorem start_effect (read : s.start name attributes = .ok s') :
    s'.root = s.root ∧
      s'.openFields.length = s.openFields.length + if name == "Field" then 1 else 0 := by
  unfold start at read
  split at read
  · obtain ⟨d, -, rfl⟩ := map_eq_ok_iff.mp read
    exact ⟨rfl, rfl⟩
  · obtain ⟨f, -, rfl⟩ := map_eq_ok_iff.mp read
    exact ⟨rfl, rfl⟩
  all_goals
    obtain rfl := Except.ok.inj read
    simp_all

theorem alone_field (read : s.alone "Field" attributes = .ok s') : ∃ f, s' = s.close f := by
  obtain ⟨f, -, rfl⟩ := map_eq_ok_iff.mp read
  exact ⟨f, rfl⟩

theorem alone_other (other : name ≠ "Field") (read : s.alone name attributes = .ok s') :
    s'.root = s.root ∧ s'.openFields.length = s.openFields.length := by
  unfold alone at read
  split at read
  · exact start_effect read
  · exact absurd rfl other
  · obtain rfl := Except.ok.inj read
    exact ⟨rfl, rfl⟩

theorem stop_other (other : name ≠ "Field") :
    (s.stop name).root = s.root ∧ (s.stop name).openFields.length = s.openFields.length := by
  unfold stop
  split
  · exact absurd rfl other
  all_goals simp

/-! ## The root -/

/-- Whether from `s` to `s'` the root was set, unless it was before, exactly if `ends`, and as many
fields are open now as elements of their name in `opened`. -/
structure Follows (opened : List String) (ends : Prop) (s s' : HalfRead) : Prop where
  fields : s'.openFields.length = opened.count "Field"
  root : ∃ found : Option Field, s'.root = (s.root <|> found) ∧ (found.isSome = true ↔ ends)

namespace Follows

variable {opened opened' : List String} {ends ends' : Prop}

theorem of_root_eq (fields : s'.openFields.length = opened.count "Field") (same : s'.root = s.root)
    (never : ¬ends) : Follows opened ends s s' where
  fields := fields
  root := by
    refine ⟨none, ?_, ?_⟩
    · rw [same]
      cases s.root <;> rfl
    · simp [never]

/-- A field that ends becomes the root exactly if no element of its name is open behind it. -/
theorem of_close (f : Field) (fields : s'.openFields.length = opened.count "Field")
    (same : s'.root = s.root) : Follows opened ("Field" ∉ opened) s (s'.close f) where
  fields := (length_close f).trans fields
  root := by
    refine ⟨if s'.openFields = [] then some f else none, by rw [close_root, same], ?_⟩
    rw [← List.count_eq_zero, ← fields, List.length_eq_zero_iff]
    by_cases outermost : s'.openFields = [] <;> simp [outermost]

theorem trans (first : Follows opened ends s t) (second : Follows opened' ends' t s') :
    Follows opened' (ends ∨ ends') s s' where
  fields := second.fields
  root := by
    obtain ⟨early, set, earlyEnds⟩ := first.root
    obtain ⟨late, kept, lateEnds⟩ := second.root
    refine ⟨early <|> late, ?_, ?_⟩
    · rw [kept, set]
      cases s.root <;> rfl
    · rw [← earlyEnds, ← lateEnds]
      cases early <;> simp

theorem congr (follows : Follows opened ends s s') (same : ends ↔ ends') :
    Follows opened ends' s s' := by
  rwa [← propext same]

/-- The text since the last tag is of no account. -/
theorem with_text (follows : Follows opened ends s s') (text : String) :
    Follows opened ends s { s' with text := text } :=
  ⟨follows.fields, follows.root⟩

/-- A root that is set is kept. -/
theorem root_eq_some (follows : Follows opened ends s s') {f : Field} (set : s.root = some f) :
    s'.root = some f := by
  obtain ⟨found, root, -⟩ := follows.root
  rw [root, set]
  rfl

theorem isSome_root (follows : Follows opened ends {} s) : s.root.isSome = true ↔ ends := by
  obtain ⟨found, root, iff⟩ := follows.root
  rw [root]
  exact iff

end Follows

variable {opened : List String} {e : Xml.Event}

theorem follows_alone (fields : s.openFields.length = opened.count "Field")
    (read : s.alone name attributes = .ok s') :
    Follows opened (EndsRoot opened (.alone name attributes)) s s' := by
  by_cases field : name = "Field"
  · subst field
    obtain ⟨f, rfl⟩ := alone_field read
    exact (Follows.of_close f fields rfl).congr (endsRoot_iff opened (.alone _ _) rfl).symm
  · obtain ⟨root, same⟩ := alone_other field read
    exact .of_root_eq (same.trans fields) root fun ends => field (eq_of_beq ends.1)

theorem follows_stop (fields : s.openFields.length = opened.count "Field")
    (fits : opened.head? = some name) :
    Follows opened.tail (EndsRoot opened (.stop name)) s (s.stop name) := by
  obtain ⟨outer, rfl⟩ := List.head?_eq_some_iff.mp fits
  by_cases field : name = "Field"
  · subst field
    rw [List.count_cons_self] at fields
    obtain ⟨f, others, within⟩ := List.exists_cons_of_length_eq_add_one fields
    have inner : others.length = outer.count "Field" := by simpa [within] using fields
    have stopped : s.stop "Field" = { s with openFields := others }.close f := by
      rw [stop]
      simp only [within]
    rw [stopped]
    have closed : Follows outer ("Field" ∉ outer) s ({ s with openFields := others }.close f) :=
      .of_close f inner rfl
    exact closed.congr (endsRoot_iff ("Field" :: outer) (.stop "Field") rfl).symm
  · obtain ⟨root, same⟩ := stop_other (s := s) field
    rw [List.count_cons_of_ne field] at fields
    exact .of_root_eq (same.trans fields) root fun ends => field (eq_of_beq ends.1)

/-- What a step does: the root is set when a field ends that no other is around. -/
theorem follows_read (fields : s.openFields.length = opened.count "Field") (fits : e.Fits opened)
    (read : s.read e = .ok s') : Follows (e.leaves opened) (EndsRoot opened e) s s' := by
  cases e with
  | start name attributes =>
      obtain ⟨t, started, rfl⟩ := map_eq_ok_iff.mp read
      obtain ⟨root, more⟩ := start_effect started
      refine (Follows.of_root_eq ?_ root fun ends => Bool.false_ne_true ends.1).with_text ""
      rw [more, fields, Xml.Event.leaves, List.count_cons]
  | alone name attributes =>
      obtain ⟨t, closed, rfl⟩ := map_eq_ok_iff.mp read
      exact (follows_alone fields closed).with_text ""
  | stop name =>
      obtain rfl := Except.ok.inj read
      exact (follows_stop fields fits).with_text ""
  | text chars =>
      rw [HalfRead.read] at read
      split at read
      · obtain rfl := Except.ok.inj read
        exact .of_root_eq fields rfl fun ends => Bool.false_ne_true ends.1
      · cases read
  | verbatim chars =>
      obtain rfl := Except.ok.inj read
      exact .of_root_eq fields rfl fun ends => Bool.false_ne_true ends.1
  | broken => cases read

/-- What a run does: the root is set exactly if a field ends that no other is around. -/
theorem follows_foldlM (fields : s.openFields.length = opened.count "Field")
    (nested : Xml.Nested opened es) (run : es.foldlM read s = .ok s') :
    Follows (es.foldl Xml.Event.leaves opened) (HasRoot opened es) s s' := by
  induction es generalizing s opened with
  | nil =>
      obtain rfl := Except.ok.inj run
      exact .of_root_eq fields rfl not_hasRoot_nil
  | cons e es ih =>
      obtain ⟨t, first, rest⟩ := bind_eq_ok_iff.mp (List.foldlM_cons.symm.trans run)
      obtain ⟨fits, nested⟩ := nested
      have step := follows_read fields fits first
      exact (step.trans (ih step.fields nested rest)).congr hasRoot_cons.symm

end HalfRead

/-! ## Texts that are definitions -/

section Texts

variable {text part : String} {d d' : Definition} {es : List Xml.Event}

theorem ofXml_eq_ok_iff : ofXml text = .ok d ↔ ∃ s root,
    (Xml.events text).foldlM HalfRead.read {} = .ok s ∧ s.root = some root ∧
      { s.definition with field := root } = d := by
  rw [ofXml]
  refine HalfRead.bind_eq_ok_iff.trans (exists_congr fun s => ?_)
  rw [HalfRead.finish]
  cases s.root <;> simp

/-- A text is a definition exactly if its events can be read and a field ends that no other is
around. -/
theorem exists_ofXml_iff : (∃ d, ofXml text = .ok d) ↔
    (∀ e ∈ Xml.events text, isReadable e = true) ∧ HasRoot [] (Xml.events text) := by
  rw [← List.all_eq_true, ← HalfRead.isOk_foldlM (s := {}), HalfRead.isOk_iff]
  constructor
  · rintro ⟨d, read⟩
    obtain ⟨s, root, run, set, -⟩ := ofXml_eq_ok_iff.mp read
    have follows := HalfRead.follows_foldlM rfl (Xml.nested_events text) run
    exact ⟨⟨s, run⟩, follows.isSome_root.mp (by rw [set, Option.isSome_some])⟩
  · rintro ⟨⟨s, run⟩, has⟩
    have follows := HalfRead.follows_foldlM rfl (Xml.nested_events text) run
    obtain ⟨root, set⟩ := Option.isSome_iff_exists.mp (follows.isSome_root.mpr has)
    exact ⟨_, ofXml_eq_ok_iff.mpr ⟨s, root, run, set, rfl⟩⟩

/-- Behind the events that complete the root, the root is what it is in the end. -/
theorem root_of_front (has : HasRoot [] es) (front : es <+: Xml.events text)
    (read : ofXml text = .ok d) :
    ∃ t, es.foldlM HalfRead.read {} = .ok t ∧ t.root = some d.field := by
  obtain ⟨s, root, run, set, rfl⟩ := ofXml_eq_ok_iff.mp read
  have nested := Xml.nested_events text
  obtain ⟨rest, whole⟩ := front
  rw [← whole, Xml.nested_append] at nested
  rw [← whole, List.foldlM_append] at run
  obtain ⟨t, first, second⟩ := HalfRead.bind_eq_ok_iff.mp run
  have early := HalfRead.follows_foldlM rfl nested.1 first
  have late := HalfRead.follows_foldlM early.fields nested.2 second
  obtain ⟨f, found⟩ := Option.isSome_iff_exists.mp (early.isSome_root.mpr has)
  have kept := late.root_eq_some found
  rw [set] at kept
  exact ⟨t, first, found.trans kept.symm⟩

/-- Two texts with the same events up to the end of the root have the same root. -/
theorem field_eq_of_front (has : HasRoot [] es) (front : es <+: Xml.events text)
    (front' : es <+: Xml.events part) (read : ofXml text = .ok d) (read' : ofXml part = .ok d') :
    d'.field = d.field := by
  obtain ⟨t, run, root⟩ := root_of_front has front read
  obtain ⟨t', run', root'⟩ := root_of_front has front' read'
  obtain rfl := Except.ok.inj (run.symm.trans run')
  exact Option.some.inj (root'.symm.trans root)

/-- End tags close the elements that were opened last, and a text is a definition exactly if its
events can be read and a field that no other is around ends.  The elements that are still open at the
end do not count: a front of a definition is one exactly if the root ends in it and its own events can
be read, and then has the same root. -/
theorem exists_ofXml_cut_iff (text : String) :
    Xml.Nested [] (Xml.events text) ∧
      ((∃ d, ofXml text = .ok d) ↔
        (∀ e ∈ Xml.events text, isReadable e = true) ∧ HasRoot [] (Xml.events text)) ∧
      ∀ d, ofXml text = .ok d → ∃ front : String, front.toList <+: text.toList ∧
        (∃ before e, Xml.events front = before ++ [e] ∧ EndsRoot (Xml.unclosed before) e ∧
          ¬HasRoot [] before) ∧
        ∀ part : String, part.toList <+: text.toList →
          ((∃ d', ofXml part = .ok d') ↔
            front.toList <+: part.toList ∧ ∀ e ∈ Xml.events part, isReadable e = true) ∧
          ∀ d', ofXml part = .ok d' → d'.field = d.field := by
  refine ⟨Xml.nested_events text, exists_ofXml_iff, fun d read => ?_⟩
  obtain ⟨-, has⟩ := exists_ofXml_iff.mp ⟨d, read⟩
  obtain ⟨before, e, after, located, ends, first⟩ := has.exists_first
  obtain ⟨front, within, endsWith⟩ := Xml.exists_endsWith located (isMark_of_endsField ends.1)
  have complete : HasRoot [] (before ++ [e]) := ⟨before, e, [], rfl, ends⟩
  refine ⟨front, within, ⟨before, e, endsWith.whole, ends, first⟩, fun part cut => ?_⟩
  -- in front of the end of the root, nothing else has completed it
  have reaches (has' : HasRoot [] (Xml.events part)) : front.toList <+: part.toList := by
    rcases List.prefix_or_prefix_of_prefix within cut with reached | short
    · exact reached
    · by_cases same : part = front
      · rw [same]
      · obtain ⟨es, loose, cutEvents, early, marks⟩ := endsWith.cut part short same
        rw [cutEvents] at has'
        exact absurd ((has'.of_append marks).mono early) first
  constructor
  · rw [exists_ofXml_iff, and_comm]
    refine and_congr_left fun _ => ⟨reaches, fun reached => ?_⟩
    exact complete.mono (endsWith.reads part reached)
  · intro d' read'
    have reached := reaches (exists_ofXml_iff.mp ⟨d', read'⟩).2
    exact field_eq_of_front complete (endsWith.reads text within) (endsWith.reads part reached)
      read read'

end Texts

/-- Prices of a shop, whose rules for the address stand behind the root. -/
def prices : Definition where
  url := some { includes := ⟨["^https://shop\\."]⟩ }
  field := { title := "Price", type := "string", path := ⟨["//b"]⟩ }
  mime := "html"

/-- The prices up to the middle of the rule for the address. -/
def pricesCut : String :=
  "<Pattern mime=\"html\"><Field title=\"Price\" type=\"string\"><Path>//b</Path></Field>" ++
    "<URL><Include>^https://shop"

def pricesText : String :=
  pricesCut ++ "\\.</Include></URL></Pattern>"

theorem exists_ofXml_cut_iff_prices : ofXml pricesText = .ok prices ∧
    pricesCut.toList <+: pricesText.toList ∧
      ∃ front : String, ((∃ d', ofXml pricesCut = .ok d') ↔
        front.toList <+: pricesCut.toList ∧ ∀ e ∈ Xml.events pricesCut, isReadable e = true) ∧
          ∀ d', ofXml pricesCut = .ok d' → d'.field = prices.field := by
  have read : ofXml pricesText = .ok prices := by cbv
  have cut : pricesCut.toList <+: pricesText.toList := by
    rw [pricesText, String.toList_append]
    exact List.prefix_append _ _
  obtain ⟨-, -, cuts⟩ := exists_ofXml_cut_iff pricesText
  obtain ⟨front, -, -, accepted⟩ := cuts prices read
  exact ⟨read, cut, front, accepted pricesCut cut⟩

/-- Not every definition has all its elements closed. -/
theorem ofXml_unclosed : ¬∀ (text : String) (d : Definition), ofXml text = .ok d →
    Xml.unclosed (Xml.events text) = [] := by
  intro closed
  have read : ofXml pricesCut = .ok { prices with url := none } := by cbv
  have opened : Xml.unclosed (Xml.events pricesCut) = ["Include", "URL", "Pattern"] := by cbv
  have nothing := closed pricesCut _ read
  rw [opened] at nothing
  cases nothing

end Harvest.Definition
