import Mathlib
import Harvest.Proofs.Definition.Normal
import Harvest.Proofs.Json.RoundTrip

/-!
# Definitions written as JSON

The JSON form of a definition is read as a definition with the same lines, whether the lines are
spelled as one block, as a list of blocks or, as they are by the library, as a list of lines.  Each
part of the form has every entry under its first name, so an entry is found where it was put; what
the bound on nesting leaves for a part is how deeply the part itself is nested.
-/

namespace Harvest

namespace Json

mutual

/-- How deeply arrays and objects are nested in a value. -/
def depth : Json → Nat
  | null => 0
  | bool _ => 0
  | int _ => 0
  | float _ => 0
  | text _ => 0
  | array items => depthOfItems items + 1
  | object members => depthOfMembers members + 1
  | unpaired => 0

/-- The depth of the deepest item. -/
def depthOfItems : List Json → Nat
  | [] => 0
  | v :: vs => max v.depth (depthOfItems vs)

/-- The depth of the deepest value. -/
def depthOfMembers : List (String × Json) → Nat
  | [] => 0
  | (_, v) :: ms => max v.depth (depthOfMembers ms)

end

theorem depth_object_le_iff {ms : List (String × Json)} {n : Nat} :
    (object ms).depth ≤ n + 1 ↔ ∀ m ∈ ms, m.2.depth ≤ n := by
  rw [depth, Nat.add_le_add_iff_right]
  induction ms with
  | nil => simp [depthOfMembers]
  | cons m ms ih => rw [depthOfMembers, max_le_iff, ih, List.forall_mem_cons]

theorem depth_array_le_iff {vs : List Json} {n : Nat} :
    (array vs).depth ≤ n + 1 ↔ ∀ v ∈ vs, v.depth ≤ n := by
  rw [depth, Nat.add_le_add_iff_right]
  induction vs with
  | nil => simp [depthOfItems]
  | cons v vs ih => rw [depthOfItems, max_le_iff, ih, List.forall_mem_cons]

end Json

/-- The ways to spell some lines: as a block, or as a list of blocks. -/
inductive Lines.Spelled (lines : Lines) : Json → Prop where
  | block {block : String} (same : ofBlock block = lines.toList) : Spelled lines (.text block)
  | list {blocks : List String} (same : toList ⟨blocks⟩ = lines.toList) :
      Spelled lines (.array (blocks.map .text))

theorem Lines.spelled_toJson (lines : Lines) : lines.Spelled lines.toJson :=
  .list lines.toList_normal

theorem Lines.spelled_block (lines : Lines) :
    lines.Spelled (.text ("\n".intercalate lines.blocks)) := by
  have joined := toList_intercalate lines.blocks
  rw [toList, List.flatMap_singleton] at joined
  exact .block joined

namespace Definition

variable (write : Lines → Json)

def TextRules.toJsonBy (rules : TextRules) : Json :=
  .object [("submatch", .text rules.submatch), ("include", write rules.includes),
    ("exclude", write rules.excludes), ("remove", write rules.removes)]

def NodeRules.toJsonBy (rules : NodeRules) : Json :=
  .object [("include", write rules.includes), ("exclude", write rules.excludes),
    ("remove", write rules.removes)]

mutual

def Field.toJsonBy : Field → Json
  | ⟨title, type, path, data, xdata, optional, transient, multiple, unique, standard, fields⟩ =>
      .object [("title", .text title), ("type", .text type), ("path", write path),
        ("data", jsonOrNull (·.toJsonBy write) data), ("xdata", jsonOrNull (·.toJsonBy write) xdata),
        ("optional", .bool optional), ("dontstore", .bool transient),
        ("multiple", .bool multiple), ("unique", .bool unique), ("attr", .bool standard),
        ("field", .array (fieldsToJsonBy fields))]

def fieldsToJsonBy : List Field → List Json
  | [] => []
  | f :: fs => f.toJsonBy :: fieldsToJsonBy fs

end

/-- The JSON form of a definition with its lines spelled by `write`. -/
def toJsonBy (d : Definition) : Json :=
  .object ([("url", jsonOrNull (·.toJsonBy write) d.url), ("field", d.field.toJsonBy write),
    ("mime", .text d.mime)] ++ (d.storage.map fun storage => ("storage", .text storage)).toList)

mutual

theorem Field.toJsonBy_toJson : ∀ f : Field, f.toJsonBy Lines.toJson = f.toJson
  | ⟨title, type, path, data, xdata, optional, transient, multiple, unique, standard, fields⟩ => by
      rw [Field.toJsonBy, fieldsToJsonBy_toJson fields]
      rfl

theorem fieldsToJsonBy_toJson : ∀ fs : List Field,
    fieldsToJsonBy Lines.toJson fs = fieldsToJson fs
  | [] => rfl
  | f :: fs => by
      rw [fieldsToJsonBy, Field.toJsonBy_toJson f, fieldsToJsonBy_toJson fs]
      rfl

end

/-- The library spells lines as a list of lines. -/
theorem toJsonBy_toJson (d : Definition) : d.toJsonBy Lines.toJson = d.toJson := by
  rw [toJsonBy, Field.toJsonBy_toJson]
  cases storage : d.storage <;> simp [toJson, storage] <;> rfl

end Definition

namespace Raw

theorem text_ofJson (s : String) : text (ofJson (.text s)) = pure s := rfl

theorem flag_ofJson (b : Bool) : flag (ofJson (.bool b)) = pure b := rfl

theorem mapM_eq_pure {α β : Type} {read : α → Read β} {value : α → β} {items : List α}
    (reads : ∀ a ∈ items, read a = pure (value a)) : items.mapM read = pure (items.map value) := by
  induction items with
  | nil => simp
  | cons a items ih =>
      obtain ⟨here, later⟩ := List.forall_mem_cons.mp reads
      simp [here, ih later]

theorem ofItems_eq (vs : List Json) : ofItems vs = vs.map ofJson := by
  induction vs with
  | nil => rfl
  | cons v vs ih => rw [ofItems, ih, List.map_cons]

theorem ofMembers_eq (ms : List (String × Json)) :
    ofMembers ms = ms.map fun m => (.leaf { text := some m.1 }, ofJson m.2) := by
  induction ms with
  | nil => rfl
  | cons m ms ih => rw [ofMembers, ih, List.map_cons]

/-- The entries of an object are taken by their names. -/
theorem slots_object (groups : List (List String)) (ms : List (String × Json)) :
    slots groups (ofJson (.object ms)) = named groups (ms.map fun m => (m.1, ofJson m.2)) := by
  have names : (ofMembers ms).mapM (fun e => text e.1) = pure (ms.map Prod.fst) := by
    rw [ofMembers_eq, List.mapM_map]
    exact mapM_eq_pure fun m _ => rfl
  rw [ofJson, slots, names, pure_bind, ofMembers_eq, List.map_map, List.zip_map']
  rfl

variable {depth : Nat}

/-- A list of texts is read as blocks, as it stands. -/
theorem lines_array (blocks : List String) (room : 1 ≤ depth) :
    Raw.lines depth (ofJson (.array (blocks.map .text))) = pure ⟨blocks⟩ := by
  have texts : (ofItems (blocks.map .text)).mapM (optional text) = pure (blocks.map some) := by
    rw [ofItems_eq, List.map_map, List.mapM_map]
    exact mapM_eq_pure fun _ _ => rfl
  have follows (vs : List Json) : follow (ofJson (.array vs)) = pure (ofJson (.array vs)) := rfl
  have allowed : ¬(ListKind.positional = .special || depth = 0) = true := by
    simpa using Nat.ne_of_gt room
  rw [Raw.lines, follows, pure_bind, ofJson]
  dsimp only
  rw [if_neg allowed, texts]
  simp [List.filterMap_map]

/-- Spelled lines are read as the same lines. -/
theorem lines_spelled {lines : Lines} {v : Json} (spelled : lines.Spelled v) :
    ∃ read : Lines, read.toList = lines.toList ∧
      ∀ depth, 1 ≤ depth → Raw.lines depth (ofJson v) = pure read := by
  cases spelled with
  | @block block same =>
      refine ⟨⟨[block]⟩, ?_, fun _ _ => rfl⟩
      rw [Lines.toList, List.flatMap_singleton, same]
  | list same => exact ⟨_, same, fun _ room => lines_array _ room⟩

/-- What may be missing is read as it was written, if what is there is. -/
theorem optional_jsonOrNull {α : Type} {read : Raw → Read α} {write : α → Json} {value : α → α}
    (o : Option α) (reads : ∀ a ∈ o, read (ofJson (write a)) = pure (value a))
    (present : ∀ a ∈ o, ∃ ms, write a = .object ms) :
    optional read (ofJson (Definition.jsonOrNull write o)) = pure (o.map value) := by
  cases o with
  | none => rfl
  | some a =>
      obtain ⟨ms, object⟩ := present a rfl
      have there := reads a rfl
      rw [object, ofJson] at there
      rw [Definition.jsonOrNull, object, ofJson, optional]
      have follows : follow (record (ofMembers ms)) = pure (record (ofMembers ms)) := rfl
      rw [follows, pure_bind]
      dsimp only
      rw [there, pure_bind]
      rfl

/-- Whether lines that are spelled by `write` are read as `change` says. -/
def ReadsLines (write : Lines → Json) (change : Lines → Lines) : Prop :=
  ∀ lines depth, 1 ≤ depth → Raw.lines depth (ofJson (write lines)) = pure (change lines)

variable {write : Lines → Json} {change : Lines → Lines}

theorem textRules_toJsonBy (reads : ReadsLines write change) (rules : Definition.TextRules)
    (room : 2 ≤ depth) :
    textRules depth (ofJson (rules.toJsonBy write)) = pure (rules.mapLines change) := by
  obtain ⟨depth, rfl⟩ : ∃ n, depth = n + 1 := ⟨depth - 1, by omega⟩
  have follows : follow (ofJson (rules.toJsonBy write)) = pure (ofJson (rules.toJsonBy write)) := rfl
  have below : inside (depth + 1) (ofJson (rules.toJsonBy write)) = pure depth := rfl
  have entries : slots [["submatch", "Submatch"], includeNames, excludeNames, removeNames]
      (ofJson (rules.toJsonBy write)) = pure [some (ofJson (.text rules.submatch)),
        some (ofJson (write rules.includes)), some (ofJson (write rules.excludes)),
        some (ofJson (write rules.removes))] := by
    rw [Definition.TextRules.toJsonBy, slots_object]
    rfl
  have lines (lines : Lines) : Raw.lines depth (ofJson (write lines)) = pure (change lines) :=
    reads lines depth (by omega)
  rw [textRules, follows, pure_bind, below, pure_bind, entries, pure_bind]
  simp only [entry, text_ofJson, lines, pure_bind]
  rfl

theorem nodeRules_toJsonBy (reads : ReadsLines write change) (rules : Definition.NodeRules)
    (room : 2 ≤ depth) :
    nodeRules depth (ofJson (rules.toJsonBy write)) = pure (rules.mapLines change) := by
  obtain ⟨depth, rfl⟩ : ∃ n, depth = n + 1 := ⟨depth - 1, by omega⟩
  have follows : follow (ofJson (rules.toJsonBy write)) = pure (ofJson (rules.toJsonBy write)) := rfl
  have below : inside (depth + 1) (ofJson (rules.toJsonBy write)) = pure depth := rfl
  have entries : slots [includeNames, excludeNames, removeNames]
      (ofJson (rules.toJsonBy write)) = pure [some (ofJson (write rules.includes)),
        some (ofJson (write rules.excludes)), some (ofJson (write rules.removes))] := by
    rw [Definition.NodeRules.toJsonBy, slots_object]
    rfl
  have lines (lines : Lines) : Raw.lines depth (ofJson (write lines)) = pure (change lines) :=
    reads lines depth (by omega)
  rw [nodeRules, follows, pure_bind, below, pure_bind, entries, pure_bind]
  simp only [entry, lines, pure_bind]
  rfl

theorem one_le_depth_lines (lines : Lines) : 1 ≤ lines.toJson.depth := by
  rw [Lines.toJson, Json.depth]
  omega

theorem two_le_depth_textRules (rules : Definition.TextRules) : 2 ≤ rules.toJson.depth := by
  have below := one_le_depth_lines rules.includes
  simp only [Definition.TextRules.toJson, Json.depth, Json.depthOfMembers]
  omega

theorem two_le_depth_nodeRules (rules : Definition.NodeRules) : 2 ≤ rules.toJson.depth := by
  have below := one_le_depth_lines rules.includes
  simp only [Definition.NodeRules.toJson, Json.depth, Json.depthOfMembers]
  omega

theorem named_fieldNames (title type path data xdata optional transient multiple unique standard
    fields : Raw) :
    named fieldNames [("title", title), ("type", type), ("path", path), ("data", data),
      ("xdata", xdata), ("optional", optional), ("dontstore", transient), ("multiple", multiple),
      ("unique", unique), ("attr", standard), ("field", fields)] =
      pure [some title, some type, some path, some data, some xdata, some optional, some transient,
        some multiple, some unique, some standard, some fields] := rfl

/-- A list of fields is read if its items are. -/
theorem fields_array {items : List Json} {fs : List Definition.Field}
    (reads : (ofItems items).mapM (field depth) = pure fs) :
    fields (depth + 1) (ofJson (.array items)) = pure fs := by
  have follows : follow (ofJson (.array items)) = pure (ofJson (.array items)) := rfl
  rw [fields, follows, pure_bind, ofJson]
  exact reads

mutual

/-- A field is read with its lines changed as spelling and reading them changes lines. -/
theorem field_toJsonBy (reads : ReadsLines write change) :
    ∀ (f : Definition.Field) {depth : Nat}, f.toJson.depth ≤ depth →
      field depth (ofJson (f.toJsonBy write)) = pure (f.mapLines change)
  | ⟨title, type, path, data, xdata, isOptional, transient, multiple, unique, standard, fs⟩,
      depth, deep => by
      rw [Definition.Field.toJson] at deep
      obtain ⟨depth, rfl⟩ : ∃ n, depth = n + 1 := ⟨depth - 1, by rw [Json.depth] at deep; omega⟩
      rw [Json.depth_object_le_iff] at deep
      simp only [List.forall_mem_cons] at deep
      obtain ⟨-, -, deepPath, deepData, deepXdata, -, -, -, -, -, deepFields, -⟩ := deep
      obtain ⟨depth, rfl⟩ : ∃ n, depth = n + 1 :=
        ⟨depth - 1, by rw [Json.depth] at deepFields; omega⟩
      rw [Json.depth_array_le_iff] at deepFields
      have dataRead : optional (textRules (depth + 1))
          (ofJson (Definition.jsonOrNull (·.toJsonBy write) data)) =
            pure (data.map (·.mapLines change)) := by
        refine optional_jsonOrNull data ?_ fun rules _ => ⟨_, rfl⟩
        rintro rules rfl
        exact textRules_toJsonBy reads rules ((two_le_depth_textRules rules).trans deepData)
      have xdataRead : optional (nodeRules (depth + 1))
          (ofJson (Definition.jsonOrNull (·.toJsonBy write) xdata)) =
            pure (xdata.map (·.mapLines change)) := by
        refine optional_jsonOrNull xdata ?_ fun rules _ => ⟨_, rfl⟩
        rintro rules rfl
        exact nodeRules_toJsonBy reads rules ((two_le_depth_nodeRules rules).trans deepXdata)
      have fieldsRead : fields (depth + 1) (ofJson (.array (Definition.fieldsToJsonBy write fs))) =
          pure (Definition.mapLinesAll change fs) :=
        fields_array (items_toJsonBy reads fs deepFields)
      have opened (ms : List (String × Json)) : field (depth + 1 + 1) (ofJson (.object ms)) =
          fieldEntries (depth + 1) (fields (depth + 1)) (ofJson (.object ms)) := by
        rw [field]
        rfl
      rw [Definition.Field.toJsonBy, opened, fieldEntries, slots_object]
      simp only [List.map_cons, List.map_nil, named_fieldNames, pure_bind, entry, text_ofJson,
        flag_ofJson, reads path (depth + 1) (Nat.le_add_left 1 depth), dataRead, xdataRead,
        fieldsRead]
      rw [Definition.Field.mapLines]

theorem items_toJsonBy (reads : ReadsLines write change) :
    ∀ (fs : List Definition.Field) {depth : Nat},
      (∀ v ∈ Definition.fieldsToJson fs, v.depth ≤ depth) →
        (ofItems (Definition.fieldsToJsonBy write fs)).mapM (field depth) =
          pure (Definition.mapLinesAll change fs)
  | [], _, _ => rfl
  | f :: fs, depth, deep => by
      obtain ⟨here, later⟩ := List.forall_mem_cons.mp deep
      rw [Definition.fieldsToJsonBy, ofItems, List.mapM_cons, field_toJsonBy reads f here,
        pure_bind, items_toJsonBy reads fs later, pure_bind]
      rfl

end

theorem definition_toJsonBy (reads : ReadsLines write change) (d : Definition) {depth : Nat}
    (deep : d.toJson.depth ≤ depth) :
    definition depth (ofJson (d.toJsonBy write)) = pure (d.mapLines change) := by
  rw [Definition.toJson] at deep
  obtain ⟨depth, rfl⟩ : ∃ n, depth = n + 1 := ⟨depth - 1, by rw [Json.depth] at deep; omega⟩
  rw [Json.depth_object_le_iff, List.forall_mem_append] at deep
  simp only [List.forall_mem_cons] at deep
  obtain ⟨⟨deepUrl, deepField, -⟩, -⟩ := deep
  have urlRead : optional (textRules depth)
      (ofJson (Definition.jsonOrNull (·.toJsonBy write) d.url)) =
        pure (d.url.map (·.mapLines change)) := by
    refine optional_jsonOrNull d.url ?_ fun rules _ => ⟨_, rfl⟩
    intro rules there
    rw [there] at deepUrl
    exact textRules_toJsonBy reads rules ((two_le_depth_textRules rules).trans deepUrl)
  have follows (ms : List (String × Json)) :
      follow (ofJson (.object ms)) = pure (ofJson (.object ms)) := rfl
  have below (ms : List (String × Json)) :
      inside (depth + 1) (ofJson (.object ms)) = pure depth := rfl
  rw [Definition.toJsonBy, definition, follows, pure_bind, below, pure_bind, slots_object]
  cases storage : d.storage with
  | none =>
      have entries (url root mime : Raw) : named [["url", "URL", "urlRules"], ["field"], ["mime"],
          ["storage"]] [("url", url), ("field", root), ("mime", mime)] =
            pure [some url, some root, some mime, none] := rfl
      simp only [Option.map_none, Option.toList_none, List.append_nil, List.map_cons, List.map_nil,
        entries, pure_bind, entry, text_ofJson, urlRead, field_toJsonBy reads d.field deepField]
      rw [Definition.mapLines, storage]
  | some place =>
      have entries (url root mime place : Raw) : named [["url", "URL", "urlRules"], ["field"],
          ["mime"], ["storage"]] [("url", url), ("field", root), ("mime", mime),
            ("storage", place)] = pure [some url, some root, some mime, some place] := rfl
      have placeRead : optional text (ofJson (.text place)) = pure (some place) := rfl
      simp only [Option.map_some, Option.toList_some, List.cons_append, List.nil_append,
        List.map_cons, List.map_nil, entries, pure_bind, entry, text_ofJson, urlRead, placeRead,
        field_toJsonBy reads d.field deepField]
      rw [Definition.mapLines, storage]

end Raw

/-! ## The written text -/

theorem Json.textualItems_texts (texts : List String) : TextualItems (texts.map .text) := by
  induction texts with
  | nil => trivial
  | cons text texts ih => exact ⟨trivial, ih⟩

theorem Lines.Spelled.isTextual {lines : Lines} {v : Json} (spelled : lines.Spelled v) :
    v.IsTextual := by
  cases spelled with
  | block => trivial
  | list => exact Json.textualItems_texts _

namespace Definition

variable {write : Lines → Json}

theorem isTextual_jsonOrNull {α : Type} {write : α → Json} (writes : ∀ a, (write a).IsTextual)
    (o : Option α) : (jsonOrNull write o).IsTextual := by
  cases o with
  | none => trivial
  | some a => exact writes a

theorem TextRules.isTextual_toJsonBy (writes : ∀ lines, (write lines).IsTextual)
    (rules : TextRules) : (rules.toJsonBy write).IsTextual := by
  simp [TextRules.toJsonBy, Json.IsTextual, Json.TextualMembers, writes]

theorem NodeRules.isTextual_toJsonBy (writes : ∀ lines, (write lines).IsTextual)
    (rules : NodeRules) : (rules.toJsonBy write).IsTextual := by
  simp [NodeRules.toJsonBy, Json.IsTextual, Json.TextualMembers, writes]

mutual

theorem Field.isTextual_toJsonBy (writes : ∀ lines, (write lines).IsTextual) :
    ∀ f : Field, (f.toJsonBy write).IsTextual
  | ⟨title, type, path, data, xdata, optional, transient, multiple, unique, standard, fields⟩ => by
      simp [Field.toJsonBy, Json.IsTextual, Json.TextualMembers, writes,
        isTextual_jsonOrNull (TextRules.isTextual_toJsonBy writes),
        isTextual_jsonOrNull (NodeRules.isTextual_toJsonBy writes),
        textualItems_fieldsToJsonBy writes fields]

theorem textualItems_fieldsToJsonBy (writes : ∀ lines, (write lines).IsTextual) :
    ∀ fs : List Field, Json.TextualItems (fieldsToJsonBy write fs)
  | [] => trivial
  | f :: fs => ⟨Field.isTextual_toJsonBy writes f, textualItems_fieldsToJsonBy writes fs⟩

end

theorem isTextual_toJsonBy (writes : ∀ lines, (write lines).IsTextual) (d : Definition) :
    (d.toJsonBy write).IsTextual := by
  cases storage : d.storage <;>
    simp [toJsonBy, storage, Json.IsTextual, Json.TextualMembers,
      Field.isTextual_toJsonBy writes, isTextual_jsonOrNull (TextRules.isTextual_toJsonBy writes)]

/-- However its lines are spelled, a definition is read with the same lines. -/
theorem ofJson_toJsonBy (d : Definition) (shallow : d.toJson.depth ≤ Raw.jsonDepth)
    (spells : ∀ lines : Lines, lines.Spelled (write lines)) :
    ∃ change : Lines → Lines, (∀ lines, (change lines).toList = lines.toList) ∧
      ofJson (d.toJsonBy write).compact = .ok (d.mapLines change) := by
  choose change same reads using fun lines => Raw.lines_spelled (spells lines)
  have textual := d.isTextual_toJsonBy fun lines => (spells lines).isTextual
  refine ⟨change, same, ?_⟩
  rw [ofJson, Json.parse?_compact textual, Option.bind_some, ofJsonValue?, Raw.readJson?,
    Raw.definition_toJsonBy reads d shallow]
  rfl

/-- A definition that is not nested too deeply is read back from its JSON form, up to the way in
which its lines are spread over blocks.  How they are spread, and how they are spelled, shows
neither in what is written nor in what is compiled. -/
theorem ofJson_toJson (d : Definition) (shallow : d.toJson.depth ≤ 127) :
    (∃ d', ofJson d.toJson.compact = .ok d' ∧ d'.toJson.compact = d.toJson.compact ∧
      Extractor.compile d' = Extractor.compile d) ∧
    (∀ write : Lines → Json, (∀ lines : Lines, lines.Spelled (write lines)) →
      ∃ d', ofJson (d.toJsonBy write).compact = .ok d' ∧ d'.toJson.compact = d.toJson.compact ∧
        Extractor.compile d' = Extractor.compile d) ∧
    ∀ e : Definition, e.normal = d.normal → Extractor.compile e = Extractor.compile d := by
  have spelled (write : Lines → Json) (spells : ∀ lines : Lines, lines.Spelled (write lines)) :
      ∃ d', ofJson (d.toJsonBy write).compact = .ok d' ∧ d'.toJson.compact = d.toJson.compact ∧
        Extractor.compile d' = Extractor.compile d := by
    obtain ⟨change, same, read⟩ := ofJson_toJsonBy d shallow spells
    refine ⟨d.mapLines change, read, ?_, Extractor.compile_mapLines same d⟩
    rw [toJson_mapLines same]
  refine ⟨?_, spelled, fun e same => ?_⟩
  · have written := spelled Lines.toJson Lines.spelled_toJson
    rwa [toJsonBy_toJson] at written
  · rw [← Extractor.compile_normal e, same, Extractor.compile_normal]

/-- News of a site: each article with its title and its text, without advertisements. -/
def articles : Definition where
  url := some { includes := ⟨["https?://[a-z.]+/news/\n  /archive/  "]⟩ }
  field :=
    { title := "articles", type := "struct", path := ⟨["//article\n\n//div[@class='item']"]⟩,
      multiple := true,
      fields :=
        [{ title := "title", path := ⟨["h1", "h2"]⟩,
           data := some { submatch := "\"(.*)\"", removes := ⟨["\\s+$"]⟩ } },
         { title := "text", type := "html", path := ⟨["div"]⟩, optional := true,
           xdata := some { excludes := ⟨[" .//aside \n.//script"]⟩ } }] }
  mime := "text/html"
  storage := some "articles"

theorem ofJson_toJson_articles : articles.toJson.depth ≤ 127 ∧
    (∀ lines : Lines, lines.Spelled (.text ("\n".intercalate lines.blocks))) ∧
    ∃ d', ofJson (articles.toJsonBy fun lines => .text ("\n".intercalate lines.blocks)).compact =
        .ok d' ∧ d'.toJson.compact = articles.toJson.compact ∧
      Extractor.compile d' = Extractor.compile articles := by
  have shallow : articles.toJson.depth ≤ 127 := by decide +kernel
  exact ⟨shallow, Lines.spelled_block,
    (ofJson_toJson articles shallow).2.1 _ Lines.spelled_block⟩

end Definition

end Harvest
