import Mathlib
import Harvest.Proofs.Extraction.Record
import Harvest.Proofs.Plan.Compilation

/-!
# What is found fits the definition

A definition is a schema for what its plan finds: lists and single items as the type and the flag of
a field say, numbers in their range, and structures with no entries but those of the fields below
them, and with one for each field that they cannot do without.
-/

namespace Harvest

namespace Definition.Field

mutual

/-- Whether a datum is one item for a field of some kind. -/
inductive IsItem : Field → Kind → Datum → Prop where
  | int {f : Field} {n : Int} (lower : -0x8000000000000000 ≤ n) (upper : n < 0x8000000000000000) :
      IsItem f .int (.int n)
  | float {f : Field} {x : Float} (finite : x.isFinite = true) : IsItem f .float (.float x)
  | string {f : Field} {s : String} : IsItem f .string (.text s)
  | html {f : Field} {s : String} : IsItem f .html (.text s)
  | struct {f : Field} {entries : List (String × Datum)} (sorted : Keyed.Sorted entries)
      (known : ∀ entry ∈ entries, IsEntry f entry)
      (complete : ∀ g ∈ f.fields, g.optional = false → g.title ∈ entries.map Prod.fst) :
      IsItem f .struct (.map entries)

/-- Whether an entry is one for a field below another. -/
inductive IsEntry : Field → String × Datum → Prop where
  | child {f g : Field} {d : Datum} (below : g ∈ f.fields) (conforms : Conforms g d) :
      IsEntry f (g.title, d)

/-- Whether a datum is what a field asks for. -/
inductive Conforms : Field → Datum → Prop where
  | list {f : Field} {shape : Shape} {items : List Datum} (type : Shape.parse? f.type = some shape)
      (multiple : (f.multiple || shape.isArray) = true)
      (each : ∀ item ∈ items, IsItem f shape.kind item) : Conforms f (.list items)
  | single {f : Field} {shape : Shape} {d : Datum} (type : Shape.parse? f.type = some shape)
      (single : (f.multiple || shape.isArray) = false) (item : IsItem f shape.kind d) :
      Conforms f d

end

end Definition.Field

open Definition.Field (IsItem IsEntry Conforms)

/-! ## Items that are no structures -/

theorem Decimal.int64?_bounds {cs : List Char} {n : Int} (read : int64? cs = some n) :
    -0x8000000000000000 ≤ n ∧ n < 0x8000000000000000 := by
  rw [int64?] at read
  split at read
  · split at read
    · next bounds =>
        obtain rfl := Option.some.inj read
        exact bounds
    · cases read
  · cases read

theorem Shape.isItem_of_coerce {shape : Shape} {raw : Bytes} {d : Datum} {f : Definition.Field}
    (coerced : shape.coerce raw = some d) : IsItem f shape.kind d := by
  rw [coerce] at coerced
  cases kind : shape.kind with
  | int =>
      simp only [kind] at coerced
      split at coerced
      · obtain ⟨n, read, rfl⟩ := Option.map_eq_some_iff.mp coerced
        obtain ⟨lower, upper⟩ := Decimal.int64?_bounds read
        exact .int lower upper
      · cases coerced
  | float =>
      simp only [kind] at coerced
      split at coerced
      · split at coerced
        · split at coerced
          · next finite =>
              obtain rfl := Option.some.inj coerced
              exact .float finite
          · cases coerced
        · cases coerced
      · cases coerced
  | string =>
      simp only [kind] at coerced
      obtain ⟨s, -, rfl⟩ := Option.map_eq_some_iff.mp coerced
      exact .string
  | html =>
      simp only [kind] at coerced
      obtain ⟨s, -, rfl⟩ := Option.map_eq_some_iff.mp coerced
      exact .html
  | struct =>
      simp only [kind] at coerced
      cases coerced

namespace FieldPlan

variable {p : FieldPlan} {doc : Document} {place : Place} {q : XPath.Query} {d : Datum}
  {f : Definition.Field}

theorem mem_of_mem_push {found : List Datum} {value : Datum} (member : d ∈ p.push found value) :
    d ∈ found ∨ d = value := by
  rw [push] at member
  split at member
  · exact .inl member
  · exact (List.mem_append.mp member).imp_right List.mem_singleton.mp

/-- Nothing is collected but the values that are offered. -/
theorem mem_of_mem_collect {values : List Datum} (member : d ∈ p.collect values) : d ∈ values := by
  rw [collect] at member
  induction values using List.reverseRecOn with
  | nil => exact member
  | append_singleton values last ih =>
      rw [List.foldl_append] at member
      rcases mem_of_mem_push member with earlier | rfl
      · exact List.mem_append_left [last] (ih earlier)
      · exact List.mem_append_right values (.head [])

theorem isItem_of_textValues {text : String} (member : d ∈ p.textValues text) :
    IsItem f p.shape.kind d := by
  rw [textValues] at member
  split at member
  · obtain ⟨raw, -, coerced⟩ := List.mem_filterMap.mp member
    exact Shape.isItem_of_coerce coerced
  · cases member

theorem isItem_of_textList (member : d ∈ p.textList doc place q) : IsItem f p.shape.kind d := by
  obtain ⟨text, -, valued⟩ := List.mem_flatMap.mp (mem_of_mem_collect member)
  exact isItem_of_textValues valued

theorem isItem_of_text? (valued : p.text? doc place q = some d) : IsItem f p.shape.kind d := by
  rw [text?] at valued
  split at valued
  · cases valued
  · dsimp only at valued
    split at valued
    · exact Shape.isItem_of_coerce valued
    · cases valued

theorem isItem_of_markupFrom {targets : List Place} {shared : Option (List Path × WorkingCopy)}
    (member : d ∈ p.markupFrom doc shared targets) : IsItem f .html d := by
  induction targets generalizing shared with
  | nil => cases member
  | cons target targets ih =>
      rw [markupFrom] at member
      split at member
      · rcases List.mem_cons.mp member with rfl | later
        · exact .html
        · exact ih later
      · exact ih member

theorem isItem_of_markup? (valued : p.markup? doc place q = some d) : IsItem f .html d := by
  rw [markup?] at valued
  split at valued
  · cases valued
  · split at valued
    · obtain rfl := Option.some.inj valued
      exact .html
    · cases valued

/-- What a query finds for a field that is no structure is a list of items or one item, whichever
the field asks for. -/
theorem conforms_of_candidate? (fits : IsFor f p) (found : p.candidate? doc place q = some d) :
    f.Conforms d := by
  have shaped : (f.multiple || p.shape.isArray) = p.isMultiple := by rw [isMultiple, fits.multiple]
  rw [candidate?] at found
  split at found
  · next multiple =>
      obtain rfl := Option.some.inj found
      refine .list fits.shape (shaped.trans multiple) fun item member => ?_
      split at member
      · next html =>
          rw [html]
          exact isItem_of_markupFrom (mem_of_mem_collect member)
      · exact isItem_of_textList member
  · next single =>
      refine .single fits.shape (shaped.trans (eq_false_of_ne_true single)) ?_
      split at found
      · next html =>
          rw [html]
          exact isItem_of_markup? found
      · exact isItem_of_text? found

theorem conforms_of_leaf? (fits : IsFor f p) (found : p.leaf? doc place = some d) :
    f.Conforms d := by
  obtain ⟨q, -, candidate⟩ := List.exists_of_findSome?_eq_some found
  exact conforms_of_candidate? fits candidate

end FieldPlan

/-! ## Structures -/

namespace Plan

variable {doc : Document} {place : Place} {value : Datum} {f : Definition.Field}

/-- A structure has entries for its fields only, and for each that it cannot do without, because its
plans have the titles and flags of its fields. -/
theorem isItem_of_record {ps : List Plan}
    (compiled : List.Forall₂ (fun g p => compile g = .ok p) f.fields ps)
    (conforming : ∀ g ∈ f.fields, ∀ p value, compile g = .ok p →
      p.retrieve doc place = some value → g.Conforms value)
    (recorded : record doc ps place [] = some value) : IsItem f .struct value := by
  obtain ⟨enough, entries, rfl, sorted, known, titled⟩ := record_eq_some recorded
  refine .struct sorted (fun entry member => ?_) fun g below required => ?_
  · obtain ⟨p, planned, here⟩ := known entry member
    obtain ⟨d, retrieved, rfl⟩ := Option.map_eq_some_iff.mp here
    obtain ⟨g, below, plan⟩ := exists_field_of_mem compiled planned
    have fits : FieldPlan.IsFor g p.field := (compile_eq_ok_iff.mp plan).1
    rw [Plan.title, fits.title]
    exact .child below (conforming g below p d plan retrieved)
  · obtain ⟨p, planned, plan⟩ := exists_plan_of_mem compiled below
    have fits : FieldPlan.IsFor g p.field := (compile_eq_ok_iff.mp plan).1
    have retrieved := enough p planned (fits.optional.trans required)
    exact fits.title ▸ titled p planned retrieved

/-- Whatever a plan finds, at whatever place of whatever document, is what the definition that it
was compiled from asks for. -/
theorem retrieve_conforms (f : Definition.Field) (p : Plan) (doc : Document) (place : Place)
    (value : Datum) (compiled : compile f = .ok p)
    (retrieved : p.retrieve doc place = some value) : f.Conforms value := by
  induction f using Definition.Field.inductionOn generalizing p place value with
  | field f ih =>
      obtain ⟨fits, below⟩ := compile_eq_ok_iff.mp compiled
      have shaped : (f.multiple || p.field.shape.isArray) = p.field.isMultiple := by
        rw [FieldPlan.isMultiple, fits.multiple]
      have structured {root : Place} {item : Datum}
          (recorded : record doc p.children root [] = some item) : IsItem f .struct item :=
        isItem_of_record below
          (fun g member q d plan found => ih g member q root d plan found) recorded
      rw [retrieve_eq] at retrieved
      split at retrieved
      · next struct =>
          split at retrieved
          · next multiple =>
              obtain rfl := Option.some.inj retrieved
              refine .list fits.shape (shaped.trans multiple) fun item member => ?_
              obtain ⟨root, -, recorded⟩ := List.mem_filterMap.mp member
              exact struct ▸ structured recorded
          · next single =>
              obtain ⟨root, -, recorded⟩ := Option.bind_eq_some_iff.mp retrieved
              exact .single fits.shape (shaped.trans (eq_false_of_ne_true single))
                (struct ▸ structured recorded)
      · exact FieldPlan.conforms_of_leaf? fits retrieved

/-- Scores, each with a number and maybe the one who has it. -/
def scoresField : Definition.Field :=
  { title := "scores", type := "[]struct", path := ⟨["//p"]⟩, fields := [
      { title := "score", type := "int", path := ⟨["."]⟩ },
      { title := "by", type := "string", path := ⟨["@id"]⟩, optional := true }] }

def scoresPlan : Plan :=
  .node ⟨"scores", ⟨.struct, true⟩,
      [⟨"//p", .path true [.mk .descendantOrSelf .node [], .mk .child (.name "p") []]⟩], {}, {},
      false, false, false, false, false⟩
    [.node ⟨"score", ⟨.int, false⟩, [⟨".", .path false [.mk .self .node []]⟩], {}, {},
      false, false, false, false, false⟩ [],
     .node ⟨"by", ⟨.string, false⟩, [⟨"@id", .path false [.mk .attributes (.name "id") []]⟩], {}, {},
      true, false, false, false, false⟩ []]

/-- A score by someone, one by no one, and none. -/
def scoresDocument : Document :=
  ⟨.node .document
    [.node (.element .html "p" [⟨"id", "m", none⟩]) [.node (.text "12") []],
     .node (.element .html "p" []) [.node (.text "-3") []],
     .node (.element .html "p" [⟨"id", "n", none⟩]) [.node (.text "none") []]]⟩

def scoresValue : Datum :=
  .list [.map [("by", .text "m"), ("score", .int 12)], .map [("score", .int (-3))]]

theorem compile_scoresField : compile scoresField = .ok scoresPlan := by
  refine compile_eq_ok_iff.mpr ⟨⟨rfl, by cbv, rfl, rfl, by cbv, rfl, rfl, rfl, rfl, rfl⟩,
    .cons ?_ (.cons ?_ .nil)⟩
  · exact compile_eq_ok_iff.mpr
      ⟨⟨rfl, by cbv, rfl, rfl, by cbv, rfl, rfl, rfl, rfl, rfl⟩, .nil⟩
  · exact compile_eq_ok_iff.mpr
      ⟨⟨rfl, by cbv, rfl, rfl, by cbv, rfl, rfl, rfl, rfl, rfl⟩, .nil⟩

theorem retrieve_conforms_scores :
    compile scoresField = .ok scoresPlan ∧
    scoresPlan.retrieve scoresDocument ⟨[], none⟩ = some scoresValue ∧
    scoresField.Conforms scoresValue := by
  have found : scoresPlan.retrieve scoresDocument ⟨[], none⟩ = some scoresValue := by cbv
  exact ⟨compile_scoresField, found, retrieve_conforms scoresField scoresPlan scoresDocument
    ⟨[], none⟩ scoresValue compile_scoresField found⟩

end Plan

end Harvest
