import Mathlib
import Harvest.Proofs.Datum
import Harvest.Proofs.Extraction.Markup
import Harvest.Proofs.Extraction.Multiplicity
import Harvest.Proofs.Extraction.Structure

/-!
# Relaxing a definition

A definition is relaxed by making fields optional and by adding queries behind those that a field
has.  What was found before is found afterwards as well: a field for which something was found has
the same value or one that extends it, and where a structure lacked a value it may now have one.
Queries may not be added to a structure that has none, since it would then be read from other nodes.
-/

namespace Harvest

namespace Definition.Field

/-- Whether fields beside each other have different titles, everywhere in a definition. -/
inductive IsDistinct : Field → Prop where
  | field {f : Field} (titles : (f.fields.map fun g => g.title).Nodup)
      (below : ∀ g ∈ f.fields, IsDistinct g) : IsDistinct f

/-- Whether another definition is a relaxed form of a definition: any of its fields may have become
optional, and queries may have been added to any field, unless it is a structure that had none. -/
inductive RelaxesTo : Field → Field → Prop where
  | field {f : Field} (marked : Bool) {path : Lines} {more : List String} {fields : List Field}
      (lines : path.toList = f.path.toList ++ more)
      (compiling : ∀ line ∈ more, ∃ q, XPath.Query.compile line = .ok q)
      (addable : more = [] ∨ f.path.toList ≠ [] ∨ f.IsPathless)
      (below : List.Forall₂ RelaxesTo f.fields fields) :
      RelaxesTo f { f with optional := f.optional || marked, path, fields }

end Definition.Field

/-! ## One field -/

namespace FieldPlan

variable {f : Definition.Field} {p : FieldPlan} {doc : Document} {place : Place} {v : Datum}

/-- A field with queries added, and maybe made optional. -/
def relaxed (p : FieldPlan) (marked : Bool) (more : List XPath.Query) : FieldPlan :=
  { p with optional := p.optional || marked, candidates := p.candidates ++ more }

theorem candidate?_relaxed (marked : Bool) (more : List XPath.Query) :
    (p.relaxed marked more).candidate? doc place = p.candidate? doc place := by
  funext q
  rw [candidate?, candidate?, markupList_eq, markupList_eq]
  rfl

/-- Queries are tried only after those before them have found nothing. -/
theorem leaf?_relaxed {marked : Bool} {more : List XPath.Query}
    (found : p.leaf? doc place = some v) : (p.relaxed marked more).leaf? doc place = some v := by
  have queries : (p.relaxed marked more).candidates = p.candidates ++ more := rfl
  have front : p.candidates.findSome? (p.candidate? doc place) = some v := found
  rw [leaf?, candidate?_relaxed, queries, List.findSome?_append, front, Option.some_or]

theorem roots_relaxed {marked : Bool} {more : List XPath.Query}
    (addable : more = [] ∨ p.candidates ≠ []) :
    (p.relaxed marked more).roots doc place = p.roots doc place := by
  rw [roots, roots, relaxed]
  cases own : p.candidates with
  | nil =>
      obtain rfl : more = [] := addable.resolve_right fun queries => queries own
      rfl
  | cons q queries => rfl

/-- A field that compiles does so in a relaxed form. -/
theorem IsFor.relaxed (fits : IsFor f p) {marked : Bool} {path : Lines} {more : List String}
    {queries : List XPath.Query} {fields : List Definition.Field}
    (lines : path.toList = f.path.toList ++ more)
    (compiled : List.Forall₂ (fun line q => XPath.Query.compile line = .ok q) more queries) :
    IsFor { f with optional := f.optional || marked, path, fields } (p.relaxed marked queries) := by
  have own := XPath.Query.compileLines_eq_ok_iff.mp fits.candidates
  refine { fits with optional := congrArg (· || marked) fits.optional, candidates := ?_ }
  refine XPath.Query.compileLines_eq_ok_iff.mpr ?_
  rw [lines]
  exact List.rel_append own compiled

end FieldPlan

/-! ## Structures -/

namespace Plan

variable {doc : Document} {place root : Place} {v : Datum}

/-- Whether all that a plan finds is found by another as well, or an extension of it, and the other
may stand in its place among the fields of a structure. -/
structure KeptBy (p q : Plan) : Prop where
  title : q.title = p.title
  optional : p.field.optional = true → q.field.optional = true
  value : ∀ doc place v, p.retrieve doc place = some v →
    ∃ w, q.retrieve doc place = some w ∧ v.ExtendsTo w

variable {ps qs : List Plan}

theorem KeptBy.isSome {p q : Plan} (kept : p.KeptBy q) (found : (p.retrieve doc place).isSome) :
    (q.retrieve doc place).isSome := by
  obtain ⟨v, own⟩ := Option.isSome_iff_exists.mp found
  obtain ⟨w, extended, -⟩ := kept.value doc place v own
  exact Option.isSome_iff_exists.mpr ⟨w, extended⟩

/-- What stands under a title was found by a field with this title. -/
theorem exists_of_lookup_record {entries : List (String × Datum)} {title : String} {d : Datum}
    (recorded : record doc ps root [] = some (.map entries))
    (under : entries.lookup title = some d) :
    ∃ p ∈ ps, p.title = title ∧ p.retrieve doc root = some d := by
  rw [lookup_record recorded] at under
  obtain ⟨p, member, found⟩ := List.mem_filterMap.mp (List.mem_of_getLast? under)
  obtain ⟨among, own⟩ := List.mem_filter.mp member
  exact ⟨p, among, of_decide_eq_true own, found⟩

/-- A structure is kept if its fields are.  That their titles differ is what assigns the entries of
one structure to those of the other. -/
theorem exists_record_of_kept (kept : List.Forall₂ KeptBy ps qs)
    (titles : (ps.map Plan.title).Nodup) (recorded : record doc ps root [] = some v) :
    ∃ w, record doc qs root [] = some w ∧ v.ExtendsTo w := by
  have enough : Suffices doc root qs := fun q member required => by
    obtain ⟨p, among, own⟩ := exists_counterpart kept.flip member
    refine own.isSome ((record_eq_some recorded).1 p among ?_)
    exact Bool.eq_false_iff.mpr fun optional => by simp [own.optional optional] at required
  have whole : (record doc qs root []).isSome := isSome_record_iff.mpr enough
  obtain ⟨w, recorded'⟩ := Option.isSome_iff_exists.mp whole
  obtain ⟨-, entries, rfl, -⟩ := record_eq_some recorded
  obtain ⟨-, others, rfl, -⟩ := record_eq_some recorded'
  refine ⟨.map others, recorded', .map (fun title member => ?_) fun title d e under under' => ?_⟩
  · obtain ⟨p, among, rfl, found⟩ := (mem_keys_record_iff recorded).mp member
    obtain ⟨q, among', own⟩ := exists_counterpart kept among
    exact (mem_keys_record_iff recorded').mpr ⟨q, among', own.title, own.isSome found⟩
  · -- both entries have the title of `p`, and no other field of the first structure has it
    obtain ⟨p, among, rfl, found⟩ := exists_of_lookup_record recorded under
    obtain ⟨q, among', title, found'⟩ := exists_of_lookup_record recorded' under'
    obtain ⟨other, among'', own⟩ := exists_counterpart kept.flip among'
    obtain rfl : other = p :=
      List.inj_on_of_nodup_map titles among'' among (own.title.symm.trans title)
    obtain ⟨w, found'', extended⟩ := own.value doc root d found
    obtain rfl : e = w := Option.some.inj (found'.symm.trans found'')
    exact extended

/-- Where more is found, and extensions of what was found before, a list of it is extended. -/
theorem sublistForall₂_filterMap {α β : Type} {R : β → β → Prop} {f g : α → Option β}
    (kept : ∀ a b, f a = some b → ∃ c, g a = some c ∧ R b c) (as : List α) :
    List.SublistForall₂ R (as.filterMap f) (as.filterMap g) := by
  induction as with
  | nil => exact .nil
  | cons a as ih =>
      cases found : f a with
      | none =>
          rw [List.filterMap_cons_none found]
          cases found' : g a with
          | none => rwa [List.filterMap_cons_none found']
          | some c =>
              rw [List.filterMap_cons_some found']
              exact .cons_right ih
      | some b =>
          obtain ⟨c, found', related⟩ := kept a b found
          rw [List.filterMap_cons_some found, List.filterMap_cons_some found']
          exact .cons related ih

/-- Relaxing the field at the top keeps what is found, if the fields below it are kept. -/
theorem exists_retrieve_of_kept {field : FieldPlan} {marked : Bool} {more : List XPath.Query}
    (addable : field.shape.kind = .struct → more = [] ∨ field.candidates ≠ [])
    (kept : List.Forall₂ KeptBy ps qs) (titles : (ps.map Plan.title).Nodup)
    (found : (node field ps).retrieve doc place = some v) :
    ∃ w, (node (field.relaxed marked more) qs).retrieve doc place = some w ∧ v.ExtendsTo w := by
  have records (root : Place) (v : Datum) (recorded : record doc ps root [] = some v) :
      ∃ w, record doc qs root [] = some w ∧ v.ExtendsTo w :=
    exists_record_of_kept kept titles recorded
  have kind : (field.relaxed marked more).shape.kind = field.shape.kind := rfl
  have multiple : (field.relaxed marked more).isMultiple = field.isMultiple := rfl
  rw [retrieve_eq, Plan.field, Plan.children] at found
  rw [retrieve_eq, Plan.field, Plan.children, kind, multiple]
  by_cases struct : field.shape.kind = .struct
  · rw [if_pos struct] at found ⊢
    rw [FieldPlan.roots_relaxed (addable struct)]
    split at found
    · next several =>
        obtain rfl := Option.some.inj found
        rw [if_pos several]
        exact ⟨_, rfl, .list (sublistForall₂_filterMap records _)⟩
    · next single =>
        rw [if_neg single]
        obtain ⟨root, first, recorded⟩ := Option.bind_eq_some_iff.mp found
        rw [first, Option.bind_some]
        exact records root v recorded
  · rw [if_neg struct] at found ⊢
    exact ⟨v, FieldPlan.leaf?_relaxed found, .refl v⟩

/-! ## Definitions -/

/-- The plans of fields that are kept one by one. -/
theorem exists_plans_of_kept {fs gs : List Definition.Field}
    (compiled : List.Forall₂ (fun f p => compile f = .ok p) fs ps)
    (relaxed : List.Forall₂ Definition.Field.RelaxesTo fs gs)
    (each : ∀ f ∈ fs, ∀ g p, f.RelaxesTo g → compile f = .ok p →
      ∃ q, compile g = .ok q ∧ p.KeptBy q) :
    ∃ qs, List.Forall₂ (fun g q => compile g = .ok q) gs qs ∧ List.Forall₂ KeptBy ps qs := by
  induction relaxed generalizing ps with
  | nil =>
      cases compiled
      exact ⟨[], .nil, .nil⟩
  | @cons f g fs gs relaxed _ ih =>
      cases compiled with
      | @cons _ p _ ps own compiled =>
          obtain ⟨q, own', kept⟩ := each f (.head fs) g p relaxed own
          obtain ⟨qs, compiled', kept'⟩ :=
            ih compiled fun other member => each other (.tail f member)
          exact ⟨q :: qs, .cons own' compiled', .cons kept kept'⟩

/-- Queries may be added to a field of a plan if they may be to that of its definition. -/
theorem addable_of_isFor {f : Definition.Field} {p : FieldPlan} (fits : FieldPlan.IsFor f p)
    {more : List String} {queries : List XPath.Query}
    (addable : more = [] ∨ f.path.toList ≠ [] ∨ f.IsPathless)
    (compiled : List.Forall₂ (fun line q => XPath.Query.compile line = .ok q) more queries)
    (struct : p.shape.kind = .struct) : queries = [] ∨ p.candidates ≠ [] := by
  rcases addable with rfl | sought | pathless
  · exact .inl (List.forall₂_nil_left_iff.mp compiled)
  · exact .inr fun none => sought (fits.candidates_eq_nil_iff.mp none)
  · exact absurd struct (fits.isPathless_iff.mp pathless).1

/-- A definition that compiles does so in each of its relaxed forms, and keeps what it finds. -/
theorem exists_keptBy_of_relaxesTo {f g : Definition.Field} {p : Plan} (distinct : f.IsDistinct)
    (relaxed : f.RelaxesTo g) (compiled : compile f = .ok p) :
    ∃ q, compile g = .ok q ∧ p.KeptBy q := by
  induction f using Definition.Field.inductionOn generalizing g p with
  | field f ih =>
      obtain ⟨titles, distinct⟩ := distinct
      obtain ⟨marked, lines, compiling, addable, relaxed⟩ := relaxed
      have titles' : (p.children.map Plan.title).Nodup := by rwa [map_title_of_compile compiled]
      obtain ⟨field, ps⟩ := p
      obtain ⟨fits, below⟩ := compile_eq_ok_iff.mp compiled
      obtain ⟨queries, compiled'⟩ := exists_forall₂ compiling
      obtain ⟨qs, below', kept⟩ := exists_plans_of_kept below relaxed
        fun f member g p relaxed compiled => ih f member (distinct f member) relaxed compiled
      refine ⟨.node (field.relaxed marked queries) qs,
        compile_eq_ok_iff.mpr ⟨fits.relaxed lines compiled', below'⟩, rfl, fun optional => ?_,
        fun doc place v found => ?_⟩
      · exact Bool.or_eq_true_iff.mpr (.inl optional)
      · exact exists_retrieve_of_kept (addable_of_isFor fits addable compiled') kept titles' found

/-- Relaxing a definition in which fields beside each other have different titles loses nothing: it
compiles as it did before, and whatever was found at a place of a document is found there again, or
an extension of it. -/
theorem retrieve_of_relaxesTo (f g : Definition.Field) (p : Plan) (distinct : f.IsDistinct)
    (relaxed : f.RelaxesTo g) (compiled : compile f = .ok p) :
    ∃ q, compile g = .ok q ∧ ∀ doc place v, p.retrieve doc place = some v →
      ∃ w, q.retrieve doc place = some w ∧ v.ExtendsTo w := by
  obtain ⟨q, compiled', kept⟩ := exists_keptBy_of_relaxesTo distinct relaxed compiled
  exact ⟨q, compiled', kept.value⟩

/-- Cards, each with a price and a label. -/
def cardsField (price label : Definition.Field) : Definition.Field :=
  { title := "cards", type := "[]struct", path := ⟨["//li"]⟩, fields := [price, label] }

/-- The price of a card. -/
def priceField (optional : Bool) : Definition.Field :=
  { title := "price", type := "int", path := ⟨["b"]⟩, optional }

/-- The label of a card, to be looked for along some paths. -/
def labelField (paths : List String) : Definition.Field :=
  { title := "label", type := "string", path := ⟨paths⟩ }

/-- A card with all that is asked for, and one without a price and with its label elsewhere. -/
def cardsDocument : Document :=
  ⟨.node .document
    [.node (.element .html "li" [])
      [.node (.element .html "b" []) [.node (.text "1") []],
       .node (.element .html "i" []) [.node (.text "x") []]],
     .node (.element .html "li" [⟨"id", "y", none⟩]) []]⟩

def italicQuery : XPath.Query := ⟨"i", .path false [.mk .child (.name "i") []]⟩

def idQuery : XPath.Query := ⟨"@id", .path false [.mk .attributes (.name "id") []]⟩

def cardsPlan (optional : Bool) (queries : List XPath.Query) : Plan :=
  .node ⟨"cards", ⟨.struct, true⟩,
      [⟨"//li", .path true [.mk .descendantOrSelf .node [], .mk .child (.name "li") []]⟩], {}, {},
      false, false, false, false, false⟩
    [.node ⟨"price", ⟨.int, false⟩, [⟨"b", .path false [.mk .child (.name "b") []]⟩], {}, {},
      optional, false, false, false, false⟩ [],
     .node ⟨"label", ⟨.string, false⟩, queries, {}, {}, false, false, false, false, false⟩ []]

theorem compile_cardsField (optional : Bool) {paths : List String} {queries : List XPath.Query}
    (compiled : XPath.Query.compileLines .path ⟨paths⟩ = .ok queries) :
    compile (cardsField (priceField optional) (labelField paths)) =
      .ok (cardsPlan optional queries) := by
  refine compile_eq_ok_iff.mpr ⟨⟨rfl, by cbv, rfl, rfl, by cbv, rfl, rfl, rfl, rfl, rfl⟩,
    .cons ?_ (.cons ?_ .nil)⟩
  · exact compile_eq_ok_iff.mpr
      ⟨⟨rfl, by cbv, rfl, rfl, by cbv, rfl, rfl, rfl, rfl, rfl⟩, .nil⟩
  · exact compile_eq_ok_iff.mpr
      ⟨⟨rfl, compiled, rfl, rfl, by cbv, rfl, rfl, rfl, rfl, rfl⟩, .nil⟩

theorem isDistinct_cardsField :
    (cardsField (priceField false) (labelField ["i"])).IsDistinct := by
  have leaf (f : Definition.Field) (none : f.fields = []) : f.IsDistinct :=
    .field (by rw [none]; exact .nil) (by simp [none])
  refine .field (by decide) fun g member => ?_
  rcases List.mem_cons.mp member with rfl | member
  · exact leaf _ rfl
  · obtain rfl := List.mem_singleton.mp member
    exact leaf _ rfl

theorem relaxesTo_cardsField :
    (cardsField (priceField false) (labelField ["i"])).RelaxesTo
      (cardsField (priceField true) (labelField ["i", "@id"])) := by
  have same (lines : Lines) : lines.toList = lines.toList ++ [] := (List.append_nil _).symm
  have added : (labelField ["i", "@id"]).path.toList =
      (labelField ["i"]).path.toList ++ ["@id"] := by cbv
  have sought : (labelField ["i"]).path.toList = ["i"] := by cbv
  have compiling : XPath.Query.compile "@id" = .ok idQuery := by cbv
  refine .field false (same _) (by simp) (.inl rfl) (.cons ?_ (.cons ?_ .nil))
  · exact .field true (same _) (by simp) (.inl rfl) .nil
  · refine .field false added (fun line member => ?_) (.inr (.inl (by simp [sought]))) .nil
    obtain rfl := List.mem_singleton.mp member
    exact ⟨_, compiling⟩

theorem retrieve_of_relaxesTo_cards :
    (cardsField (priceField false) (labelField ["i"])).IsDistinct ∧
    (cardsField (priceField false) (labelField ["i"])).RelaxesTo
      (cardsField (priceField true) (labelField ["i", "@id"])) ∧
    compile (cardsField (priceField false) (labelField ["i"])) =
      .ok (cardsPlan false [italicQuery]) ∧
    (cardsPlan false [italicQuery]).retrieve cardsDocument .root =
      some (.list [.map [("label", .text "x"), ("price", .int 1)]]) ∧
    compile (cardsField (priceField true) (labelField ["i", "@id"])) =
      .ok (cardsPlan true [italicQuery, idQuery]) ∧
    (cardsPlan true [italicQuery, idQuery]).retrieve cardsDocument .root =
      some (.list [.map [("label", .text "x"), ("price", .int 1)], .map [("label", .text "y")]]) ∧
    (Datum.list [.map [("label", .text "x"), ("price", .int 1)]]).ExtendsTo
      (.list [.map [("label", .text "x"), ("price", .int 1)], .map [("label", .text "y")]]) := by
  have strict : compile (cardsField (priceField false) (labelField ["i"])) =
      .ok (cardsPlan false [italicQuery]) := compile_cardsField false (by cbv)
  have loose : compile (cardsField (priceField true) (labelField ["i", "@id"])) =
      .ok (cardsPlan true [italicQuery, idQuery]) := compile_cardsField true (by cbv)
  have found : (cardsPlan false [italicQuery]).retrieve cardsDocument .root =
      some (.list [.map [("label", .text "x"), ("price", .int 1)]]) := by cbv
  have more : (cardsPlan true [italicQuery, idQuery]).retrieve cardsDocument .root = some (.list
      [.map [("label", .text "x"), ("price", .int 1)], .map [("label", .text "y")]]) := by cbv
  obtain ⟨q, compiled, kept⟩ :=
    retrieve_of_relaxesTo _ _ _ isDistinct_cardsField relaxesTo_cardsField strict
  obtain rfl := Except.ok.inj (loose.symm.trans compiled)
  obtain ⟨w, found', extended⟩ := kept _ _ _ found
  obtain rfl := Option.some.inj (more.symm.trans found')
  exact ⟨isDistinct_cardsField, relaxesTo_cardsField, strict, found, loose, more, extended⟩

end Plan

end Harvest
