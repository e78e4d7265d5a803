import Mathlib
import Harvest.Catalog.Loading
import Harvest.Proofs.Directory.Lookup

/-!
# What a catalog finds

A catalog finds what its extractors find, each under the names that lead to it, and nothing else.
The mappings of its directories lie in each other as the directories do; a directory in which
nothing is found has none.
-/

namespace Harvest

namespace Datum

variable {entries : List (String × Datum)} {key : String}

theorem mapping?_eq_none_iff : mapping? entries = none ↔ entries = [] := by
  cases entries <;> simp [mapping?]

/-- A mapping that is there is not empty. -/
theorem exists_cons_of_mapping? {d : Datum} (made : mapping? entries = some d) :
    ∃ entry rest, d = .map (entry :: rest) := by
  rw [mapping?] at made
  split at made
  · cases made
  · next filled =>
      obtain rfl := Option.some.inj made
      rw [ofEntries_eq]
      cases entries with
      | nil => exact absurd rfl filled
      | cons first later =>
          have key : first.1 ∈ (Keyed.ofList (first :: later)).map Prod.fst :=
            Keyed.mem_keys_ofList.mpr (.head _)
          cases sorted : Keyed.ofList (first :: later) with
          | cons entry rest => exact ⟨entry, rest, rfl⟩
          | nil =>
              rw [sorted] at key
              cases key

/-- Under each of the names that it was made from a mapping has what was given for it. -/
theorem get?_mapping? (distinct : (entries.map Prod.fst).Nodup) :
    (mapping? entries).bind (get? key) = entries.lookup key := by
  rw [mapping?]
  split
  · next empty =>
      rw [List.isEmpty_iff.mp empty]
      rfl
  · rw [Option.bind_some, ofEntries_eq, get?, entries?, Option.bind_some,
      Keyed.lookup_ofList distinct]

theorem mapping?_congr {others : List (String × Datum)} (same : entries.Perm others)
    (distinct : (entries.map Prod.fst).Nodup) : mapping? entries = mapping? others := by
  rw [mapping?, mapping?, ofEntries_eq, ofEntries_eq, Keyed.ofList_congr same distinct,
    same.isEmpty_eq]

end Datum

namespace Catalog

open Directory

/-- The datum under some names in what a catalog has found.  The names in front of the last are those
of directories, whose mappings lie in each other. -/
def under? : List String → Catalog → Datum → Option Datum
  | [], _, found => some found
  | [name], _, found => found.get? name
  | name :: rest, c, found =>
      match c.get? name with
      | some (.directory below) => (found.get? name).bind (under? rest below)
      | _ => none

section Apply

variable {c : Catalog} {url : String} {doc : Document} {place : Place}

theorem apply_eq (c : Catalog) : c.apply url doc place = Datum.mapping? (results url doc place c) :=
  rfl

theorem applyEntry_item (e : Extractor) :
    applyEntry url doc place (.item e) = e.apply url doc place := by rw [applyEntry]

theorem applyEntry_directory (below : Catalog) :
    applyEntry url doc place (.directory below) = below.apply url doc place := by
  rw [applyEntry, apply_eq]

theorem results_eq (c : Catalog) : results url doc place c =
    c.filterMap fun entry => (applyEntry url doc place entry.2).map (entry.1, ·) := by
  induction c with
  | nil => rfl
  | cons first c ih =>
      rw [results, List.filterMap_cons, ih]
      cases applyEntry url doc place first.2 <;> rfl

theorem keys_results_sublist (c : Catalog) :
    ((results url doc place c).map Prod.fst).Sublist (c.map Prod.fst) := by
  induction c with
  | nil => exact .slnil
  | cons first c ih =>
      rw [results]
      split
      · exact ih.cons_cons _
      · exact ih.cons _

theorem nodup_results (distinct : Distinct c) :
    ((results url doc place c).map Prod.fst).Nodup :=
  distinct.nodup.sublist (keys_results_sublist c)

/-- Under a name stands what its entry finds. -/
theorem get?_apply (distinct : Distinct c) (name : String) :
    (c.apply url doc place).bind (Datum.get? name) =
      (c.get? name).bind (applyEntry url doc place) := by
  rw [apply_eq, Datum.get?_mapping? (nodup_results distinct)]
  refine Option.ext fun value => ?_
  rw [Keyed.lookup_eq_some_iff_of_nodup (nodup_results distinct), results_eq, List.mem_filterMap,
    Option.bind_eq_some_iff]
  simp only [distinct.get?_eq_some_iff, Option.map_eq_some_iff, Prod.mk.injEq, Prod.exists]
  constructor
  · rintro ⟨_, entry, member, _, found, rfl, rfl⟩
    exact ⟨entry, member, found⟩
  · rintro ⟨entry, member, found⟩
    exact ⟨name, entry, member, value, found, rfl, rfl⟩

/-- Under names that lead to a directory stands the mapping of this directory, and under others what
the extractor finds to which they lead. -/
theorem under?_apply (distinct : Distinct c) (names : List String) :
    (c.apply url doc place).bind (under? names c) =
      match directory? names c with
      | some below => apply below url doc place
      | none => (c.find? names).bind fun e => e.apply url doc place := by
  induction names generalizing c with
  | nil => simp [under?, directory?]
  | cons name rest ih =>
      cases rest with
      | nil =>
          simp only [under?, directory?, find?, get?_apply distinct]
          cases c.get? name with
          | none => rfl
          | some entry =>
              cases entry with
              | item e => exact applyEntry_item e
              | directory below => exact applyEntry_directory below
      | cons next rest =>
          simp only [under?, directory?, find?]
          cases here : c.get? name with
          | none => simp
          | some entry =>
              cases entry with
              | item e => simp
              | directory below =>
                  rw [← Option.bind_assoc, get?_apply distinct, here, Option.bind_some,
                    applyEntry_directory, ih (distinct.of_get? here)]
                  rfl

/-- Nothing is found if and only if no extractor finds anything. -/
theorem apply_eq_none_iff (c : Catalog) :
    c.apply url doc place = none ↔ ∀ file ∈ files c, file.2.apply url doc place = none := by
  rw [apply_eq, Datum.mapping?_eq_none_iff]
  induction c using inductionOn with
  | nil => simp [results]
  | item name e c ih =>
      rw [results, applyEntry_item, files_item, List.forall_mem_cons, ← ih]
      cases e.apply url doc place <;> simp
  | directory name below c ihBelow ih =>
      rw [← Datum.mapping?_eq_none_iff, ← apply_eq] at ihBelow
      rw [results, applyEntry_directory, files_directory, List.forall_mem_append, ← ih,
        List.forall_mem_map, ← ihBelow]
      cases apply below url doc place <;> simp

theorem results_perm {c' : Catalog} (same : Reordered c c') (distinct : Distinct c) :
    (results url doc place c).Perm (results url doc place c') := by
  induction same with
  | nil => exact .nil
  | item name e _ ih =>
      rw [results, results]
      cases applyEntry url doc place (.item e) with
      | none => exact ih distinct.2.2
      | some value => exact (ih distinct.2.2).cons (name, value)
  | @directory name below below' _ _ _ _ ihInside ih =>
      obtain ⟨-, inside, rest⟩ := distinct
      have merged : apply below url doc place = apply below' url doc place :=
        Datum.mapping?_congr (ihInside inside) (nodup_results inside)
      rw [results, results, applyEntry_directory, applyEntry_directory, merged]
      cases apply below' url doc place with
      | none => exact ih rest
      | some value => exact (ih rest).cons (name, value)
  | swap first second d =>
      simp only [results_eq]
      exact (List.Perm.swap second first d).filterMap _
  | trans left _ ihLeft ihRight => exact (ihLeft distinct).trans (ihRight (left.distinct distinct))

/-- What is found does not depend on the order of the entries. -/
theorem apply_reordered {c' : Catalog} (same : Reordered c c') (distinct : Distinct c) :
    c.apply url doc place = c'.apply url doc place :=
  Datum.mapping?_congr (results_perm same distinct) (nodup_results distinct)

end Apply

/-- Under names that do not lead to a directory a catalog finds a value if and only if they lead to an
extractor that finds this value; it finds nothing if and only if none of its extractors does.  Each
directory has what it finds by itself under its names, which is never an empty mapping, and the order
of the entries does not matter. -/
theorem apply_pointwise (c : Catalog) (url : String) (doc : Document) (place : Place)
    (distinct : Distinct c) :
    (∀ names value,
      ((c.apply url doc place).bind (under? names c) = some value ∧ directory? names c = none) ↔
        ∃ e, c.find? names = some e ∧ e.apply url doc place = some value) ∧
    (c.apply url doc place = none ↔
      ∀ names e, c.find? names = some e → e.apply url doc place = none) ∧
    (∀ names below, directory? names c = some below →
      (c.apply url doc place).bind (under? names c) = apply below url doc place ∧
      ∀ found, apply below url doc place = some found → ∃ entry rest, found = .map (entry :: rest)) ∧
    ∀ c', Reordered c c' → Catalog.apply c' url doc place = c.apply url doc place := by
  refine ⟨fun names value => ?_, ?_, fun names below here => ?_, fun c' same => ?_⟩
  · rw [under?_apply distinct names]
    constructor
    · rintro ⟨found, noDirectory⟩
      rw [noDirectory] at found
      exact Option.bind_eq_some_iff.mp found
    · rintro ⟨e, reached, found⟩
      have noDirectory : directory? names c = none := directory?_of_find? reached
      rw [noDirectory]
      exact ⟨Option.bind_eq_some_iff.mpr ⟨e, reached, found⟩, rfl⟩
  · rw [apply_eq_none_iff]
    constructor
    · intro none names e reached
      exact none (names, e) (distinct.mem_files_iff.mpr reached)
    · rintro none ⟨names, e⟩ member
      exact none names e (distinct.mem_files_iff.mp member)
  · refine ⟨?_, fun found applied => Datum.exists_cons_of_mapping? applied⟩
    rw [under?_apply distinct names, here]
  · exact (apply_reordered same distinct).symm

/-- An extractor for texts in elements called `name`. -/
def textExtractor (title name : String) : Extractor :=
  ⟨{}, .node ⟨title, ⟨.string, false⟩, [⟨name, .path false [.mk .child (.name name) []]⟩], {}, {},
    false, false, false, false, false⟩ [], none⟩

/-- An extractor for names, and one for prices in a directory of its own. -/
def shopEntries : Catalog :=
  [("name", .item (textExtractor "Name" "h")),
    ("old", .directory [("price", .item (textExtractor "Price" "p"))])]

/-- The same below a directory, beside an extractor for headings. -/
def shopCatalog (entries : Catalog) : Catalog :=
  [("heading", .item (textExtractor "Heading" "h")), ("shop", .directory entries)]

/-- A page with a heading and without a price. -/
def headingDocument : Document :=
  ⟨.node .document [.node (.element .html "h" []) [.node (.text "Widget") []]]⟩

theorem apply_pointwise_shop :
    Distinct (shopCatalog shopEntries) ∧
    (shopCatalog shopEntries).apply "" headingDocument .root =
      some (.map [("heading", .map [("Heading", .text "Widget")]),
        ("shop", .map [("name", .map [("Name", .text "Widget")])])]) ∧
    (∃ e, (shopCatalog shopEntries).find? ["shop", "name"] = some e ∧
      e.apply "" headingDocument .root = some (.map [("Name", .text "Widget")])) ∧
    Reordered (shopCatalog shopEntries) (shopCatalog shopEntries.reverse).reverse ∧
    Catalog.apply (shopCatalog shopEntries.reverse).reverse "" headingDocument .root =
      (shopCatalog shopEntries).apply "" headingDocument .root := by
  have distinct : Distinct (shopCatalog shopEntries) := by
    simp only [shopCatalog, shopEntries, Distinct, DistinctEntry]
    decide
  have found : (shopCatalog shopEntries).apply "" headingDocument .root =
      some (.map [("heading", .map [("Heading", .text "Widget")]),
        ("shop", .map [("name", .map [("Name", .text "Widget")])])]) := by cbv
  have same : Reordered (shopCatalog shopEntries) (shopCatalog shopEntries.reverse).reverse :=
    .trans (.item _ _ (.directory _ (.swap _ _ _) .nil)) (.swap _ _ _)
  obtain ⟨pointwise, -, -, unordered⟩ :=
    apply_pointwise (shopCatalog shopEntries) "" headingDocument .root distinct
  have held : (((shopCatalog shopEntries).apply "" headingDocument .root).bind
      (under? ["shop", "name"] (shopCatalog shopEntries))) =
        some (.map [("Name", .text "Widget")]) := by
    rw [found]
    rfl
  exact ⟨distinct, found, (pointwise _ _).mp ⟨held, rfl⟩, same, unordered _ same⟩

/-- Under the names of a directory there can be a value although they lead to no extractor. -/
theorem apply_holds_directory :
    Distinct (shopCatalog shopEntries) ∧
    ((shopCatalog shopEntries).apply "" headingDocument .root).bind
        (under? ["shop"] (shopCatalog shopEntries)) =
      some (.map [("name", .map [("Name", .text "Widget")])]) ∧
    (shopCatalog shopEntries).find? ["shop"] = none := by
  refine ⟨?_, by cbv, rfl⟩
  simp only [shopCatalog, shopEntries, Distinct, DistinctEntry]
  decide

end Catalog

end Harvest
