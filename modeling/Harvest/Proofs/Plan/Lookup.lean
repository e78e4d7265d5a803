import Mathlib
import Harvest.Proofs.Plan.Arrangement
import Harvest.Proofs.Text.Split

/-!
# Fields by their paths

The path of a field joins the titles on the way down to it by dots.  A field that is found at a path
has this path, whatever the titles are.  The other way round, the path of a field leads back to it
if no title has a dot in it and fields beside each other have different titles.  In a definition and
in its table the same path leads to the same field: both take the first child with a title, and
neither goes back to a later one if the way ends below the first.
-/

namespace Harvest.Plan

open Definition (Field)

variable {f g : Field} {p q : Plan} {rows : List Row} {row : Row} {path title : String}
  {address : List Nat} {id child k : Nat}

/-! ## Steps -/

/-- The title in a row. -/
def titleIn (rows : List Row) (id : Nat) : Option String :=
  rows[id]?.map fun row => row.field.title

theorem idTitled?_eq_some {ids : List Nat} (found : idTitled? rows title ids = some child) :
    child ∈ ids ∧ titleIn rows child = some title :=
  ⟨List.mem_of_find?_eq_some found, by simpa [titleIn] using List.find?_some found⟩

theorem idTitled?_of_nodup {ids : List Nat} (distinct : (ids.map (titleIn rows)).Nodup)
    (member : child ∈ ids) (titled : titleIn rows child = some title) :
    idTitled? rows title ids = some child := by
  rw [idTitled?]
  induction ids with
  | nil => cases member
  | cons id ids ih =>
      rw [List.map_cons, List.nodup_cons] at distinct
      rcases List.mem_cons.mp member with rfl | later
      · exact List.find?_cons_of_pos (by simpa [titleIn] using titled)
      · have other : titleIn rows id ≠ some title := fun same =>
          distinct.1 (List.mem_map.mpr ⟨child, later, titled.trans same.symm⟩)
        rw [List.find?_cons_of_neg (by simpa [titleIn] using other)]
        exact ih distinct.2 later

theorem descend?_cons (rows : List Row) (title : String) (titles : List String) (id : Nat) :
    descend? rows (title :: titles) id =
      (idTitled? rows title ((rows[id]?.map Row.children).getD [])).bind
        (descend? rows titles) := by
  rw [descend?]
  cases idTitled? rows title ((rows[id]?.map Row.children).getD []) <;> rfl

theorem descend?_append (rows : List Row) (titles more : List String) (id : Nat) :
    descend? rows (titles ++ more) id = (descend? rows titles id).bind (descend? rows more) := by
  induction titles generalizing id with
  | nil => rfl
  | cons title titles ih =>
      rw [List.cons_append, descend?_cons, descend?_cons, Option.bind_assoc]
      exact congrArg _ (funext ih)

/-- One step down follows one title. -/
theorem isChild_of_idTitled? (found : p.rows[id]? = some row)
    (next : idTitled? p.rows title row.children = some child) :
    ∃ below, p.rows[child]? = some below ∧ below.parent = some id ∧ below.field.title = title := by
  obtain ⟨member, titled⟩ := idTitled?_eq_some next
  obtain ⟨below, found', parent⟩ := parent_of_isChild ⟨row, found, member⟩
  rw [titleIn, found'] at titled
  exact ⟨below, found', parent, Option.some.inj titled⟩

/-! ## From a path to a field and back -/

/-- The way down along some titles adds these titles. -/
theorem titles_of_descend? {more : List String} (found : p.rows[id]? = some row)
    (reached : descend? p.rows more id = some k) :
    k < p.rows.length ∧ titles p.rows (k + 1) k = titles p.rows (id + 1) id ++ more := by
  induction more generalizing id row with
  | nil =>
      obtain rfl := Option.some.inj reached
      exact ⟨(List.getElem?_eq_some_iff.mp found).1, (List.append_nil _).symm⟩
  | cons title more ih =>
      rw [descend?_cons, found, Option.map_some, Option.getD_some] at reached
      obtain ⟨child, next, reached'⟩ := Option.bind_eq_some_iff.mp reached
      obtain ⟨below, found', parent, rfl⟩ := isChild_of_idTitled? found next
      obtain ⟨inside, whole⟩ := ih found' reached'
      exact ⟨inside, by rw [whole, titles_of_parent found' parent, List.append_assoc]; rfl⟩

theorem find?_eq (p : Plan) (path : String) : p.find? path =
    match Text.splitAt '.' path with
    | [] => none
    | title :: rest => if title = p.title then descend? p.rows rest 0 else none := rfl

/-- A field that is found at a path has this path. -/
theorem relativePath_of_find? (found : p.find? path = some id) :
    id < p.rows.length ∧ p.relativePath id = path := by
  rw [find?_eq] at found
  cases split : Text.splitAt '.' path with
  | nil => simp [split] at found
  | cons title rest =>
      rw [split] at found
      obtain ⟨rfl, reached⟩ : title = p.title ∧ descend? p.rows rest 0 = some id := by
        simpa using found
      obtain ⟨inside, whole⟩ := titles_of_descend? p.getElem?_rows_zero reached
      refine ⟨inside, ?_⟩
      rw [relativePath, whole, titles_zero, List.singleton_append, ← split]
      exact Text.intercalate_splitAt

/-- The titles of a table are those of its rows. -/
theorem exists_row_of_mem_titles {fuel : Nat} (member : title ∈ titles rows fuel id) :
    ∃ row ∈ rows, row.field.title = title := by
  induction fuel generalizing id with
  | zero => cases member
  | succ fuel ih =>
      cases found : rows[id]? with
      | none => simp [titles, found] at member
      | some row =>
          cases parent : row.parent with
          | none =>
              rw [titles_succ_of_root found parent, List.mem_singleton] at member
              exact ⟨row, List.mem_of_getElem? found, member.symm⟩
          | some above =>
              rw [titles_succ_of_parent found parent, List.mem_append, List.mem_singleton] at member
              rcases member with higher | own
              · exact ih higher
              · exact ⟨row, List.mem_of_getElem? found, own.symm⟩

/-- The titles on the way to a field lead to it, if fields beside each other have different ones. -/
theorem exists_descend?_of_distinct
    (distinct : ∀ row ∈ p.rows, (row.children.map (titleIn p.rows)).Nodup)
    (found : p.rows[id]? = some row) :
    ∃ rest, titles p.rows (id + 1) id = p.title :: rest ∧ descend? p.rows rest 0 = some id := by
  induction id using Nat.strongRecOn generalizing row with
  | ind id ih =>
      cases parent : row.parent with
      | none =>
          obtain rfl := (parent_eq_none_iff found).mp parent
          exact ⟨[], titles_zero p, rfl⟩
      | some above =>
          obtain ⟨upper, found', member⟩ := (parent_eq_some_iff found).mp parent
          obtain ⟨rest, whole, reached⟩ := ih above (lt_of_parent found parent) found'
          have titled : titleIn p.rows id = some row.field.title := by rw [titleIn, found]; rfl
          have next : idTitled? p.rows row.field.title upper.children = some id :=
            idTitled?_of_nodup (distinct upper (List.mem_of_getElem? found')) member titled
          refine ⟨rest ++ [row.field.title], ?_, ?_⟩
          · rw [titles_of_parent found parent, whole]
            rfl
          · rw [descend?_append, reached, Option.bind_some, descend?_cons, found', Option.map_some,
              Option.getD_some, next]
            rfl

theorem find?_relativePath_of_distinct (dotless : ∀ row ∈ p.rows, '.' ∉ row.field.title.toList)
    (distinct : ∀ row ∈ p.rows, (row.children.map (titleIn p.rows)).Nodup)
    (inside : id < p.rows.length) : p.find? (p.relativePath id) = some id := by
  obtain ⟨rest, whole, reached⟩ :=
    exists_descend?_of_distinct distinct (List.getElem?_eq_getElem inside)
  have pieces : Text.splitAt '.' (p.relativePath id) = p.title :: rest := by
    rw [relativePath, ← whole]
    refine Text.splitAt_intercalate (fun title member => ?_) (by simp [whole])
    obtain ⟨row, known, rfl⟩ := exists_row_of_mem_titles member
    exact dotless row known
  rw [find?_eq, pieces]
  exact (if_pos rfl).trans reached

/-- A field that is found at a path has this path.  If no title has a dot in it and fields beside
each other have different titles, each field is found at its path. -/
theorem find?_relativePath (p : Plan) :
    (∀ path id, p.find? path = some id → id < p.rows.length ∧ p.relativePath id = path) ∧
    ((∀ row ∈ p.rows, '.' ∉ row.field.title.toList) →
      (∀ row ∈ p.rows, (row.children.map (titleIn p.rows)).Nodup) →
      ∀ id < p.rows.length, p.find? (p.relativePath id) = some id) :=
  ⟨fun _ _ found => relativePath_of_find? found,
    fun dotless distinct _ inside => find?_relativePath_of_distinct dotless distinct inside⟩

/-- An offer for two items, one of them with a link. -/
def offerPlan : Plan :=
  .node ⟨"offer", ⟨.struct, false⟩, [], {}, {}, false, false, false, false, false⟩
    [.node ⟨"first", ⟨.struct, false⟩, [], {}, {}, false, false, false, false, false⟩ [linkPlan],
     .node ⟨"second", ⟨.string, false⟩, [], {}, {}, false, false, false, false, false⟩ []]

theorem find?_relativePath_offer :
    (∀ row ∈ offerPlan.rows, '.' ∉ row.field.title.toList) ∧
    (∀ row ∈ offerPlan.rows, (row.children.map (titleIn offerPlan.rows)).Nodup) ∧
    offerPlan.relativePath 3 = "offer.first.link.href" ∧
    offerPlan.find? "offer.first.link.href" = some 3 ∧ offerPlan.find? "first.link" = none := by
  obtain ⟨-, back⟩ := find?_relativePath offerPlan
  have dotless : ∀ row ∈ offerPlan.rows, '.' ∉ row.field.title.toList := by decide
  have distinct : ∀ row ∈ offerPlan.rows, (row.children.map (titleIn offerPlan.rows)).Nodup := by
    decide
  have path : offerPlan.relativePath 3 = "offer.first.link.href" := by decide
  exact ⟨dotless, distinct, path, path ▸ back dotless distinct 3 (by decide), by cbv⟩

/-! ## The same path in a definition -/

/-- The first of some siblings with a title has the number of the first plan with this title. -/
theorem idTitled?_siblingIds {start : Nat} {ps : List Plan}
    (titled : ∀ k c, ps[k]? = some c → titleIn rows (numberOf start ps k) = some c.title) :
    idTitled? rows title (siblingIds start ps) =
      (ps.findIdx? fun c => c.title == title).map (numberOf start ps) := by
  induction ps generalizing start with
  | nil => rfl
  | cons p ps ih =>
      have first : titleIn rows start = some p.title := titled 0 p rfl
      have later := ih fun k c beside => by
        rw [← numberOf_cons_succ]
        exact titled (k + 1) c beside
      rw [idTitled?] at later
      rw [idTitled?, siblingIds, List.find?_cons, List.findIdx?_cons, later]
      rw [titleIn] at first
      rw [first, Option.some_beq_some]
      cases p.title == title with
      | true => rfl
      | false =>
          simp only [Bool.false_eq_true, if_false, Option.map_map]
          exact congrArg (Option.map · _) (funext fun k => numberOf_cons_succ.symm)

/-- A step in a definition goes to the first field with the title, and so does one in its table. -/
theorem idTitled?_placed (numbered : p.Numbered id q) (placed : Placed f id q address g) :
    idTitled? p.rows title ((p.rows[id]?.map Row.children).getD []) =
      (g.fields.findIdx? fun h => h.title == title).map (numberOf (id + 1) q.children) := by
  obtain ⟨parent, found⟩ := numbered.getElem?_rows
  have titled (k : Nat) (c : Plan) (below : q.children[k]? = some c) :
      titleIn p.rows (numberOf (id + 1) q.children k) = some c.title := by
    obtain ⟨parent, found⟩ := (Numbered.child numbered below).getElem?_rows
    rw [titleIn, found]
    rfl
  have mapped := congrArg (List.findIdx? (· == title)) (map_title_of_compile placed.compiled)
  rw [List.findIdx?_map, List.findIdx?_map] at mapped
  rw [found, Option.map_some, Option.getD_some, idTitled?_siblingIds titled]
  exact congrArg (Option.map _) mapped

/-- Titles lead from a field to others in the table as they do in the definition. -/
theorem rel_descend? (numbered : p.Numbered id q) (placed : Placed f id q address g)
    (titles : List String) :
    Option.Rel (fun rest k => f.addresses[k]? = some (address ++ rest)) (g.lead? titles)
      (descend? p.rows titles id) := by
  induction titles generalizing id q address g with
  | nil => exact .some (by rw [List.append_nil]; exact placed.getElem?_addresses)
  | cons title titles ih =>
      rw [Field.lead?, descend?_cons, idTitled?_placed numbered placed]
      cases first : g.fields.findIdx? fun h => h.title == title with
      | none => exact .none
      | some k =>
          obtain ⟨inside, -⟩ := List.findIdx?_eq_some_iff_getElem.mp first
          have length := (compile_eq_ok_iff.mp placed.compiled).2.length_eq
          obtain ⟨c, below⟩ : ∃ c, q.children[k]? = some c :=
            ⟨_, List.getElem?_eq_getElem (length ▸ inside)⟩
          obtain ⟨h, beside, placed'⟩ := placed.below below
          have further := ih (.child numbered below) placed'
          rw [Option.bind_some, beside, Option.bind_some, Option.map_some, Option.bind_some]
          generalize descend? p.rows titles (numberOf (id + 1) q.children k) = reached at further ⊢
          generalize h.lead? titles = led at further ⊢
          cases further with
          | none => exact .none
          | some numbered => exact .some (by simpa using numbered)

/-- Below the root, a path is followed from the root. -/
theorem find?_append (dotless : '.' ∉ p.title.toList) :
    p.find? (p.title ++ "." ++ path) = descend? p.rows (Text.splitAt '.' path) 0 := by
  have split : Text.splitAt '.' (p.title ++ String.singleton '.' ++ path) =
      Text.splitAt '.' p.title ++ Text.splitAt '.' path := Text.splitAt_append
  have pieces : Text.splitAt '.' (p.title ++ "." ++ path) = p.title :: Text.splitAt '.' path := by
    rwa [Text.splitAt_of_not_mem dotless] at split
  rw [find?_eq, pieces]
  exact if_pos rfl

/-- In the table of a definition without a dot in its title, a path below the definition leads to a
field if and only if it does so in the definition, and to the very same field: it has the number of
the address that the titles lead to.  So whatever else is written in the fields, what is found in
the definition is the field with this number in the list of all fields. -/
theorem find?_below (f : Field) (p : Plan) (path : String) (compiled : compile f = .ok p)
    (dotless : '.' ∉ f.title.toList) :
    ((p.find? (f.title ++ "." ++ path)).isSome ↔ (f.find? path).isSome) ∧
    ∀ id, p.find? (f.title ++ "." ++ path) = some id →
      (∃ address, f.lead? (Text.splitAt '.' path) = some address ∧
        f.find? path = f.at? address ∧ f.addresses[id]? = some address) ∧
      ∀ g, f.SameTitles g → g.find? path = g.flatten[id]? := by
  have title : f.title = p.title := (compile_eq_ok_iff.mp compiled).1.title.symm
  have root : Placed f 0 p [] f := ⟨compiled, rfl, by simp⟩
  have reached := rel_descend? .root root (Text.splitAt '.' path)
  have below (g : Field) : g.find? path =
      (g.lead? (Text.splitAt '.' path)).bind fun address => g.at? address :=
    Field.descend?_eq _ g
  rw [title, find?_append (title ▸ dotless), below]
  generalize descend? p.rows (Text.splitAt '.' path) 0 = found at reached
  cases led : f.lead? (Text.splitAt '.' path) with
  | none =>
      rw [led] at reached
      cases reached
      simp
  | some address =>
      rw [led] at reached
      obtain @⟨_, id, numbered⟩ := reached
      rw [List.nil_append] at numbered
      have present : (f.at? address).isSome :=
        Field.mem_addresses_iff.mp (List.mem_of_getElem? numbered)
      refine ⟨by simp [present], ?_⟩
      rintro _ ⟨⟩
      refine ⟨⟨address, rfl, rfl, numbered⟩, fun g same => ?_⟩
      rw [below, ← same.lead?_eq, led, Option.bind_some]
      rw [same.addresses_eq] at numbered
      exact (Field.getElem?_flatten numbered).symm

theorem find?_below_item :
    compile itemField = .ok itemPlan ∧ '.' ∉ itemField.title.toList ∧
    (itemPlan.find? (itemField.title ++ "." ++ "link.text")).isSome = false ∧
    itemPlan.find? (itemField.title ++ "." ++ "link.href") = some 2 ∧
    itemField.addresses[2]? = some [0, 0] ∧
    itemField.find? "link.href" = itemField.flatten[2]? := by
  have dotless : '.' ∉ itemField.title.toList := by decide
  obtain ⟨unfound, -⟩ := find?_below itemField itemPlan "link.text" compile_itemField dotless
  obtain ⟨-, agree⟩ := find?_below itemField itemPlan "link.href" compile_itemField dotless
  have none : (itemField.find? "link.text").isSome = false := by cbv
  have found : itemPlan.find? (itemField.title ++ "." ++ "link.href") = some 2 := by cbv
  obtain ⟨⟨address, led, -, numbered⟩, everywhere⟩ := agree 2 found
  have way : itemField.lead? (Text.splitAt '.' "link.href") = some [0, 0] := by cbv
  obtain rfl : [0, 0] = address := Option.some.inj (way.symm.trans led)
  exact ⟨compile_itemField, dotless, Bool.eq_false_iff.mpr fun known => by
    simp [unfound.mp known] at none, found, numbered, everywhere _ (.refl _)⟩

end Harvest.Plan
