import Mathlib
import Harvest.Proofs.Plan.Compilation

/-!
# Addresses in definitions

A field of a definition is known by its address: which field to go on with, at each field on the way
down to it.  Two fields may be written alike, but they never have the same address.  In the list of
all fields each stands before those below it, so the addresses are listed in lexicographic order,
and the number of a field is the place of its address in this list.
-/

namespace Harvest.Definition.Field

variable {f g h : Field} {fs : List Field} {address rest : List Nat} {id k : Nat}

/-- The field at an address. -/
def at? : List Nat → Field → Option Field
  | [], f => some f
  | k :: rest, f => f.fields[k]?.bind (at? rest)

mutual

/-- The addresses of a field and of all fields below it, each before those below it. -/
def addresses : Field → List (List Nat)
  | ⟨_, _, _, _, _, _, _, _, _, _, fields⟩ => [] :: addressesFrom 0 fields

/-- The addresses of fields beside each other and of those below them, if `k` others come first. -/
def addressesFrom (k : Nat) : List Field → List (List Nat)
  | [] => []
  | f :: fs => f.addresses.map (k :: ·) ++ addressesFrom (k + 1) fs

end

theorem addresses_eq (f : Field) : f.addresses = [] :: addressesFrom 0 f.fields := by
  cases f
  rfl

theorem at?_append : f.at? (address ++ rest) = (f.at? address).bind (at? rest) := by
  induction address generalizing f with
  | nil => rfl
  | cons k address ih =>
      rw [List.cons_append, at?, at?, Option.bind_assoc]
      exact congrArg (f.fields[k]?.bind ·) (funext fun _ => ih)

/-! ## The list of addresses -/

theorem mem_addressesFrom : address ∈ addressesFrom k fs ↔
    ∃ j rest, address = (k + j) :: rest ∧ ∃ g, fs[j]? = some g ∧ rest ∈ g.addresses := by
  induction fs generalizing k with
  | nil => simp [addressesFrom]
  | cons f fs ih =>
      rw [addressesFrom, List.mem_append, List.mem_map, ih]
      constructor
      · rintro (⟨rest, inside, rfl⟩ | ⟨j, rest, rfl, g, beside, inside⟩)
        · exact ⟨0, rest, rfl, f, rfl, inside⟩
        · exact ⟨j + 1, rest, by rw [Nat.add_right_comm]; rfl, g, by simpa using beside, inside⟩
      · rintro ⟨j, rest, rfl, g, beside, inside⟩
        cases j with
        | zero =>
            obtain rfl : f = g := by simpa using beside
            exact .inl ⟨rest, inside, rfl⟩
        | succ j =>
            exact .inr ⟨j, rest, by rw [Nat.add_right_comm]; rfl, g, by simpa using beside, inside⟩

/-- The addresses listed are those at which there is a field. -/
theorem mem_addresses_iff : address ∈ f.addresses ↔ (f.at? address).isSome := by
  induction address generalizing f with
  | nil => simp [addresses_eq, at?]
  | cons k address ih =>
      rw [addresses_eq, List.mem_cons, mem_addressesFrom, at?]
      cases beside : f.fields[k]? with
      | none =>
          simp only [reduceCtorEq, false_or, List.cons.injEq, Nat.zero_add, Option.bind_none,
            Option.isSome_none, Bool.false_eq_true, iff_false]
          rintro ⟨j, rest, ⟨rfl, rfl⟩, g, own, -⟩
          simp [own] at beside
      | some g =>
          rw [Option.bind_some, ← ih]
          constructor
          · rintro (impossible | ⟨j, rest, same, h, own, inside⟩)
            · cases impossible
            · obtain ⟨rfl, rfl⟩ : k = j ∧ address = rest := by simpa using same
              obtain rfl : g = h := Option.some.inj (beside.symm.trans own)
              exact inside
          · exact fun inside => .inr ⟨k, address, by rw [Nat.zero_add], g, beside, inside⟩

/-- The addresses are listed in lexicographic order, each of them once. -/
theorem pairwise_addresses (f : Field) : f.addresses.Pairwise (· < ·) := by
  induction f using inductionOn with
  | field f ih =>
      have siblings (k : Nat) (fs : List Field) (each : ∀ g ∈ fs, g.addresses.Pairwise (· < ·)) :
          (addressesFrom k fs).Pairwise (· < ·) := by
        induction fs generalizing k with
        | nil => exact .nil
        | cons g fs below =>
            rw [addressesFrom, List.pairwise_append]
            refine ⟨?_, below (k + 1) fun h member => each h (.tail g member), ?_⟩
            · exact List.pairwise_map.mpr
                ((each g (.head fs)).imp fun less => List.cons_lt_cons_iff.mpr (.inr ⟨rfl, less⟩))
            · intro first member second later
              obtain ⟨rest, -, rfl⟩ := List.mem_map.mp member
              obtain ⟨j, rest', rfl, -⟩ := mem_addressesFrom.mp later
              exact List.cons_lt_cons_iff.mpr (.inl (by omega))
      rw [addresses_eq, List.pairwise_cons]
      refine ⟨fun address below => ?_, siblings 0 f.fields ih⟩
      obtain ⟨j, rest, rfl, -⟩ := mem_addressesFrom.mp below
      exact List.nil_lt_cons _ _

/-- An address has one number only. -/
theorem eq_of_getElem?_addresses (numbered : f.addresses[id]? = some address)
    (numbered' : f.addresses[k]? = some address) : id = k :=
  (List.getElem?_inj (List.getElem?_eq_some_iff.mp numbered).1 f.pairwise_addresses.nodup).mp
    (numbered.trans numbered'.symm)

theorem getElem?_addresses_zero (f : Field) : f.addresses[0]? = some [] := by
  rw [addresses_eq]
  rfl

/-- The fields listed are those at the addresses listed, in the same order. -/
theorem forall₂_addresses (f : Field) :
    List.Forall₂ (fun address g => f.at? address = some g) f.addresses f.flatten := by
  induction f using inductionOn with
  | field f ih =>
      have siblings (before fs : List Field) (split : before ++ fs = f.fields) :
          List.Forall₂ (fun address g => f.at? address = some g)
            (addressesFrom before.length fs) (flattenAll fs) := by
        induction fs generalizing before with
        | nil => exact .nil
        | cons g fs below =>
            have beside : f.fields[before.length]? = some g := by simp [← split]
            have later := below (before ++ [g]) (by simpa using split)
            rw [List.length_append, List.length_singleton] at later
            rw [addressesFrom, flattenAll]
            refine List.rel_append (List.forall₂_map_left_iff.mpr ?_) later
            refine (ih g (List.mem_of_getElem? beside)).imp fun rest h own => ?_
            rw [at?, beside, Option.bind_some, own]
      rw [addresses_eq, flatten_eq]
      exact .cons rfl (siblings [] f.fields rfl)

theorem length_addresses (f : Field) : f.addresses.length = f.flatten.length :=
  f.forall₂_addresses.length_eq

/-- The field with a number is that at the address with this number. -/
theorem getElem?_flatten (numbered : f.addresses[id]? = some address) :
    f.flatten[id]? = f.at? address := by
  obtain ⟨inside, own⟩ := List.getElem?_eq_some_iff.mp numbered
  have inside' : id < f.flatten.length := f.length_addresses ▸ inside
  have found := f.forall₂_addresses.get inside inside'
  rw [List.get_eq_getElem, List.get_eq_getElem, own] at found
  rw [found, List.getElem?_eq_getElem inside']

/-! ## The titles on the way -/

/-- The titles of the fields on the way down to an address, that at the address included. -/
def titlesTo (address : List Nat) (f : Field) : List String :=
  address.inits.filterMap fun above => (f.at? above).map fun g => g.title

theorem titlesTo_nil (f : Field) : f.titlesTo [] = [f.title] := rfl

theorem titlesTo_concat (found : f.at? (address ++ [k]) = some g) :
    f.titlesTo (address ++ [k]) = f.titlesTo address ++ [g.title] := by
  have inits : (address ++ [k]).inits = address.inits ++ [address ++ [k]] := by
    simp [List.inits_append]
  rw [titlesTo, inits, List.filterMap_append, titlesTo]
  simp [found]

/-! ## Fields by their titles -/

/-- The address that a list of titles leads to: at each step the first field with the title. -/
def lead? : List String → Field → Option (List Nat)
  | [], _ => some []
  | title :: titles, f =>
      (f.fields.findIdx? fun g => g.title == title).bind fun k =>
        (f.fields[k]?.bind (lead? titles)).map (k :: ·)

/-- The field that titles lead to is that at the address that they lead to. -/
theorem descend?_eq (titles : List String) (f : Field) :
    descend? titles f = (lead? titles f).bind fun address => f.at? address := by
  induction titles generalizing f with
  | nil => rfl
  | cons title titles ih =>
      rw [descend?, lead?, child?]
      cases first : f.fields.findIdx? (fun g => g.title == title) with
      | none =>
          rw [List.find?_eq_none.mpr (by simpa using List.findIdx?_eq_none_iff.mp first)]
          rfl
      | some k =>
          obtain ⟨inside, own, others⟩ := List.findIdx?_eq_some_iff_getElem.mp first
          have found : f.fields.find? (fun g => g.title == title) = some f.fields[k] :=
            List.find?_eq_some_iff_getElem.mpr ⟨own, k, inside, rfl, by simpa using others⟩
          rw [found, Option.bind_some, Option.bind_some, List.getElem?_eq_getElem inside,
            Option.bind_some, ih, Option.bind_map]
          refine congrArg _ (funext fun address => ?_)
          rw [Function.comp_apply, at?, List.getElem?_eq_getElem inside, Option.bind_some]

/-- Whether two definitions have the same titles in the same places, whatever else they say. -/
inductive SameTitles : Field → Field → Prop where
  | field {f g : Field} (title : f.title = g.title)
      (below : List.Forall₂ SameTitles f.fields g.fields) : SameTitles f g

theorem SameTitles.refl (f : Field) : f.SameTitles f := by
  induction f using inductionOn with
  | field f ih => exact .field rfl (List.forall₂_same.mpr ih)

theorem SameTitles.addresses_eq (same : f.SameTitles g) : f.addresses = g.addresses := by
  induction f using inductionOn generalizing g with
  | field f ih =>
      obtain ⟨-, below⟩ := same
      have siblings (k : Nat) (fs gs : List Field) (each : ∀ h ∈ fs, h ∈ f.fields)
          (below : List.Forall₂ SameTitles fs gs) : addressesFrom k fs = addressesFrom k gs := by
        induction below generalizing k with
        | nil => rfl
        | @cons h h' fs gs own _ rest =>
            rw [addressesFrom, addressesFrom, ih h (each h (.head fs)) own,
              rest (k + 1) fun other member => each other (.tail h member)]
      rw [Field.addresses_eq, Field.addresses_eq,
        siblings 0 f.fields g.fields (fun _ member => member) below]

/-- Titles lead to the same address wherever the titles are the same. -/
theorem SameTitles.lead?_eq (same : f.SameTitles g) (titles : List String) :
    lead? titles f = lead? titles g := by
  induction titles generalizing f g with
  | nil => rfl
  | cons title titles ih =>
      obtain ⟨-, below⟩ := same
      have listed : f.fields.map (fun h => h.title) = g.fields.map fun h => h.title := by
        rw [← List.forall₂_eq_eq_eq, List.forall₂_map_left_iff, List.forall₂_map_right_iff]
        exact below.imp fun _ _ same => by cases same; assumption
      have first : f.fields.findIdx? (fun h => h.title == title) =
          g.fields.findIdx? fun h => h.title == title := by
        have mapped := congrArg (List.findIdx? (· == title)) listed
        simpa only [List.findIdx?_map, Function.comp_def] using mapped
      rw [lead?, lead?, first]
      refine congrArg _ (funext fun k => ?_)
      cases own : f.fields[k]? with
      | none =>
          have outside : g.fields[k]? = none := by
            rw [List.getElem?_eq_none_iff, ← below.length_eq, ← List.getElem?_eq_none_iff, own]
          rw [outside]
      | some h =>
          obtain ⟨inside, rfl⟩ := List.getElem?_eq_some_iff.mp own
          have inside' : k < g.fields.length := below.length_eq ▸ inside
          have same : f.fields[k].SameTitles g.fields[k] := below.get inside inside'
          rw [List.getElem?_eq_getElem inside', Option.bind_some, Option.bind_some, ih same]

end Harvest.Definition.Field
