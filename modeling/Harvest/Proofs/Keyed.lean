import Mathlib
import Harvest.Datum
import Harvest.Directory

/-!
# Lists in the order of their keys

Mappings of data and directories are lists of entries, sorted by key.  Both put a new entry into its
place in the same way, so what holds of this insertion is proved once here: it changes what is found
under one key only, and it keeps the order, in which each key stands once.
-/

namespace Harvest.Keyed

variable {β : Type} {key other : String} {value : β} {entries : List (String × β)}

/-- Whether the keys are in strictly increasing order. -/
def Sorted (entries : List (String × β)) : Prop := (entries.map Prod.fst).Pairwise (· < ·)

theorem sorted_nil : Sorted ([] : List (String × β)) := .nil

theorem sorted_cons {entry : String × β} :
    Sorted (entry :: entries) ↔ (∀ k ∈ entries.map Prod.fst, entry.1 < k) ∧ Sorted entries :=
  List.pairwise_cons

/-- The entries with `key` set to `value`, in its place in the order of keys. -/
def insert (key : String) (value : β) : List (String × β) → List (String × β)
  | [] => [(key, value)]
  | (k, v) :: entries =>
      if key < k then (key, value) :: (k, v) :: entries
      else if k < key then (k, v) :: insert key value entries
      else (key, value) :: entries

theorem lookup_cons : ((key, value) :: entries).lookup other =
    if other = key then some value else entries.lookup other := by
  rw [List.lookup_cons]
  by_cases same : other = key
  · simp [same]
  · simp [same, beq_false_of_ne same]

/-- Insertion changes what is found under its key and nothing else. -/
theorem lookup_insert :
    (insert key value entries).lookup other =
      if other = key then some value else entries.lookup other := by
  induction entries with
  | nil => exact lookup_cons
  | cons entry entries ih =>
      obtain ⟨k, v⟩ := entry
      rw [insert]
      split
      · exact lookup_cons
      · split
        · next later =>
            rw [lookup_cons, ih, lookup_cons]
            by_cases here : other = k
            · subst here
              simp [later.ne]
            · simp [here]
        · next notBefore notAfter =>
            obtain rfl : key = k := le_antisymm (not_lt.mp notAfter) (not_lt.mp notBefore)
            simp only [lookup_cons]
            by_cases same : other = key
            · simp [same]
            · simp [same]

theorem mem_of_mem_insert {entry : String × β} (member : entry ∈ insert key value entries) :
    entry = (key, value) ∨ entry ∈ entries := by
  induction entries with
  | nil => exact .inl (List.mem_singleton.mp member)
  | cons first entries ih =>
      obtain ⟨k, v⟩ := first
      rw [insert] at member
      split at member
      · exact List.mem_cons.mp member
      · split at member
        · rcases List.mem_cons.mp member with rfl | later
          · exact .inr (.head entries)
          · exact (ih later).imp_right (.tail _)
        · exact (List.mem_cons.mp member).imp_right (.tail _)

theorem mem_keys_insert :
    other ∈ (insert key value entries).map Prod.fst ↔
      other = key ∨ other ∈ entries.map Prod.fst := by
  induction entries with
  | nil => simp [insert]
  | cons first entries ih =>
      obtain ⟨k, v⟩ := first
      rw [insert]
      split
      · simp
      · split
        · rw [List.map_cons, List.mem_cons, ih, List.map_cons, List.mem_cons]
          exact or_left_comm
        · next notBefore notAfter =>
            obtain rfl : key = k := le_antisymm (not_lt.mp notAfter) (not_lt.mp notBefore)
            simp

theorem sorted_insert (sorted : Sorted entries) : Sorted (insert key value entries) := by
  induction entries with
  | nil => exact List.pairwise_singleton _ key
  | cons first entries ih =>
      obtain ⟨k, v⟩ := first
      obtain ⟨least, rest⟩ := sorted_cons.mp sorted
      rw [insert]
      split
      · next before =>
          refine sorted_cons.mpr ⟨fun l member => ?_, sorted⟩
          rcases List.mem_cons.mp member with rfl | later
          · exact before
          · exact before.trans (least l later)
      · split
        · next after =>
            refine sorted_cons.mpr ⟨fun l member => ?_, ih rest⟩
            rcases mem_keys_insert.mp member with rfl | later
            · exact after
            · exact least l later
        · next notBefore notAfter =>
            obtain rfl : key = k := le_antisymm (not_lt.mp notAfter) (not_lt.mp notBefore)
            exact sorted_cons.mpr ⟨least, rest⟩

/-- Under a new key insertion adds one entry and leaves the others. -/
theorem insert_perm (fresh : key ∉ entries.map Prod.fst) :
    (insert key value entries).Perm ((key, value) :: entries) := by
  induction entries with
  | nil => exact .refl _
  | cons first entries ih =>
      obtain ⟨k, v⟩ := first
      rw [List.map_cons, List.mem_cons, not_or] at fresh
      rw [insert]
      split
      · exact .refl _
      · split
        · exact ((ih fresh.2).cons _).trans (.swap _ _ _)
        · next notBefore notAfter =>
            exact absurd (le_antisymm (not_lt.mp notAfter) (not_lt.mp notBefore)) fresh.1

/-! ## Taking an entry out -/

theorem lookup_erase :
    (entries.filter fun entry => entry.1 ≠ key).lookup other =
      if other = key then none else entries.lookup other := by
  induction entries with
  | nil => simp
  | cons first entries ih =>
      obtain ⟨k, v⟩ := first
      by_cases here : k = key
      · subst here
        rw [List.filter_cons_of_neg (by simp), ih, lookup_cons]
        by_cases same : other = k
        · simp [same]
        · simp [same]
      · rw [List.filter_cons_of_pos (by simpa using here), lookup_cons, ih, lookup_cons]
        by_cases same : other = k
        · subst same
          simp [here]
        · simp [same]

theorem sorted_filter {kept : String × β → Bool} (sorted : Sorted entries) :
    Sorted (entries.filter kept) :=
  List.Pairwise.sublist (List.filter_sublist.map Prod.fst) sorted

/-! ## Members -/

/-- Where each key stands once, under a key stands the one entry with that key. -/
theorem lookup_eq_some_iff_of_nodup (distinct : (entries.map Prod.fst).Nodup) :
    entries.lookup key = some value ↔ (key, value) ∈ entries := by
  induction entries with
  | nil => simp
  | cons first entries ih =>
      obtain ⟨k, v⟩ := first
      obtain ⟨fresh, rest⟩ := List.nodup_cons.mp distinct
      rw [lookup_cons, List.mem_cons]
      by_cases same : key = k
      · subst same
        have absent : (key, value) ∉ entries := fun member =>
          fresh (List.mem_map.mpr ⟨(key, value), member, rfl⟩)
        simp [absent, eq_comm]
      · simp [same, ih rest]

theorem Sorted.nodup (sorted : Sorted entries) : (entries.map Prod.fst).Nodup :=
  List.Pairwise.imp ne_of_lt sorted

/-- Under a key of a sorted list stands the one entry with that key. -/
theorem lookup_eq_some_iff (sorted : Sorted entries) :
    entries.lookup key = some value ↔ (key, value) ∈ entries :=
  lookup_eq_some_iff_of_nodup sorted.nodup

/-! ## Names in order -/

/-- Different names, put in order, are in strictly increasing order. -/
theorem pairwise_mergeSort {names : List String} (distinct : names.Nodup) :
    (names.mergeSort fun a b => decide (a ≤ b)).Pairwise (· < ·) := by
  have permuted := List.mergeSort_perm names fun a b => decide (a ≤ b)
  have ordered := List.pairwise_mergeSort' (· ≤ ·) names
  exact (ordered.and (permuted.nodup_iff.mpr distinct)).imp fun ⟨atMost, different⟩ =>
    lt_of_le_of_ne atMost different

/-! ## Many entries -/

/-- The entries of a list in the order of keys; of two entries with one key the later counts. -/
def ofList (entries : List (String × β)) : List (String × β) :=
  entries.foldl (fun acc (k, v) => insert k v acc) []

theorem ofList_append_singleton {entry : String × β} :
    ofList (entries ++ [entry]) = insert entry.1 entry.2 (ofList entries) := by
  rw [ofList, ofList, List.foldl_append]
  rfl

theorem sorted_ofList : Sorted (ofList entries) := by
  induction entries using List.reverseRecOn with
  | nil => exact sorted_nil
  | append_singleton entries entry ih =>
      rw [ofList_append_singleton]
      exact sorted_insert ih

theorem mem_of_mem_ofList {entry : String × β} (member : entry ∈ ofList entries) :
    entry ∈ entries := by
  induction entries using List.reverseRecOn with
  | nil => exact member
  | append_singleton entries last ih =>
      rw [ofList_append_singleton] at member
      rcases mem_of_mem_insert member with rfl | earlier
      · exact List.mem_append_right entries (.head [])
      · exact List.mem_append_left [last] (ih earlier)

theorem mem_keys_ofList :
    key ∈ (ofList entries).map Prod.fst ↔ key ∈ entries.map Prod.fst := by
  induction entries using List.reverseRecOn with
  | nil => exact Iff.rfl
  | append_singleton entries last ih =>
      rw [ofList_append_singleton, mem_keys_insert, ih, List.map_append, List.mem_append]
      simp [or_comm]

/-- Where each key stands once, putting the entries in order is all that is done to them. -/
theorem ofList_perm (distinct : (entries.map Prod.fst).Nodup) : (ofList entries).Perm entries := by
  induction entries using List.reverseRecOn with
  | nil => exact .nil
  | append_singleton entries last ih =>
      rw [List.map_append, List.nodup_append] at distinct
      obtain ⟨before, -, apart⟩ := distinct
      have fresh : last.1 ∉ (ofList entries).map Prod.fst := fun member =>
        apart last.1 (mem_keys_ofList.mp member) last.1 (by simp) rfl
      rw [ofList_append_singleton]
      exact (insert_perm fresh).trans
        (((ih before).cons last).trans (List.perm_append_singleton last entries).symm)

/-- The order in which entries with different keys come does not matter. -/
theorem ofList_congr {others : List (String × β)} (same : entries.Perm others)
    (distinct : (entries.map Prod.fst).Nodup) : ofList entries = ofList others := by
  have distinct' : (others.map Prod.fst).Nodup := (same.map Prod.fst).nodup_iff.mp distinct
  have sorted {l : List (String × β)} : (ofList l).Pairwise fun a b => a.1 < b.1 :=
    List.pairwise_map.mp sorted_ofList
  refine List.Perm.eq_of_pairwise (fun a b _ _ before after => (before.asymm after).elim)
    sorted sorted ?_
  exact (ofList_perm distinct).trans (same.trans (ofList_perm distinct').symm)

theorem lookup_ofList (distinct : (entries.map Prod.fst).Nodup) :
    (ofList entries).lookup key = entries.lookup key := by
  refine Option.ext fun value => ?_
  rw [lookup_eq_some_iff sorted_ofList, lookup_eq_some_iff_of_nodup distinct,
    (ofList_perm distinct).mem_iff]

/-- Under a key stands the last of the values that the entries with this key have. -/
theorem lookup_ofList_eq_getLast? : (ofList entries).lookup key =
    ((entries.filter fun entry => entry.1 = key).map Prod.snd).getLast? := by
  induction entries using List.reverseRecOn with
  | nil => rfl
  | append_singleton entries last ih =>
      rw [ofList_append_singleton, lookup_insert, ih, List.filter_append, List.map_append]
      by_cases same : last.1 = key
      · simp [same]
      · simp [same, Ne.symm same]

end Harvest.Keyed

namespace Harvest

theorem Datum.insertEntry_eq (key : String) (d : Datum) (entries : List (String × Datum)) :
    Datum.insertEntry key d entries = Keyed.insert key d entries := by
  induction entries with
  | nil => rfl
  | cons first entries ih => rw [Datum.insertEntry, Keyed.insert, ih]

theorem Datum.ofEntries_eq (entries : List (String × Datum)) :
    Datum.ofEntries entries = .map (Keyed.ofList entries) := by
  simp only [Datum.ofEntries, Keyed.ofList, Datum.insertEntry_eq]

theorem Directory.insert_eq {α : Type} (name : String) (entry : Entry α) (d : Directory α) :
    d.insert name entry = Keyed.insert name entry d := by
  induction d with
  | nil => rfl
  | cons first d ih => rw [Directory.insert, Keyed.insert, ih]

end Harvest
