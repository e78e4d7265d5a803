import Mathlib
import Harvest.Json.Reader

/-!
# Reading JSON that was written

The compact text of a value without numbers is read as the same value.  Such a text ends where its
value ends, whatever stands behind it, so the parts of a value are read one after the other as they
were written; the bound on the steps of reading is never reached, since twice as many are allowed as
there are characters.
-/

namespace Harvest.Json

mutual

/-- Whether there is no number in a value, and each string in it stands for a text. -/
def IsTextual : Json → Prop
  | null => True
  | bool _ => True
  | int _ => False
  | float _ => False
  | text _ => True
  | array items => TextualItems items
  | object members => TextualMembers members
  | unpaired => False

def TextualItems : List Json → Prop
  | [] => True
  | v :: vs => v.IsTextual ∧ TextualItems vs

def TextualMembers : List (String × Json) → Prop
  | [] => True
  | (_, v) :: ms => v.IsTextual ∧ TextualMembers ms

end

/-! ## Strings -/

theorem hex4?_low {n : Nat} (low : n < 0x20) :
    hex4? '0' '0' (Nat.digitChar (n / 16)) (Nat.digitChar (n % 16)) = some n := by
  revert n
  decide

/-- What stands for a character inside a string is read as this character. -/
theorem string?_escape (c : Char) (read cs : List Char) :
    string? read true none (escape c ++ cs) = string? (c :: read) true none cs := by
  unfold escape
  split
  · rfl
  · rfl
  · rfl
  · rfl
  · rfl
  · rfl
  · rfl
  · next quote backslash _ _ _ _ _ =>
      split
      · next low =>
          have hex := hex4?_low low
          have high : isHighSurrogate c.toNat = false := by simp [isHighSurrogate]; omega
          have second : isLowSurrogate c.toNat = false := by simp [isLowSurrogate]; omega
          simp [string?, hex, high, second]
      · next visible =>
          have plain : ¬(decide (c.toNat < 0x20) || c == '\\') = true := by
            simpa [visible] using backslash
          rw [List.singleton_append, string?, if_neg plain]
          · rfl
          · exact quote
          · rintro _ _ _ _ _ rfl
            exact absurd rfl backslash
          · rintro _ _ rfl
            exact absurd rfl backslash

theorem string?_quoted (s read rest : List Char) :
    string? read true none (s.flatMap escape ++ '"' :: rest) =
      some (some (String.ofList (read.reverse ++ s)), rest) := by
  induction s generalizing read with
  | nil => simp [string?]
  | cons c s ih =>
      rw [List.flatMap_cons, List.append_assoc, string?_escape, ih]
      simp

/-- A quoted text is read back from behind its first quote. -/
theorem string?_behind_quote (s : String) (rest : List Char) :
    string? [] true none (s.toList.flatMap escape ++ '"' :: rest) = some (some s, rest) := by
  rw [string?_quoted]
  simp

theorem quoted_append (s : String) (rest : List Char) :
    quoted s ++ rest = '"' :: (s.toList.flatMap escape ++ '"' :: rest) := by
  simp [quoted]

/-! ## Values -/

/-- Whether the text of a value is read as this value, whatever stands behind it. -/
def ReadsBack (v : Json) : Prop :=
  ∀ fuel rest, 2 * v.chars.length ≤ fuel → value? fuel (v.chars ++ rest) = some (v, rest)

/-- The text of a value begins with no blank and with nothing that closes an array. -/
theorem exists_chars_eq_cons {v : Json} (textual : v.IsTextual) :
    ∃ c cs, v.chars = c :: cs ∧ (∀ rest, skipBlank (c :: rest) = c :: rest) ∧ c ≠ ']' := by
  cases v with
  | null => exact ⟨'n', _, rfl, fun _ => rfl, by decide⟩
  | bool b =>
      cases b with
      | true => exact ⟨'t', _, rfl, fun _ => rfl, by decide⟩
      | false => exact ⟨'f', _, rfl, fun _ => rfl, by decide⟩
  | text s => exact ⟨'"', _, rfl, fun _ => rfl, by decide⟩
  | array items => exact ⟨'[', _, rfl, fun _ => rfl, by decide⟩
  | object members => exact ⟨'\x7b', _, rfl, fun _ => rfl, by decide⟩
  | int n => cases textual
  | float x => cases textual
  | unpaired => cases textual

/-- The first step of reading is always allowed. -/
theorem readsBack_of_succ {v : Json} (filled : v.chars ≠ [])
    (reads : ∀ fuel rest, 2 * v.chars.length ≤ fuel + 1 →
      value? (fuel + 1) (v.chars ++ rest) = some (v, rest)) : ReadsBack v := by
  intro fuel rest enough
  have length : 0 < v.chars.length := List.length_pos_iff.mpr filled
  obtain ⟨fuel, rfl⟩ : ∃ f, fuel = f + 1 := ⟨fuel - 1, by omega⟩
  exact reads fuel rest enough

theorem readsBack_text (s : String) : ReadsBack (text s) := by
  refine readsBack_of_succ (by simp [chars, quoted]) fun fuel rest _ => ?_
  rw [chars, quoted_append, value?]
  simp [skipBlank, string?_behind_quote]

theorem items?_itemChars {vs : List Json} (filled : vs ≠ []) (all : ∀ v ∈ vs, v.ReadsBack)
    (read : List Json) (rest : List Char) (fuel : Nat)
    (enough : 2 * (itemChars vs).length + 1 ≤ fuel) :
    items? fuel read (itemChars vs ++ ']' :: rest) = some (array (read.reverse ++ vs), rest) := by
  induction vs generalizing read fuel with
  | nil => exact absurd rfl filled
  | cons v vs ih =>
      obtain ⟨here, later⟩ := List.forall_mem_cons.mp all
      obtain ⟨fuel, rfl⟩ : ∃ f, fuel = f + 1 := ⟨fuel - 1, by omega⟩
      cases vs with
      | nil =>
          rw [itemChars] at enough ⊢
          rw [items?, here fuel _ (by omega)]
          simp [skipBlank]
      | cons w vs =>
          rw [itemChars, List.length_append, List.length_cons] at enough
          rw [itemChars, List.append_assoc, List.cons_append, items?, here fuel _ (by omega)]
          have others := ih (by simp) later (v :: read) fuel (by omega)
          simp [skipBlank, others]

theorem members?_memberChars {ms : List (String × Json)} (filled : ms ≠ [])
    (all : ∀ m ∈ ms, m.2.ReadsBack) (read : List (String × Json)) (rest : List Char) (fuel : Nat)
    (enough : 2 * (memberChars ms).length + 1 ≤ fuel) :
    members? fuel read true (memberChars ms ++ '\x7d' :: rest) =
      some (object (read.reverse ++ ms), rest) := by
  induction ms generalizing read fuel with
  | nil => exact absurd rfl filled
  | cons m ms ih =>
      obtain ⟨name, v⟩ := m
      obtain ⟨here, later⟩ := List.forall_mem_cons.mp all
      obtain ⟨fuel, rfl⟩ : ∃ f, fuel = f + 1 := ⟨fuel - 1, by omega⟩
      cases ms with
      | nil =>
          rw [memberChars, List.length_append, List.length_cons] at enough
          have value := here fuel ('\x7d' :: rest) (by dsimp only; omega)
          rw [memberChars, List.append_assoc, quoted_append, List.cons_append, members?]
          simp [skipBlank, string?_behind_quote, value]
      | cons n ms =>
          simp only [memberChars, List.length_append, List.length_cons] at enough
          have value := here fuel (',' :: (memberChars (n :: ms) ++ '\x7d' :: rest))
            (by dsimp only; omega)
          have others := ih (by simp) later ((name, v) :: read) fuel (by omega)
          rw [memberChars, List.append_assoc, List.append_assoc, quoted_append, List.cons_append,
            List.cons_append, members?]
          simp [skipBlank, string?_behind_quote, value, others]

theorem value?_bracket (fuel : Nat) {c : Char} {cs : List Char}
    (unblank : skipBlank (c :: cs) = c :: cs) (opens : c ≠ ']') :
    value? (fuel + 1) ('[' :: c :: cs) = items? fuel [] (c :: cs) := by
  have visible : skipBlank ('[' :: c :: cs) = '[' :: c :: cs := rfl
  simp [value?, visible, unblank, opens]

theorem readsBack_array {vs : List Json} (textual : TextualItems vs)
    (all : ∀ v ∈ vs, v.ReadsBack) : ReadsBack (array vs) := by
  refine readsBack_of_succ (by simp [chars]) fun fuel rest enough => ?_
  rw [chars, List.length_append, List.length_cons, List.length_singleton] at enough
  rw [chars, List.append_assoc, List.cons_append]
  cases vs with
  | nil => rfl
  | cons v vs =>
      obtain ⟨c, cs, first, unblank, opens⟩ := exists_chars_eq_cons textual.1
      obtain ⟨tail, front⟩ : ∃ tail, itemChars (v :: vs) = c :: tail := by
        cases vs <;> simp [itemChars, first]
      have items := items?_itemChars (by simp) all [] rest fuel (by omega)
      rw [front, List.cons_append] at items ⊢
      rw [value?_bracket fuel (unblank _) opens]
      exact items

theorem readsBack_object {ms : List (String × Json)} (all : ∀ m ∈ ms, m.2.ReadsBack) :
    ReadsBack (object ms) := by
  refine readsBack_of_succ (by simp [chars]) fun fuel rest enough => ?_
  rw [chars, List.length_append, List.length_cons, List.length_singleton] at enough
  rw [chars, List.append_assoc, List.cons_append]
  cases ms with
  | nil => rfl
  | cons m ms =>
      obtain ⟨tail, front⟩ : ∃ tail, memberChars (m :: ms) = '"' :: tail := by
        cases ms <;> simp [memberChars, quoted]
      have members := members?_memberChars (by simp) all [] rest fuel (by omega)
      rw [front] at members ⊢
      exact members

mutual

theorem readsBack : ∀ {v : Json}, v.IsTextual → v.ReadsBack
  | null, _ => readsBack_of_succ (by simp [chars]) fun _ _ _ => rfl
  | bool true, _ => readsBack_of_succ (by simp [chars]) fun _ _ _ => rfl
  | bool false, _ => readsBack_of_succ (by simp [chars]) fun _ _ _ => rfl
  | text s, _ => readsBack_text s
  | array _, textual => readsBack_array textual (readsBack_items textual)
  | object _, textual => readsBack_object (readsBack_members textual)

theorem readsBack_items : ∀ {vs : List Json}, TextualItems vs → ∀ v ∈ vs, v.ReadsBack
  | [], _ => nofun
  | _ :: _, textual =>
      List.forall_mem_cons.mpr ⟨readsBack textual.1, readsBack_items textual.2⟩

theorem readsBack_members : ∀ {ms : List (String × Json)}, TextualMembers ms →
    ∀ m ∈ ms, m.2.ReadsBack
  | [], _ => nofun
  | (_, _) :: _, textual =>
      List.forall_mem_cons.mpr ⟨readsBack textual.1, readsBack_members textual.2⟩

end

/-- The text of a value without numbers holds this value and nothing else. -/
theorem parse?_compact {v : Json} (textual : v.IsTextual) : parse? v.compact = some v := by
  have whole := readsBack textual (2 * v.chars.length + 2) [] (by omega)
  rw [List.append_nil] at whole
  rw [parse?, compact, String.toList_ofList, whole]
  rfl

end Harvest.Json
