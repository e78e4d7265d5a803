import Mathlib
import Harvest.Proofs.Datum
import Harvest.Proofs.Decimal.Numeral
import Harvest.Proofs.Json.RoundTrip
import Harvest.Proofs.Text.Split

/-!
# Data and their JSON texts

The two encoders of data agree: what is written directly is the compact text of the JSON value.  From
such a text the datum can be told, as long as all numbers in it are finite.  Its first character
tells of which kind a datum is, a whole number is written without a point and an exponent, and the
text of a datum ends where the datum ends, so the data in a list or a mapping are told apart too.
-/

namespace Harvest

/-! ## Texts with commas between them -/

namespace Json

variable {α β : Type}

/-- What is written for some things, with a comma between one and the next. -/
def separated (write : α → List Char) : List α → List Char
  | [] => []
  | a :: as => write a ++ as.flatMap fun b => ',' :: write b

theorem separated_congr {write other : α → List Char} {as : List α}
    (same : ∀ a ∈ as, write a = other a) : separated write as = separated other as := by
  cases as with
  | nil => rfl
  | cons a as =>
      obtain ⟨here, later⟩ := List.forall_mem_cons.mp same
      rw [separated, separated, here]
      exact congrArg (other a ++ ·) (List.flatMap_congr fun b member => by rw [later b member])

theorem separated_map (write : β → List Char) (f : α → β) (as : List α) :
    separated write (as.map f) = separated (fun a => write (f a)) as := by
  cases as with
  | nil => rfl
  | cons a as => rw [List.map_cons, separated, separated, List.flatMap_map]

theorem itemChars_eq (vs : List Json) : itemChars vs = separated chars vs := by
  induction vs with
  | nil => rfl
  | cons v vs ih =>
      cases vs with
      | nil => simp [itemChars, separated]
      | cons w vs =>
          rw [itemChars, ih]
          simp [separated]

/-- The characters of a member of an object. -/
def memberText (write : α → List Char) (member : String × α) : List Char :=
  quoted member.1 ++ ':' :: write member.2

theorem memberChars_eq (ms : List (String × Json)) :
    memberChars ms = separated (memberText chars) ms := by
  induction ms with
  | nil => rfl
  | cons m ms ih =>
      cases ms with
      | nil => simp [memberChars, separated, memberText]
      | cons n ms =>
          rw [memberChars, ih]
          simp [separated, memberText]

/-! ## Texts that tell where they end -/

open Decimal (isNumeric)

/-- Whether what is written for one thing is told from what is written for another, if nothing that
could continue a numeral stands behind them. -/
def Tells (write : α → List Char) (a b : α) : Prop :=
  ∀ c d u v, isNumeric c = false → isNumeric d = false →
    write a ++ c :: u = write b ++ d :: v → a = b ∧ c :: u = d :: v

variable {write : α → List Char} {close : Char} {as bs : List α} {u v : List Char}

theorem exists_more (write : α → List Char) (closing : isNumeric close = false) (as : List α)
    (u : List Char) :
    ∃ c cs, (as.flatMap fun a => ',' :: write a) ++ close :: u = c :: cs ∧
      isNumeric c = false := by
  cases as with
  | nil => exact ⟨close, u, rfl, closing⟩
  | cons a as => exact ⟨',', _, rfl, rfl⟩

theorem more_cancel (closing : isNumeric close = false) (noComma : close ≠ ',')
    (tells : ∀ a ∈ as, ∀ b ∈ bs, Tells write a b)
    (same : (as.flatMap fun a => ',' :: write a) ++ close :: u =
      (bs.flatMap fun b => ',' :: write b) ++ close :: v) : as = bs ∧ u = v := by
  induction as generalizing bs with
  | nil =>
      cases bs with
      | nil => exact ⟨rfl, (List.cons.inj same).2⟩
      | cons b bs => exact absurd (List.cons.inj same).1 noComma
  | cons a as ih =>
      cases bs with
      | nil => exact absurd (List.cons.inj same).1.symm noComma
      | cons b bs =>
          simp only [List.flatMap_cons, List.cons_append, List.append_assoc] at same
          obtain ⟨c, cs, front, stop⟩ := exists_more write closing as u
          obtain ⟨d, ds, front', stop'⟩ := exists_more write closing bs v
          rw [front, front'] at same
          obtain ⟨rfl, behind⟩ := tells a List.mem_cons_self b List.mem_cons_self c d cs ds stop
            stop' (List.cons.inj same).2
          rw [← front, ← front'] at behind
          obtain ⟨rfl, rest⟩ := ih
            (fun x member y member' => tells x (.tail _ member) y (.tail _ member')) behind
          exact ⟨rfl, rest⟩

/-- The things are told from each other, and from none at all if none of them begins with what closes
them. -/
theorem separated_cancel (closing : isNumeric close = false) (noComma : close ≠ ',')
    (tells : ∀ a ∈ as, ∀ b ∈ bs, Tells write a b)
    (starts : ∀ a ∈ as ++ bs, ∃ c cs, write a = c :: cs ∧ c ≠ close)
    (same : separated write as ++ close :: u = separated write bs ++ close :: v) :
    as = bs ∧ u = v := by
  cases as with
  | nil =>
      cases bs with
      | nil => exact ⟨rfl, (List.cons.inj same).2⟩
      | cons b bs =>
          obtain ⟨c, cs, front, other⟩ := starts b (by simp)
          rw [separated, separated, front] at same
          exact absurd (List.cons.inj same).1.symm other
  | cons a as =>
      cases bs with
      | nil =>
          obtain ⟨c, cs, front, other⟩ := starts a (by simp)
          rw [separated, separated, front] at same
          exact absurd (List.cons.inj same).1 other
      | cons b bs =>
          refine more_cancel closing noComma tells ?_
          simpa [separated] using same

/-- A quoted text is told from another, whatever stands behind them. -/
theorem quoted_cancel {s t : String} (same : quoted s ++ u = quoted t ++ v) : s = t ∧ u = v := by
  rw [quoted_append, quoted_append] at same
  have read := string?_behind_quote s u
  rw [(List.cons.inj same).2, string?_behind_quote] at read
  simpa [eq_comm] using read

theorem tells_memberText {m n : String × α} (tells : Tells write m.2 n.2) :
    Tells (memberText write) m n := by
  intro c d u v stop stop' same
  simp only [memberText, List.append_assoc, List.cons_append] at same
  obtain ⟨keys, rest⟩ := quoted_cancel same
  obtain ⟨values, behind⟩ := tells c d u v stop stop' (List.cons.inj rest).2
  exact ⟨Prod.ext keys values, behind⟩

/-! ## Whole numbers -/

theorem integer?_intChars (n : Int) : Decimal.integer? (intChars n) = some n := by
  rw [intChars]
  split
  · next negative => rw [Decimal.integer?_minus, Option.some.injEq]; omega
  · next positive => rw [Decimal.integer?_toDigits, Option.some.injEq]; omega

theorem mem_intChars {n : Int} {c : Char} (member : c ∈ intChars n) :
    c = '-' ∨ c.isDigit = true := by
  rw [intChars] at member
  split at member
  · exact (List.mem_cons.mp member).imp_right (Decimal.isDigit_of_mem_toDigits c)
  · exact .inr (Decimal.isDigit_of_mem_toDigits c member)

end Json

/-! ## Two encoders -/

namespace Datum

theorem itemsToJson_eq (ds : List Datum) : itemsToJson ds = ds.map toJson := by
  induction ds with
  | nil => rfl
  | cons d ds ih => rw [itemsToJson, ih, List.map_cons]

theorem entriesToJson_eq (ms : List (String × Datum)) :
    entriesToJson ms = ms.map fun m => (m.1, m.2.toJson) := by
  induction ms with
  | nil => rfl
  | cons m ms ih => rw [entriesToJson, ih, List.map_cons]

theorem serialMoreItems_eq (ds : List Datum) :
    serialMoreItems ds = ds.flatMap fun d => ',' :: serialChars d := by
  induction ds with
  | nil => rfl
  | cons d ds ih => rw [serialMoreItems, ih, List.flatMap_cons]

theorem serialItems_eq (ds : List Datum) : serialItems ds = Json.separated serialChars ds := by
  cases ds with
  | nil => rfl
  | cons d ds => rw [serialItems, serialMoreItems_eq, Json.separated]

theorem serialMoreEntries_eq (ms : List (String × Datum)) :
    serialMoreEntries ms = ms.flatMap fun m => ',' :: Json.memberText serialChars m := by
  induction ms with
  | nil => rfl
  | cons m ms ih =>
      rw [serialMoreEntries, ih, List.flatMap_cons]
      simp [Json.memberText]

theorem serialEntries_eq (ms : List (String × Datum)) :
    serialEntries ms = Json.separated (Json.memberText serialChars) ms := by
  cases ms with
  | nil => rfl
  | cons m ms =>
      rw [serialEntries, serialMoreEntries_eq, Json.separated]
      simp [Json.memberText]

/-- What is not finite is written as null. -/
theorem write_of_not_isFinite {x : Float} (infinite : x.isFinite = false) :
    Decimal.json.write x = "null" := by
  rw [Float.isFinite, Float.Model.isFinite] at infinite
  rw [Decimal.Layout.write, Float.isNaN, Float.isInf, Float.Model.isNaN, Float.Model.isInf]
  cases unpacked : x.toModel.unpack with
  | notANumber => rfl
  | infinity sign => cases Decimal.isNegative x <;> rfl
  | zero sign => rw [unpacked] at infinite; cases infinite
  | finite sign m e positive => rw [unpacked] at infinite; cases infinite

theorem chars_toJson (d : Datum) : d.toJson.chars = d.serialChars := by
  induction d using inductionOn with
  | int n => rfl
  | float x =>
      rw [toJson, serialChars]
      split
      · rfl
      · next infinite =>
          rw [write_of_not_isFinite (Bool.eq_false_of_not_eq_true infinite)]
          rfl
  | text s => rfl
  | list items ih =>
      rw [toJson, serialChars, Json.chars, Json.itemChars_eq, itemsToJson_eq, serialItems_eq,
        Json.separated_map, Json.separated_congr ih]
  | map entries ih =>
      rw [toJson, serialChars, Json.chars, Json.memberChars_eq, entriesToJson_eq,
        serialEntries_eq, Json.separated_map]
      refine congrArg (fun cs => '\x7b' :: cs ++ ['\x7d']) (Json.separated_congr fun m member => ?_)
      rw [Json.memberText, Json.memberText, ih m member]

/-- Whether all floating-point numbers in a datum are finite. -/
inductive IsFinite : Datum → Prop where
  | int (n : Int) : IsFinite (.int n)
  | float {x : Float} (finite : x.isFinite = true) : IsFinite (.float x)
  | text (s : String) : IsFinite (.text s)
  | list {items : List Datum} (all : ∀ d ∈ items, IsFinite d) : IsFinite (.list items)
  | map {entries : List (String × Datum)} (all : ∀ e ∈ entries, IsFinite e.2) :
      IsFinite (.map entries)

theorem isFinite_list_iff {items : List Datum} :
    (list items).IsFinite ↔ ∀ d ∈ items, d.IsFinite :=
  ⟨fun | .list all => all, .list⟩

theorem isFinite_map_iff {entries : List (String × Datum)} :
    (map entries).IsFinite ↔ ∀ e ∈ entries, e.2.IsFinite :=
  ⟨fun | .map all => all, .map⟩

/-! ## Kinds of data -/

/-- What the first character of a text tells. -/
inductive Kind where
  | number
  | text
  | list
  | map

def kind : Datum → Kind
  | int _ => .number
  | float _ => .number
  | text _ => .text
  | list _ => .list
  | map _ => .map

/-- Whether the text of a datum of some kind can begin with a character. -/
def Kind.Opens : Kind → Char → Prop
  | number, c => c = '-' ∨ c.isDigit = true
  | text, c => c = '"'
  | list, c => c = '['
  | map, c => c = '\x7b'

theorem Kind.eq_of_opens {k l : Kind} {c : Char} (opens : k.Opens c) (opens' : l.Opens c) :
    k = l := by
  cases k <;> cases l <;> simp_all [Opens]

theorem IsFinite.exists_serialChars {d : Datum} (finite : d.IsFinite) :
    ∃ c cs, d.serialChars = c :: cs ∧ d.kind.Opens c := by
  cases finite with
  | int n =>
      have filled : Json.intChars n ≠ [] := by
        rw [Json.intChars]
        split
        · exact List.cons_ne_nil _ _
        · exact Nat.toDigits_ne_nil
      obtain ⟨c, cs, text⟩ := List.exists_cons_of_ne_nil filled
      exact ⟨c, cs, text, Json.mem_intChars (text ▸ List.mem_cons_self)⟩
  | float finite =>
      obtain ⟨c, first, opens⟩ := Decimal.json.head?_write finite
      obtain ⟨cs, text⟩ := List.head?_eq_some_iff.mp first
      exact ⟨c, cs, text, opens⟩
  | text s => exact ⟨'"', _, rfl, rfl⟩
  | list all => exact ⟨'[', _, rfl, rfl⟩
  | map all => exact ⟨'\x7b', _, rfl, rfl⟩

theorem IsFinite.kind_eq {d e : Datum} (finite : d.IsFinite) (finite' : e.IsFinite)
    {u v : List Char} (same : d.serialChars ++ u = e.serialChars ++ v) : d.kind = e.kind := by
  obtain ⟨c, cs, text, opens⟩ := finite.exists_serialChars
  obtain ⟨c', cs', text', opens'⟩ := finite'.exists_serialChars
  rw [text, text'] at same
  exact Kind.eq_of_opens opens ((List.cons.inj same).1 ▸ opens')

/-! ## Data from texts -/

open Json (Tells)

theorem IsFinite.isNumeric {d : Datum} (finite : d.IsFinite) (number : d.kind = .number) :
    ∀ c ∈ d.serialChars, Decimal.isNumeric c = true := by
  cases finite with
  | int n =>
      intro c member
      rcases Json.mem_intChars member with rfl | digit
      · rfl
      · exact Decimal.isNumeric_of_isDigit digit
  | float finite => exact Decimal.json.isNumeric_of_mem_write finite
  | _ => cases number

/-- The text of a whole number is no text of a floating-point number. -/
theorem intChars_ne_write (n : Int) {x : Float} (finite : x.isFinite = true) :
    Json.intChars n ≠ (Decimal.json.write x).toList := by
  intro same
  rcases Decimal.point_or_exponent_mem_write finite with marked | marked
  all_goals
    rw [← same] at marked
    rcases Json.mem_intChars marked with other | other <;> cases other

theorem IsFinite.eq_of_number {d e : Datum} (finite : d.IsFinite) (finite' : e.IsFinite)
    (number : d.kind = .number) (number' : e.kind = .number)
    (same : d.serialChars = e.serialChars) : d = e := by
  cases finite with
  | int m =>
      cases finite' with
      | int n =>
          have read := Json.integer?_intChars m
          rw [show Json.intChars m = Json.intChars n from same, Json.integer?_intChars] at read
          rw [Option.some.inj read]
      | float finite' => exact absurd same (intChars_ne_write m finite')
      | _ => cases number'
  | float finite =>
      cases finite' with
      | int n => exact absurd same.symm (intChars_ne_write n finite)
      | float finite' =>
          rw [Decimal.json.write_injective finite finite' (String.toList_inj.mp same)]
      | _ => cases number'
  | _ => cases number

theorem IsFinite.tells_number {d e : Datum} (finite : d.IsFinite) (finite' : e.IsFinite)
    (number : d.kind = .number) (number' : e.kind = .number) : Tells serialChars d e := by
  intro c c' u v stop stop' same
  obtain ⟨texts, rest⟩ := Text.append_cons_cancel (finite.isNumeric number)
    (finite'.isNumeric number') stop stop' same
  exact ⟨finite.eq_of_number finite' number number' texts, rest⟩

/-- No datum begins with what closes a list. -/
theorem IsFinite.exists_ne_close {d : Datum} (finite : d.IsFinite) :
    ∃ c cs, d.serialChars = c :: cs ∧ c ≠ ']' := by
  obtain ⟨c, cs, text, opens⟩ := finite.exists_serialChars
  refine ⟨c, cs, text, ?_⟩
  rintro rfl
  cases d <;> simp [kind, Kind.Opens] at opens

/-- The text of a datum with finite numbers is told from that of every other. -/
theorem IsFinite.tells {d e : Datum} (finite : d.IsFinite) (finite' : e.IsFinite) :
    Tells serialChars d e := by
  intro c c' u v stop stop' same
  have kinds := finite.kind_eq finite' same
  induction d using inductionOn generalizing e c c' u v with
  | int m => exact finite.tells_number finite' rfl kinds.symm c c' u v stop stop' same
  | float x => exact finite.tells_number finite' rfl kinds.symm c c' u v stop stop' same
  | text s =>
      cases e with
      | text t =>
          obtain ⟨rfl, rest⟩ := Json.quoted_cancel same
          exact ⟨rfl, rest⟩
      | _ => cases kinds
  | list items ih =>
      cases e with
      | list others =>
          have all := isFinite_list_iff.mp finite
          have all' := isFinite_list_iff.mp finite'
          have tells : ∀ d ∈ items, ∀ e ∈ others, Tells serialChars d e := by
            intro d member e member' c c' u v stop stop' same
            exact ih d member (all d member) (all' e member') c c' u v stop stop' same
              ((all d member).kind_eq (all' e member') same)
          have starts : ∀ d ∈ items ++ others, ∃ c cs, d.serialChars = c :: cs ∧ c ≠ ']' :=
            List.forall_mem_append.mpr ⟨fun d member => (all d member).exists_ne_close,
              fun d member => (all' d member).exists_ne_close⟩
          simp only [serialChars, List.cons_append, List.append_assoc, serialItems_eq] at same
          obtain ⟨rfl, rest⟩ := Json.separated_cancel rfl (by decide) tells starts
            (List.cons.inj same).2
          exact ⟨rfl, rest⟩
      | _ => cases kinds
  | map entries ih =>
      cases e with
      | map others =>
          have all := isFinite_map_iff.mp finite
          have all' := isFinite_map_iff.mp finite'
          have tells : ∀ m ∈ entries, ∀ n ∈ others, Tells (Json.memberText serialChars) m n := by
            intro m member n member'
            refine Json.tells_memberText fun c c' u v stop stop' same => ?_
            exact ih m member (all m member) (all' n member') c c' u v stop stop' same
              ((all m member).kind_eq (all' n member') same)
          have starts : ∀ m ∈ entries ++ others,
              ∃ c cs, Json.memberText serialChars m = c :: cs ∧ c ≠ '\x7d' :=
            fun m _ => ⟨'"', _, rfl, by decide⟩
          simp only [serialChars, List.cons_append, List.append_assoc, serialEntries_eq] at same
          obtain ⟨rfl, rest⟩ := Json.separated_cancel rfl (by decide) tells starts
            (List.cons.inj same).2
          exact ⟨rfl, rest⟩
      | _ => cases kinds

/-- The text of a datum is the same on both ways, and it tells the datum if all numbers in it are
finite. -/
theorem serialize_lossless : (∀ d : Datum, d.toJson.compact = d.serialize) ∧
    ∀ d e : Datum, d.IsFinite → e.IsFinite → d.serialize = e.serialize → d = e := by
  refine ⟨fun d => congrArg String.ofList d.chars_toJson, fun d e finite finite' same => ?_⟩
  have chars : d.serialChars = e.serialChars := String.ofList_injective same
  exact (finite.tells finite' ',' ',' [] [] rfl rfl (by rw [chars])).1

theorem serialize_lossless_price :
    (ofEntries [("price", int 2), ("price", list [float 1.5, text "1.5"])]).IsFinite ∧
      (map [("price", list [float 1.5, text "1.5"])]).IsFinite ∧
      ofEntries [("price", int 2), ("price", list [float 1.5, text "1.5"])] =
        map [("price", list [float 1.5, text "1.5"])] := by
  have number : (float 1.5).IsFinite := .float (by decide +kernel)
  have finite : (map [("price", list [float 1.5, text "1.5"])]).IsFinite :=
    isFinite_map_iff.mpr (List.forall_mem_singleton.mpr
      (isFinite_list_iff.mpr (by simp [number, IsFinite.text])))
  exact ⟨finite, finite, serialize_lossless.2 _ _ finite finite rfl⟩

example : (list [int 1, float 1, text "1"]).serialize = "[1,1.0,\"1\"]" := by decide +kernel

end Datum

end Harvest
