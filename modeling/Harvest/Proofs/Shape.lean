import Mathlib
import Harvest.Shape
import Harvest.Proofs.Decimal.Numeral
import Harvest.Proofs.Text.Utf8

/-!
# Whole numbers in bytes

Bytes stand for a whole number if and only if they are an optional sign and the digits of a number of
64 bits.  The value of the digits is taken as a whole before it is compared with the bounds, so
however many digits there are, no number is wrapped, cut off or replaced by a bound.
-/

namespace Harvest

namespace Decimal

/-! ## Signs and digits -/

/-- What may stand in front of the digits of a whole number. -/
inductive Sign where
  | none
  | plus
  | minus

namespace Sign

def chars : Sign → List Char
  | none => []
  | plus => ['+']
  | minus => ['-']

def bytes : Sign → Bytes
  | none => []
  | plus => [0x2B]
  | minus => [0x2D]

/-- The number that a sign makes of the value of the digits behind it. -/
def apply : Sign → Nat → Int
  | minus, n => -n
  | _, n => n

end Sign

/-- The value of some digits, of which the last counts units. -/
def digitsValue (digits : List (Fin 10)) : Nat := digits.foldl (fun n d => 10 * n + d) 0

/-- The bytes of digits, from `0x30` for zero to `0x39` for nine. -/
def digitsBytes (digits : List (Fin 10)) : Bytes :=
  digits.map fun d : Fin 10 => UInt8.ofNat (0x30 + d)

def digitsChars (digits : List (Fin 10)) : List Char :=
  digits.map fun d : Fin 10 => Nat.digitChar d

/-- Whether bytes are an optional sign and at least one digit, which together write `n`. -/
def Writes (raw : Bytes) (n : Int) : Prop :=
  ∃ (sign : Sign) (digits : List (Fin 10)), digits ≠ [] ∧ raw = sign.bytes ++ digitsBytes digits ∧
    n = sign.apply (digitsValue digits)

theorem isDigit_of_mem_digitsChars {digits : List (Fin 10)} :
    ∀ c ∈ digitsChars digits, c.isDigit := by
  intro c member
  obtain ⟨d, -, rfl⟩ := List.mem_map.mp member
  rw [Nat.isDigit_digitChar, decide_eq_true_iff]
  exact d.isLt

theorem exists_digitChar {c : Char} (digit : c.isDigit = true) :
    ∃ d : Fin 10, Nat.digitChar d = c := by
  rw [Char.isDigit, Bool.and_eq_true, decide_eq_true_iff, decide_eq_true_iff] at digit
  obtain ⟨low, high⟩ : 48 ≤ c.toNat ∧ c.toNat ≤ 57 := digit
  have small : c.toNat - 48 < 10 := by omega
  refine ⟨⟨c.toNat - 48, small⟩, Char.toNat_inj.mp ?_⟩
  rw [Nat.toNat_digitChar_of_lt_ten small]
  omega

theorem exists_digitsChars {cs : List Char} (digits : ∀ c ∈ cs, c.isDigit) :
    ∃ ds : List (Fin 10), cs = digitsChars ds := by
  induction cs with
  | nil => exact ⟨[], rfl⟩
  | cons c cs ih =>
      obtain ⟨d, rfl⟩ := exists_digitChar (digits c (.head cs))
      obtain ⟨ds, rfl⟩ := ih fun c' member => digits c' (.tail _ member)
      exact ⟨d :: ds, rfl⟩

theorem ofDigitChars_digitsChars (digits : List (Fin 10)) :
    Nat.ofDigitChars 10 (digitsChars digits) 0 = digitsValue digits := by
  rw [digitsValue]
  generalize 0 = start
  induction digits generalizing start with
  | nil => exact Nat.ofDigitChars_nil
  | cons d digits ih =>
      rw [digitsChars, List.map_cons, Nat.ofDigitChars_cons_digitChar_of_lt_ten d.isLt]
      exact ih _

/-- The digits and signs of characters are single bytes. -/
theorem ofString_sign_digits (sign : Sign) (digits : List (Fin 10)) :
    Bytes.ofString (String.ofList (sign.chars ++ digitsChars digits)) =
      sign.bytes ++ digitsBytes digits := by
  have digit (d : Fin 10) : String.utf8EncodeChar (Nat.digitChar d) = [UInt8.ofNat (0x30 + d)] := by
    revert d
    decide
  have signed : sign.chars.flatMap String.utf8EncodeChar = sign.bytes := by
    cases sign <;> decide
  rw [Bytes.ofString_ofList, List.flatMap_append, signed, digitsChars, List.flatMap_map,
    digitsBytes, List.map_eq_flatMap]
  simp only [digit]

/-! ## Reading -/

theorem natural?_eq_some_iff {cs : List Char} {n : Nat} :
    natural? cs = some n ↔
      ∃ digits, digits ≠ [] ∧ cs = digitsChars digits ∧ n = digitsValue digits := by
  constructor
  · intro read
    -- the run of digits at the front has to be all there is
    have run : ∀ c ∈ cs.takeWhile Char.isDigit, c.isDigit := fun c => List.mem_takeWhile_imp
    have ends : ∀ c ∈ (cs.dropWhile Char.isDigit).head?, c.isDigit = false := by
      intro c first
      have other := List.head?_dropWhile_not Char.isDigit cs
      rw [first] at other
      simpa using other
    obtain ⟨digits, own⟩ := exists_digitsChars run
    rw [natural?, ← List.takeWhile_append_dropWhile (p := Char.isDigit) (l := cs),
      digitRun_append run ends] at read
    cases behind : cs.dropWhile Char.isDigit with
    | cons c rest =>
        rw [behind] at read
        cases read
    | nil =>
        rw [behind, own] at read
        obtain ⟨filled, value⟩ := Option.ite_none_left_eq_some.mp read
        refine ⟨digits, ?_, ?_, ?_⟩
        · rintro rfl
          exact filled rfl
        · rw [← own, ← List.takeWhile_append_dropWhile (p := Char.isDigit) (l := cs), behind,
            List.append_nil, List.takeWhile_takeWhile]
          simp
        · rw [← Option.some.inj value, ofDigitChars_digitsChars]
  · rintro ⟨digits, filled, rfl, rfl⟩
    have count : 0 + (digitsChars digits).length ≠ 0 := by
      have := List.length_pos_iff.mpr filled
      rw [digitsChars, List.length_map]
      omega
    rw [natural?, digitRun_eq isDigit_of_mem_digitsChars]
    dsimp only
    rw [if_neg count, ofDigitChars_digitsChars]

/-- One of the three signs stands at the front, and the reader finds it. -/
theorem exists_sign (cs : List Char) :
    ∃ (s : Sign) (rest : List Char), cs = s.chars ++ rest ∧ (sign cs).2 = rest ∧
      ∀ n : Nat, (if (sign cs).1 then -(n : Int) else n) = s.apply n := by
  match cs with
  | [] => exact ⟨.none, [], rfl, rfl, fun _ => rfl⟩
  | c :: cs =>
      by_cases plus : c = '+'
      · subst plus
        exact ⟨.plus, cs, rfl, rfl, fun _ => rfl⟩
      · by_cases minus : c = '-'
        · subst minus
          exact ⟨.minus, cs, rfl, rfl, fun _ => rfl⟩
        · have unsigned : sign (c :: cs) = (false, c :: cs) := by
            rw [sign]
            · rintro rest ⟨⟩
              exact plus rfl
            · rintro rest ⟨⟩
              exact minus rfl
          rw [unsigned]
          exact ⟨.none, c :: cs, rfl, rfl, fun _ => rfl⟩

theorem sign_chars (s : Sign) {digits : List (Fin 10)} (filled : digits ≠ []) :
    (sign (s.chars ++ digitsChars digits)).2 = digitsChars digits ∧
      ∀ n : Nat, (if (sign (s.chars ++ digitsChars digits)).1 then -(n : Int) else n) =
        s.apply n := by
  cases s with
  | plus => exact ⟨rfl, fun _ => rfl⟩
  | minus => exact ⟨rfl, fun _ => rfl⟩
  | none =>
      obtain ⟨d, digits, rfl⟩ := List.exists_cons_of_ne_nil filled
      have first : (Nat.digitChar d).isDigit = true :=
        @isDigit_of_mem_digitsChars (d :: digits) _ (.head _)
      have unsigned : sign (digitsChars (d :: digits)) = (false, digitsChars (d :: digits)) :=
        sign_of_digit first
      rw [Sign.chars, List.nil_append, unsigned]
      exact ⟨rfl, fun _ => rfl⟩

theorem integer?_eq_map (cs : List Char) :
    integer? cs =
      (natural? (sign cs).2).map fun n : Nat => if (sign cs).1 then -(n : Int) else n := by
  rw [integer?]
  obtain ⟨negative, digits⟩ := sign cs
  dsimp only
  cases natural? digits with
  | none => rfl
  | some n => rfl

theorem integer?_eq_some_iff {cs : List Char} {n : Int} :
    integer? cs = some n ↔ ∃ (s : Sign) (digits : List (Fin 10)), digits ≠ [] ∧
      cs = s.chars ++ digitsChars digits ∧ n = s.apply (digitsValue digits) := by
  rw [integer?_eq_map, Option.map_eq_some_iff]
  constructor
  · rintro ⟨m, read, rfl⟩
    obtain ⟨s, rest, own, behind, signed⟩ := exists_sign cs
    rw [behind] at read
    obtain ⟨digits, filled, rfl, rfl⟩ := natural?_eq_some_iff.mp read
    exact ⟨s, digits, filled, own, signed _⟩
  · rintro ⟨s, digits, filled, rfl, rfl⟩
    obtain ⟨behind, signed⟩ := sign_chars s filled
    rw [behind]
    exact ⟨digitsValue digits, natural?_eq_some_iff.mpr ⟨digits, filled, rfl, rfl⟩, signed _⟩

theorem int64?_eq_some_iff {cs : List Char} {n : Int} :
    int64? cs = some n ↔ integer? cs = some n ∧ -2 ^ 63 ≤ n ∧ n ≤ 2 ^ 63 - 1 := by
  rw [int64?]
  cases integer? cs with
  | none => simp
  | some m =>
      dsimp only
      rw [Option.ite_none_right_eq_some]
      constructor
      · rintro ⟨bounds, ⟨⟩⟩
        exact ⟨rfl, by omega, by omega⟩
      · rintro ⟨⟨⟩, low, high⟩
        exact ⟨by omega, rfl⟩

/-- What a text writes is what is read from it. -/
theorem writes_ofString_iff {s : String} {n : Int} :
    Writes (Bytes.ofString s) n ↔ integer? s.toList = some n := by
  rw [integer?_eq_some_iff, Writes]
  refine exists_congr fun sign => exists_congr fun digits => and_congr_right fun _ =>
    and_congr_left fun _ => ?_
  rw [← ofString_sign_digits]
  constructor
  · intro same
    rw [Bytes.ofString_injective same, String.toList_ofList]
  · intro same
    rw [← same, String.ofList_toList]

/-- The text of a number writes it. -/
theorem writes_toString (n : Int) : Writes (Bytes.ofString (toString n)) n := by
  obtain ⟨digits, own⟩ := exists_digitsChars (isDigit_of_mem_toDigits (n := n.natAbs))
  have filled : digits ≠ [] := by
    rintro rfl
    exact Nat.toDigits_ne_nil own
  have value : digitsValue digits = n.natAbs := by
    rw [← ofDigitChars_digitsChars, ← own, Nat.ofDigitChars_ten_toDigits]
  have text : toString n = String.ofList
      ((if 0 ≤ n then Sign.none else Sign.minus).chars ++ digitsChars digits) := by
    rw [← own, Int.toString_eq_repr, Int.repr_eq_if]
    split
    · next whole =>
        have same : n.toNat = n.natAbs := by omega
        rw [same, Nat.repr_eq_ofList_toDigits]
        rfl
    · next negative =>
        have same : (-n).toNat = n.natAbs := by omega
        rw [same, Nat.repr_eq_ofList_toDigits, String.ofList_append]
        rfl
  refine ⟨if 0 ≤ n then Sign.none else Sign.minus, digits, filled, ?_, ?_⟩
  · rw [text, ofString_sign_digits]
  · rw [value]
    split
    · next whole => exact (Int.natAbs_of_nonneg whole).symm
    · next negative =>
        rw [Sign.apply]
        omega

end Decimal

namespace Shape

variable {shape : Shape} {raw : Bytes}

theorem coerce_of_int (kind : shape.kind = .int) :
    shape.coerce raw = (raw.text?.bind fun s => Decimal.int64? s.toList).map .int := by
  rw [coerce, kind]
  cases raw.text? with
  | none => rfl
  | some s => rfl

theorem coerce_eq_int_iff (kind : shape.kind = .int) {n : Int} :
    shape.coerce raw = some (.int n) ↔
      Decimal.Writes raw n ∧ -2 ^ 63 ≤ n ∧ n ≤ 2 ^ 63 - 1 := by
  rw [coerce_of_int kind, Option.map_eq_some_iff]
  constructor
  · rintro ⟨m, read, ⟨⟩⟩
    obtain ⟨s, decoded, number⟩ := Option.bind_eq_some_iff.mp read
    obtain ⟨whole, bounds⟩ := Decimal.int64?_eq_some_iff.mp number
    rw [Bytes.text?_eq_some_iff.mp decoded]
    exact ⟨Decimal.writes_ofString_iff.mpr whole, bounds⟩
  · rintro ⟨written, bounds⟩
    obtain ⟨s, rfl⟩ : ∃ s, raw = Bytes.ofString s := by
      obtain ⟨sign, digits, -, own, -⟩ := written
      exact ⟨_, own.trans (Decimal.ofString_sign_digits sign digits).symm⟩
    rw [Bytes.text?_ofString, Option.bind_some]
    exact ⟨n, Decimal.int64?_eq_some_iff.mpr ⟨Decimal.writes_ofString_iff.mp written, bounds⟩, rfl⟩

/-- Bytes are coerced to a whole number exactly if they are an optional sign and digits whose value,
with the sign, is one of 64 bits; then the number is this value.  All other bytes are coerced to
nothing, and the text of every number of 64 bits is coerced to this number. -/
theorem coerce_int (shape : Shape) (kind : shape.kind = .int) (raw : Bytes) :
    (∀ n : Int, shape.coerce raw = some (.int n) ↔
      Decimal.Writes raw n ∧ -2 ^ 63 ≤ n ∧ n ≤ 2 ^ 63 - 1) ∧
    ((∀ n : Int, -2 ^ 63 ≤ n → n ≤ 2 ^ 63 - 1 → ¬Decimal.Writes raw n) →
      shape.coerce raw = none) ∧
    ∀ n : Int, -2 ^ 63 ≤ n → n ≤ 2 ^ 63 - 1 →
      shape.coerce (Bytes.ofString (toString n)) = some (.int n) := by
  refine ⟨fun n => coerce_eq_int_iff kind, fun others => ?_, fun n low high => ?_⟩
  · refine Option.eq_none_iff_forall_ne_some.mpr fun d found => ?_
    obtain ⟨n, -, rfl⟩ : ∃ n, _ ∧ Datum.int n = d :=
      Option.map_eq_some_iff.mp ((coerce_of_int kind).symm.trans found)
    obtain ⟨written, low, high⟩ := (coerce_eq_int_iff kind).mp found
    exact others n low high written
  · exact (coerce_eq_int_iff kind).mpr ⟨Decimal.writes_toString n, low, high⟩

/-- Leading zeros in front of the least number, the number behind the greatest, and the greatest. -/
theorem coerce_int_bounds :
    (⟨.int, false⟩ : Shape).kind = .int ∧
    (⟨.int, false⟩ : Shape).coerce (Bytes.ofString "-0009223372036854775808") =
      some (.int (-2 ^ 63)) ∧
    (⟨.int, false⟩ : Shape).coerce (Bytes.ofString "9223372036854775808") = none ∧
    (⟨.int, false⟩ : Shape).coerce (Bytes.ofString (toString (2 ^ 63 - 1 : Int))) =
      some (.int (2 ^ 63 - 1)) := by
  have least : Decimal.integer? "-0009223372036854775808".toList = some (-2 ^ 63) := by cbv
  have behind : Decimal.integer? "9223372036854775808".toList = some (2 ^ 63) := by cbv
  refine ⟨rfl, ?_, ?_, ?_⟩
  · exact ((coerce_int ⟨.int, false⟩ rfl _).1 _).mpr
      ⟨Decimal.writes_ofString_iff.mpr least, by decide, by decide⟩
  · refine (coerce_int ⟨.int, false⟩ rfl _).2.1 fun n low high written => ?_
    have same := Decimal.writes_ofString_iff.mp written
    rw [behind] at same
    obtain rfl := Option.some.inj same
    exact absurd high (by decide)
  · exact (coerce_int ⟨.int, false⟩ rfl []).2.2 _ (by decide) (by decide)

end Shape

end Harvest
