import Mathlib
import Harvest.Decimal.Reader
import Harvest.Proofs.Decimal.Interval

/-!
# Numerals that are read exactly

Before it is rounded, a numeral stands for a decimal: its digits without the point, and the exponent
that is written less the digits behind the point.  Every layout writes the shortest digits of a value
as a numeral for just these digits, wherever it puts the point and whatever zeros it adds.  A value
that is finite can therefore be told from its text.
-/

namespace Harvest.Decimal

/-! ## Runs of digits -/

theorem digit?_of_isDigit {c : Char} (digit : c.isDigit = true) :
    digit? c = some (c.toNat - '0'.toNat) := by
  rw [Char.isDigit, Bool.and_eq_true, decide_eq_true_iff, decide_eq_true_iff] at digit
  rw [digit?, if_pos]
  rw [Bool.and_eq_true, decide_eq_true_iff, decide_eq_true_iff]
  exact digit

theorem digit?_of_not_isDigit {c : Char} (other : c.isDigit = false) : digit? c = none := by
  rw [digit?, if_neg]
  rw [Bool.and_eq_true, decide_eq_true_iff, decide_eq_true_iff]
  rw [Char.isDigit, Bool.and_eq_false_iff, decide_eq_false_iff_not, decide_eq_false_iff_not] at other
  exact not_and_or.mpr other

/-- A run ends where the digits end. -/
theorem digitRun_append {cs rest : List Char} (digits : ∀ c ∈ cs, c.isDigit)
    (ends : ∀ c ∈ rest.head?, c.isDigit = false) (acc count : Nat) :
    digitRun acc count (cs ++ rest) = (Nat.ofDigitChars 10 cs acc, count + cs.length, rest) := by
  induction cs generalizing acc count with
  | nil =>
      cases rest with
      | nil => rfl
      | cons c rest =>
          rw [List.nil_append, digitRun, digit?_of_not_isDigit (ends c rfl)]
          rfl
  | cons c cs ih =>
      rw [List.cons_append, digitRun, digit?_of_isDigit (digits c (.head cs))]
      dsimp only
      rw [ih fun d member => digits d (.tail c member), Nat.ofDigitChars_cons, Nat.mul_comm acc,
        List.length_cons, Nat.add_right_comm, Nat.add_assoc]

theorem digitRun_eq {cs : List Char} (digits : ∀ c ∈ cs, c.isDigit) (acc count : Nat) :
    digitRun acc count cs = (Nat.ofDigitChars 10 cs acc, count + cs.length, []) := by
  have ends : ∀ c ∈ ([] : List Char).head?, c.isDigit = false := nofun
  simpa using digitRun_append digits ends acc count

/-! ## Whole numbers -/

theorem isDigit_of_mem_toDigits {n : Nat} : ∀ c ∈ Nat.toDigits 10 n, c.isDigit :=
  fun _ member => Nat.isDigit_of_mem_toDigits (by decide) (by decide) member

theorem natural?_toDigits (n : Nat) : natural? (Nat.toDigits 10 n) = some n := by
  rw [natural?, digitRun_eq isDigit_of_mem_toDigits, Nat.ofDigitChars_ten_toDigits]
  exact if_neg (by have := Nat.length_toDigits_pos (b := 10) (n := n); omega)

/-- What does not begin with a sign has none. -/
theorem sign_of_digit {c : Char} {cs : List Char} (digit : c.isDigit = true) :
    sign (c :: cs) = (false, c :: cs) := by
  rw [sign]
  · rintro cs ⟨⟩
    cases digit
  · rintro cs ⟨⟩
    cases digit

theorem exists_toDigits (n : Nat) :
    ∃ c cs, Nat.toDigits 10 n = c :: cs ∧ c.isDigit = true := by
  obtain ⟨c, cs, digits⟩ := List.exists_cons_of_ne_nil (Nat.toDigits_ne_nil (n := n) (b := 10))
  exact ⟨c, cs, digits, isDigit_of_mem_toDigits c (digits ▸ List.mem_cons_self)⟩

theorem integer?_toDigits (n : Nat) : integer? (Nat.toDigits 10 n) = some (n : Int) := by
  obtain ⟨c, cs, digits, first⟩ := exists_toDigits n
  rw [integer?, digits, sign_of_digit first, ← digits]
  dsimp only
  rw [natural?_toDigits]
  rfl

theorem integer?_minus (n : Nat) : integer? ('-' :: Nat.toDigits 10 n) = some (-n : Int) := by
  rw [integer?, sign]
  dsimp only
  rw [natural?_toDigits]
  rfl

theorem integer?_plus (n : Nat) : integer? ('+' :: Nat.toDigits 10 n) = some (n : Int) := by
  rw [integer?, sign]
  dsimp only
  rw [natural?_toDigits]
  rfl

/-! ## Numerals -/

/-- The digits and the exponent of a numeral without its sign. -/
def numeral? (cs : List Char) : Option Digits :=
  let (whole, wholeCount, rest) := digitRun 0 0 cs
  match rest with
  | '.' :: fraction =>
      let (value, count, rest) := digitRun whole 0 fraction
      if wholeCount + count = 0 then none
      else (exponent? rest).map fun e => ⟨value, e - count⟩
  | _ => if wholeCount = 0 then none else (exponent? rest).map fun e => ⟨whole, e⟩

section Forms

variable {whole : List Char} (digits : ∀ c ∈ whole, c.isDigit) (filled : whole ≠ [])
include digits filled

theorem numeral?_plain {rest : List Char}
    (ends : ∀ c ∈ rest.head?, c.isDigit = false ∧ c ≠ '.') :
    numeral? (whole ++ rest) =
      (exponent? rest).map fun e => ⟨Nat.ofDigitChars 10 whole 0, e⟩ := by
  have count : 0 + whole.length ≠ 0 := by
    have := List.length_pos_iff.mpr filled
    omega
  rw [numeral?, digitRun_append digits fun c first => (ends c first).1]
  dsimp only
  split
  · next fraction same => exact absurd rfl (ends '.' rfl).2
  · rw [if_neg count]

theorem numeral?_point {fraction rest : List Char} (more : ∀ c ∈ fraction, c.isDigit)
    (ends : ∀ c ∈ rest.head?, c.isDigit = false) :
    numeral? (whole ++ '.' :: (fraction ++ rest)) =
      (exponent? rest).map fun e =>
        ⟨Nat.ofDigitChars 10 (whole ++ fraction) 0, e - fraction.length⟩ := by
  have count : 0 + whole.length + (0 + fraction.length) ≠ 0 := by
    have := List.length_pos_iff.mpr filled
    omega
  have point : ∀ c ∈ ('.' :: (fraction ++ rest)).head?, c.isDigit = false := by
    rintro c ⟨⟩
    rfl
  simp only [numeral?, digitRun_append digits point, digitRun_append more ends]
  rw [if_neg count, Nat.ofDigitChars_append, Nat.zero_add]

theorem numeral?_whole :
    numeral? whole = some ⟨Nat.ofDigitChars 10 whole 0, 0⟩ := by
  have ends : ∀ c ∈ ([] : List Char).head?, c.isDigit = false ∧ c ≠ '.' := nofun
  simpa [exponent?] using numeral?_plain digits filled ends

theorem numeral?_fraction {fraction : List Char} (more : ∀ c ∈ fraction, c.isDigit) {n : Nat}
    (value : Nat.ofDigitChars 10 (whole ++ fraction) 0 = n) :
    numeral? (whole ++ '.' :: fraction) = some ⟨n, -fraction.length⟩ := by
  have ends : ∀ c ∈ ([] : List Char).head?, c.isDigit = false := nofun
  simpa [exponent?, value] using numeral?_point digits filled more ends

end Forms

/-! ## Layouts -/

theorem value_zeros (pointZero : Bool) (n k : Nat) :
    (numeral? (Nat.toDigits 10 n ++ List.replicate k '0' ++
      (if pointZero then ".0" else "").toList)).map Digits.value = some (n * 10 ^ k : ℚ) := by
  have zeros : ∀ c ∈ List.replicate k '0', c.isDigit := by simp
  have digits : ∀ c ∈ Nat.toDigits 10 n ++ List.replicate k '0', c.isDigit :=
    List.forall_mem_append.mpr ⟨isDigit_of_mem_toDigits, zeros⟩
  have filled : Nat.toDigits 10 n ++ List.replicate k '0' ≠ [] :=
    List.append_ne_nil_of_left_ne_nil Nat.toDigits_ne_nil _
  have value : Nat.ofDigitChars 10 (Nat.toDigits 10 n ++ List.replicate k '0') 0 = 10 ^ k * n := by
    rw [Nat.ofDigitChars_append, Nat.ofDigitChars_ten_toDigits, Nat.ofDigitChars_replicate_zero]
  cases pointZero with
  | false =>
      have none : (if false then ".0" else "").toList = [] := rfl
      rw [none, List.append_nil, numeral?_whole digits filled, value]
      simp [Digits.value, mul_comm]
  | true =>
      have point : (if true then ".0" else "").toList = '.' :: ['0'] := rfl
      have longer : Nat.ofDigitChars 10 (Nat.toDigits 10 n ++ List.replicate k '0' ++ ['0']) 0 =
          10 * (10 ^ k * n) := by
        rw [Nat.ofDigitChars_append, value]
        rfl
      have zero : ∀ c ∈ ['0'], c.isDigit := by simp
      rw [point, numeral?_fraction digits filled zero longer]
      simp [Digits.value]
      ring

theorem positional_of_nonneg (pointZero : Bool) {d : Digits} (whole : 0 ≤ d.exponent) :
    (positional pointZero d).toList =
      Nat.toDigits 10 d.digits ++ List.replicate d.exponent.toNat '0' ++
        (if pointZero then ".0" else "").toList := by
  rw [positional]
  dsimp only
  rw [if_pos whole, String.toList_append, String.toList_ofList]

theorem positional_of_neg (pointZero : Bool) {d : Digits} (fractional : d.exponent < 0) :
    ∃ whole fraction, (positional pointZero d).toList = whole ++ '.' :: fraction ∧ whole ≠ [] ∧
      (∀ c ∈ whole, c.isDigit) ∧ (∀ c ∈ fraction, c.isDigit) ∧
      Nat.ofDigitChars 10 (whole ++ fraction) 0 = d.digits ∧
      -(fraction.length : Int) = d.exponent := by
  obtain ⟨text, written⟩ : ∃ text, Nat.toDigits 10 d.digits = text := ⟨_, rfl⟩
  have digits : ∀ c ∈ text, c.isDigit := written ▸ isDigit_of_mem_toDigits
  have value : Nat.ofDigitChars 10 text 0 = d.digits := written ▸ Nat.ofDigitChars_ten_toDigits
  rw [positional, written]
  dsimp only
  rw [if_neg (by omega)]
  split
  · next inside =>
      have kept : text.length - (-d.exponent).toNat ≠ 0 := by omega
      refine ⟨text.take (text.length - (-d.exponent).toNat),
        text.drop (text.length - (-d.exponent).toNat), by simp, ?_, ?_, ?_, ?_, ?_⟩
      · exact fun none => (List.take_eq_nil_iff.mp none).elim kept (written ▸ Nat.toDigits_ne_nil)
      · exact fun c member => digits c (List.mem_of_mem_take member)
      · exact fun c member => digits c (List.mem_of_mem_drop member)
      · rw [List.take_append_drop, value]
      · rw [List.length_drop]
        omega
  · next outside =>
      refine ⟨['0'], List.replicate ((-d.exponent).toNat - text.length) '0' ++ text, by simp,
        by simp, by simp, List.forall_mem_append.mpr ⟨by simp, digits⟩, ?_, ?_⟩
      · rw [Nat.ofDigitChars_append, Nat.ofDigitChars_append, Nat.ofDigitChars_replicate_zero]
        exact value
      · rw [List.length_append, List.length_replicate]
        omega

theorem numeral?_positional (pointZero : Bool) (d : Digits) :
    (numeral? (positional pointZero d).toList).map Digits.value = some d.value := by
  rcases le_or_gt 0 d.exponent with whole | fractional
  · have exponent : d.exponent = (d.exponent.toNat : Int) := (Int.toNat_of_nonneg whole).symm
    rw [positional_of_nonneg pointZero whole, value_zeros, Digits.value, exponent,
      zpow_natCast, Int.toNat_natCast]
  · obtain ⟨whole, fraction, text, filled, digits, more, value, places⟩ :=
      positional_of_neg pointZero fractional
    rw [text, numeral?_fraction digits filled more value, places]
    rfl

/-- The characters of a written exponent. -/
def exponentChars (plus : Bool) (power : Int) : List Char :=
  'e' :: ((if 0 ≤ power then (if plus then "+" else "") else "-").toList ++
    Nat.toDigits 10 power.natAbs)

theorem exponent?_exponentChars (plus : Bool) (power : Int) :
    exponent? (exponentChars plus power) = some power := by
  rw [exponentChars, exponent?, if_pos (by decide)]
  split
  · next positive =>
      have same : (power.natAbs : Int) = power := Int.natAbs_of_nonneg positive
      cases plus with
      | false => exact (integer?_toDigits _).trans (congrArg some same)
      | true => exact (integer?_plus _).trans (congrArg some same)
  · next negative =>
      have same : -(power.natAbs : Int) = power := by omega
      exact (integer?_minus _).trans (congrArg some same)

theorem toList_scientific (plus : Bool) {d : Digits} {c : Char} {cs : List Char}
    (text : Nat.toDigits 10 d.digits = c :: cs) :
    (scientific plus d).toList =
      c :: (if cs = [] then [] else '.' :: cs) ++ exponentChars plus (d.exponent + cs.length) := by
  have power : d.exponent + ((c :: cs).length : Int) - 1 = d.exponent + cs.length := by
    rw [List.length_cons]
    omega
  rw [scientific, text, power]
  cases cs <;>
    simp [exponentChars, String.toList_append]

theorem numeral?_scientific (plus : Bool) (d : Digits) :
    numeral? (scientific plus d).toList = some d := by
  obtain ⟨c, cs, text, -⟩ := exists_toDigits d.digits
  have digits : ∀ c' ∈ c :: cs, c'.isDigit := text ▸ isDigit_of_mem_toDigits
  have value : Nat.ofDigitChars 10 (c :: cs) 0 = d.digits := text ▸ Nat.ofDigitChars_ten_toDigits
  have ends : ∀ e ∈ (exponentChars plus (d.exponent + cs.length)).head?,
      e.isDigit = false ∧ e ≠ '.' := by
    rintro e ⟨⟩
    decide
  rw [toList_scientific plus text]
  split
  · next short =>
      subst short
      rw [numeral?_plain digits (by simp) ends, exponent?_exponentChars, value]
      simp
  · next long =>
      have one : ∀ c' ∈ [c], c'.isDigit := List.forall_mem_singleton.mpr (digits c (.head cs))
      have point := numeral?_point one (by simp) (fun c' member => digits c' (.tail c member))
        fun e first => (ends e first).1
      simp only [List.cons_append, List.nil_append] at point ⊢
      rw [point, exponent?_exponentChars, value]
      simp

/-! ## Written values -/

theorem not_isNaN_of_isFinite {x : Float} (finite : x.isFinite = true) : x.isNaN = false := by
  rw [Float.isFinite, Float.Model.isFinite] at finite
  rw [Float.isNaN, Float.Model.isNaN]
  cases unpacked : x.toModel.unpack <;>
    simp_all [Float.Model.UnpackedFloat.isFinite, Float.Model.UnpackedFloat.isNaN]

theorem not_isInf_of_isFinite {x : Float} (finite : x.isFinite = true) : x.isInf = false := by
  rw [Float.isFinite, Float.Model.isFinite] at finite
  rw [Float.isInf, Float.Model.isInf]
  cases unpacked : x.toModel.unpack <;>
    simp_all [Float.Model.UnpackedFloat.isFinite, Float.Model.UnpackedFloat.isInf]

/-- The text of the digits of a value, without its sign. -/
def Layout.body (layout : Layout) (d : Digits) : String :=
  let power := d.exponent + (digitCount d.digits : Int) - 1
  if d.digits = 0 || (layout.least ≤ power && power < layout.bound) then
    positional layout.pointZero d
  else scientific layout.plus d

theorem Layout.write_eq (layout : Layout) {x : Float} (finite : x.isFinite = true) :
    layout.write x = (if isNegative x then "-" else "") ++ layout.body (shortest x) := by
  rw [Layout.write, not_isNaN_of_isFinite finite, not_isInf_of_isFinite finite]
  exact (apply_ite ((if isNegative x then "-" else "") ++ ·) _ _ _).symm

/-- Whatever the layout, the text of some digits is read as the same number. -/
theorem Layout.numeral?_body (layout : Layout) (d : Digits) :
    (numeral? (layout.body d).toList).map Digits.value = some d.value := by
  rw [Layout.body]
  split
  · exact numeral?_positional _ d
  · rw [numeral?_scientific]
    rfl

/-- Whether a character can occur in a numeral. -/
def isNumeric (c : Char) : Bool := c.isDigit || c == '.' || c == 'e' || c == '+' || c == '-'

theorem isNumeric_of_isDigit {c : Char} (digit : c.isDigit = true) : isNumeric c = true := by
  rw [isNumeric, digit]
  rfl

/-- Whether a text begins with a digit and has no characters but those of numerals. -/
structure IsBody (cs : List Char) : Prop where
  first : ∃ c ∈ cs.head?, c.isDigit = true
  numeric : ∀ c ∈ cs, isNumeric c = true

theorem IsBody.of_append {digits rest : List Char} (filled : digits ≠ [])
    (all : ∀ c ∈ digits, c.isDigit) (numeric : ∀ c ∈ rest, isNumeric c = true) :
    IsBody (digits ++ rest) where
  first := by
    obtain ⟨c, cs, rfl⟩ := List.exists_cons_of_ne_nil filled
    exact ⟨c, rfl, all c (.head cs)⟩
  numeric := List.forall_mem_append.mpr ⟨fun c member => isNumeric_of_isDigit (all c member), numeric⟩

theorem isBody_positional (pointZero : Bool) (d : Digits) :
    IsBody (positional pointZero d).toList := by
  rcases le_or_gt 0 d.exponent with whole | fractional
  · rw [positional_of_nonneg pointZero whole, List.append_assoc]
    refine .of_append Nat.toDigits_ne_nil isDigit_of_mem_toDigits
      (List.forall_mem_append.mpr ⟨?_, ?_⟩)
    · exact fun c member => List.eq_of_mem_replicate member ▸ rfl
    · cases pointZero with
      | false => simp
      | true => simp [isNumeric]
  · obtain ⟨whole, fraction, text, filled, digits, more, -, -⟩ :=
      positional_of_neg pointZero fractional
    rw [text]
    exact .of_append filled digits (List.forall_mem_cons.mpr
      ⟨rfl, fun c member => isNumeric_of_isDigit (more c member)⟩)

theorem isBody_scientific (plus : Bool) (d : Digits) : IsBody (scientific plus d).toList := by
  obtain ⟨c, cs, text, first⟩ := exists_toDigits d.digits
  have digits : ∀ c' ∈ c :: cs, c'.isDigit := text ▸ isDigit_of_mem_toDigits
  have exponent : ∀ e ∈ exponentChars plus (d.exponent + cs.length), isNumeric e = true := by
    rw [exponentChars, List.forall_mem_cons, List.forall_mem_append]
    refine ⟨rfl, ?_, fun e member => isNumeric_of_isDigit (isDigit_of_mem_toDigits e member)⟩
    split
    · cases plus <;> simp [isNumeric]
    · simp [isNumeric]
  have fraction : ∀ e ∈ if cs = [] then [] else '.' :: cs, isNumeric e = true := by
    split
    · nofun
    · exact List.forall_mem_cons.mpr
        ⟨rfl, fun e member => isNumeric_of_isDigit (digits e (.tail c member))⟩
  have one : ∀ c' ∈ [c], c'.isDigit := List.forall_mem_singleton.mpr first
  rw [toList_scientific plus text]
  have whole := IsBody.of_append (List.cons_ne_nil c []) one
    (List.forall_mem_append.mpr ⟨fraction, exponent⟩)
  exact whole

theorem Layout.isBody (layout : Layout) (d : Digits) : IsBody (layout.body d).toList := by
  rw [Layout.body]
  split
  · exact isBody_positional _ d
  · exact isBody_scientific _ d

/-- The sign of a numeral, and the number that the rest of it stands for. -/
def signed? (cs : List Char) : Option (Bool × ℚ) :=
  (numeral? (sign cs).2).map fun d => ((sign cs).1, d.value)

/-- What is written of a finite value is its sign and its shortest digits. -/
theorem Layout.signed?_write (layout : Layout) {x : Float} (finite : x.isFinite = true) :
    signed? (layout.write x).toList = some (isNegative x, (shortest x).value) := by
  obtain ⟨d, read, value⟩ := Option.map_eq_some_iff.mp (layout.numeral?_body (shortest x))
  obtain ⟨c, first, digit⟩ := (layout.isBody (shortest x)).first
  obtain ⟨cs, text⟩ := List.head?_eq_some_iff.mp first
  rw [layout.write_eq finite, String.toList_append, signed?]
  rw [text] at read ⊢
  cases isNegative x with
  | false => simp [sign_of_digit digit, read, value]
  | true => simp [sign, read, value]

/-- Two finite values with one text are equal, the two zeros included, which differ in their sign. -/
theorem Layout.write_injective (layout : Layout) {x y : Float} (finite : x.isFinite = true)
    (finite' : y.isFinite = true) (same : layout.write x = layout.write y) : x = y := by
  have read := layout.signed?_write finite
  rw [same, layout.signed?_write finite', Option.some.injEq, Prod.mk.injEq] at read
  exact eq_of_magnitude read.1.symm (ofBits_eq_of_value_shortest read.2.symm)

/-- The characters of the text of a finite value are those of numerals. -/
theorem Layout.isNumeric_of_mem_write (layout : Layout) {x : Float} (finite : x.isFinite = true) :
    ∀ c ∈ (layout.write x).toList, isNumeric c = true := by
  rw [layout.write_eq finite, String.toList_append, List.forall_mem_append]
  refine ⟨?_, (layout.isBody (shortest x)).numeric⟩
  split <;> simp [isNumeric]

/-- The text of a finite value begins with its sign or a digit. -/
theorem Layout.head?_write (layout : Layout) {x : Float} (finite : x.isFinite = true) :
    ∃ c ∈ (layout.write x).toList.head?, c = '-' ∨ c.isDigit = true := by
  obtain ⟨c, first, digit⟩ := (layout.isBody (shortest x)).first
  rw [layout.write_eq finite, String.toList_append]
  split
  · exact ⟨'-', rfl, .inl rfl⟩
  · exact ⟨c, first, .inr digit⟩

theorem point_mem_positional (d : Digits) : '.' ∈ (positional true d).toList := by
  rcases le_or_gt 0 d.exponent with whole | fractional
  · rw [positional_of_nonneg true whole]
    exact List.mem_append_right _ List.mem_cons_self
  · obtain ⟨whole, fraction, text, -⟩ := positional_of_neg true fractional
    rw [text]
    exact List.mem_append_right _ List.mem_cons_self

theorem point_or_exponent_mem_body (d : Digits) :
    '.' ∈ (json.body d).toList ∨ 'e' ∈ (json.body d).toList := by
  have pointed : json.pointZero = true := rfl
  rw [Layout.body]
  split
  · rw [pointed]
    exact .inl (point_mem_positional d)
  · obtain ⟨c, cs, text, -⟩ := exists_toDigits d.digits
    rw [toList_scientific _ text]
    exact .inr (List.mem_append_right _ List.mem_cons_self)

/-- A numeral of JSON for a floating-point number has a point or an exponent. -/
theorem point_or_exponent_mem_write {x : Float} (finite : x.isFinite = true) :
    '.' ∈ (json.write x).toList ∨ 'e' ∈ (json.write x).toList := by
  rw [json.write_eq finite, String.toList_append, List.mem_append, List.mem_append]
  exact (point_or_exponent_mem_body (shortest x)).imp .inr .inr

end Harvest.Decimal
