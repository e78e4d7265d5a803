import Mathlib
import Harvest.XPath.Token
import Harvest.Proofs.Decimal.Numeral

/-!
# Whole numbers as floating-point numbers

A floating-point number of double width has fifty-three binary digits.  Whole numbers with at most
so many digits are converted without loss, and their floating-point numbers are as different as they
are.  From `2 ^ 53` on the last digit stands for more than a unit, so no larger number is taken for
one of these, but larger numbers may be taken for each other.
-/

namespace Harvest.Binary64

open Float.Model (Format totalExponent UnpackedFloat)
open Float.Model.UnpackedFloat

/-! ## Significands of full width -/

/-- Whether a significand has all fifty-three digits. -/
structure IsFull (m : Nat) : Prop where
  le : 2 ^ 52 ≤ m
  lt : m < 2 ^ 53

variable {m n s : Nat} {e : Int}

theorem IsFull.pos (full : IsFull m) : 0 < m :=
  (by decide : 0 < 2 ^ 52).trans_le full.le

theorem IsFull.log2_eq (full : IsFull m) : m.log2 = 52 :=
  (Nat.log2_eq_iff full.pos.ne').mpr ⟨full.le, full.lt⟩

theorem log2_scaled (positive : 0 < m) (s : Nat) : (m * 2 ^ s).log2 = m.log2 + s := by
  rw [Nat.log2_eq_iff (by positivity)]
  have below := Nat.log2_self_le positive.ne'
  have above : m < 2 ^ (m.log2 + 1) := Nat.lt_log2_self
  rw [Nat.add_right_comm, Nat.pow_add, Nat.pow_add _ _ s]
  exact ⟨Nat.mul_le_mul_right _ below, Nat.mul_lt_mul_of_pos_right above (Nat.two_pow_pos s)⟩

/-- A short number is written with fifty-three digits by zeros behind it. -/
theorem isFull_scaled (positive : 0 < n) (small : n < 2 ^ 53) :
    IsFull (n * 2 ^ (52 - n.log2)) := by
  have digits : n.log2 < 53 := (Nat.log2_lt positive.ne').mpr small
  have width : (n * 2 ^ (52 - n.log2)).log2 = 52 := by
    rw [log2_scaled positive]
    omega
  obtain ⟨below, above⟩ := (Nat.log2_eq_iff (by positivity)).mp width
  exact ⟨below, above⟩

/-- A long number has fifty-three digits when others are cut off behind them. -/
theorem isFull_div (digits : m.log2 = 52 + s) : IsFull (m / 2 ^ s) := by
  have positive : m ≠ 0 := by
    rintro rfl
    rw [Nat.log2_zero] at digits
    omega
  obtain ⟨below, above⟩ := (Nat.log2_eq_iff positive).mp digits
  constructor
  · rwa [Nat.le_div_iff_mul_le (Nat.two_pow_pos s), ← Nat.pow_add]
  · rw [Nat.div_lt_iff_lt_mul (Nat.two_pow_pos s), ← Nat.pow_add]
    rwa [Nat.add_right_comm] at above

/-! ## Rounding -/

/-- The exponent that a significand with `52 + s` digits behind the first is rounded to. -/
theorem targetExponent_eq (digits : m.log2 = 52 + s) (normal : -1074 ≤ e + s) :
    Format.binary64.targetExponent (totalExponent m e) = e + s := by
  simp only [Format.targetExponent, totalExponent, digits, Format.mantissaBits,
    Format.minExponent]
  omega

theorem mantissa_shiftRight (em : ExtendedMantissa) (s : Nat) :
    (em >>> s).mantissa = em.mantissa / 2 ^ s := by
  induction s with
  | zero => exact (Nat.div_one _).symm
  | succ s ih =>
      have last : (em >>> (s + 1)).mantissa = (em >>> s).mantissa / 2 := rfl
      rw [last, ih, Nat.div_div_eq_div_mul, Nat.pow_succ]

/-- Nothing is lost with zeros. -/
theorem shiftRight_scaled (m s : Nat) :
    (⟨m * 2 ^ s, false, false⟩ : ExtendedMantissa) >>> s = ⟨m, false, false⟩ := by
  induction s generalizing m with
  | zero =>
      rw [Nat.pow_zero, Nat.mul_one]
      rfl
  | succ s ih =>
      have last : (⟨m * 2 ^ (s + 1), false, false⟩ : ExtendedMantissa) >>> (s + 1) =
          ((⟨m * 2 ^ (s + 1), false, false⟩ : ExtendedMantissa) >>> s).shiftRightOne := rfl
      have twice : m * 2 ^ (s + 1) = m * 2 * 2 ^ s := by rw [Nat.pow_succ']; ring
      rw [last, twice, ih]
      simp [ExtendedMantissa.shiftRightOne]

/-- A significand without its last `s` digits, rounded. -/
def rounded (m s : Nat) : Nat := ((⟨m, false, false⟩ : ExtendedMantissa) >>> s).roundedMantissa

theorem rounded_eq (m s : Nat) :
    ((⟨m, false, false⟩ : ExtendedMantissa) >>> s).roundedMantissa = rounded m s := rfl

theorem rounded_scaled (m s : Nat) : rounded (m * 2 ^ s) s = m := by
  rw [rounded, shiftRight_scaled]
  rfl

theorem rounded_bounds (m s : Nat) : m / 2 ^ s ≤ rounded m s ∧ rounded m s ≤ m / 2 ^ s + 1 := by
  have exact : ((⟨m, false, false⟩ : ExtendedMantissa) >>> s).mantissa = m / 2 ^ s :=
    mantissa_shiftRight _ s
  rw [rounded, ← exact]
  obtain ⟨q, round, sticky⟩ := (⟨m, false, false⟩ : ExtendedMantissa) >>> s
  cases round <;> cases sticky <;>
    simp only [ExtendedMantissa.roundedMantissa, ExtendedMantissa.accuracy,
      Accuracy.roundToNearestEven] <;> omega

theorem shiftToTargetExponent_eq (digits : m.log2 = 52 + s) (normal : -1074 ≤ e + s) :
    shiftToTargetExponent Format.binary64 m e .exact =
      ((⟨m, false, false⟩ : ExtendedMantissa) >>> s, e + s) := by
  have amount : (e + s - e).toNat = s := by omega
  rw [shiftToTargetExponent, shiftToExponent, targetExponent_eq digits normal, amount]
  rfl

/-- A significand that has full width once it is rounded is not shifted again. -/
theorem roundWithAccuracy_of_isFull (digits : m.log2 = 52 + s) (normal : -1074 ≤ e + s)
    (full : IsFull (rounded m s)) :
    roundWithAccuracy Format.binary64 .positive m e .exact =
      .finite .positive (rounded m s) (e + s) full.pos := by
  have again : shiftToTargetExponent Format.binary64 (rounded m s) (e + s) .exact =
      (⟨rounded m s, false, false⟩, e + s) := by
    rw [shiftToTargetExponent_eq (s := 0) full.log2_eq (by simpa using normal), Int.natCast_zero,
      Int.add_zero]
    rfl
  simp only [roundWithAccuracy, shiftToTargetExponent_eq digits normal, rounded_eq, again,
    full.pos.ne', dite_false]

/-- A significand of full width stays as it is, whatever zeros are behind it. -/
theorem roundWithAccuracy_scaled (full : IsFull m) (s : Nat) {f : Int} (target : e + s = f)
    (normal : -1074 ≤ f) :
    roundWithAccuracy Format.binary64 .positive (m * 2 ^ s) e .exact =
      .finite .positive m f full.pos := by
  subst target
  have digits : (m * 2 ^ s).log2 = 52 + s := by rw [log2_scaled full.pos, full.log2_eq]
  have same := rounded_scaled m s
  rw [roundWithAccuracy_of_isFull digits normal (same.symm ▸ full), UnpackedFloat.finite.injEq]
  exact ⟨rfl, same, rfl⟩

/-- A carry in all digits leaves a one with a larger exponent. -/
theorem roundWithAccuracy_of_carry (digits : m.log2 = 52 + s) (normal : -1074 ≤ e + s)
    (carry : rounded m s = 2 ^ 53) :
    roundWithAccuracy Format.binary64 .positive m e .exact =
      .finite .positive (2 ^ 52) (e + s + 1) (by decide) := by
  have again : shiftToTargetExponent Format.binary64 (2 ^ 53) (e + s) .exact =
      (⟨2 ^ 52, false, false⟩, e + s + 1) := by
    rw [shiftToTargetExponent_eq (s := 1) (by decide) (by omega)]
    rfl
  simp only [roundWithAccuracy, shiftToTargetExponent_eq digits normal, rounded_eq, carry, again]
  rfl

/-- Rounding to full width keeps at least the exponent that the width asks for. -/
theorem exists_roundWithAccuracy (digits : m.log2 = 52 + s) (normal : -1074 ≤ e + s) :
    ∃ (q : Nat) (full : IsFull q) (f : Int), e + s ≤ f ∧
      roundWithAccuracy Format.binary64 .positive m e .exact = .finite .positive q f full.pos := by
  obtain ⟨below, above⟩ := isFull_div digits
  obtain ⟨low, high⟩ := rounded_bounds m s
  rcases (high.trans above).lt_or_eq with small | carry
  · have full : IsFull (rounded m s) := ⟨below.trans low, small⟩
    exact ⟨_, full, _, le_rfl, roundWithAccuracy_of_isFull digits normal full⟩
  · have full : IsFull (2 ^ 52) := ⟨le_rfl, by decide⟩
    exact ⟨_, full, _, Int.le_add_one le_rfl, roundWithAccuracy_of_carry digits normal carry⟩

/-! ## Packing -/

theorem unpackSign_packComponents (exponent : BitVec Format.binary64.exponentBits)
    (mantissa : BitVec Format.binary64.mantissaBitsWithoutImplicit) :
    unpackSign (packComponents Format.binary64 .positive exponent mantissa) = 0#1 := by
  change ((0#1 ++ exponent) ++ mantissa).extractLsb' 63 1 = 0#1
  rw [BitVec.extractLsb'_append_eq_of_le (by decide),
    BitVec.extractLsb'_append_eq_of_le (by decide)]
  rfl

/-- The bits of a normal number tell its significand and its exponent. -/
theorem unpack_pack (full : IsFull m) (normal : -1074 ≤ e) (fits : e ≤ 971) :
    unpack Format.binary64 (pack Format.binary64 (.finite .positive m e full.pos)) =
      .finite .positive m e full.pos := by
  obtain ⟨biased, rfl⟩ : ∃ b : Nat, e = b - 1075 := ⟨(e + 1075).toNat, by omega⟩
  have sum : ((biased : Int) - 1075 + Format.binary64.exponentBias +
      Format.binary64.mantissaBitsWithoutImplicit).toNat = biased := by
    change ((biased : Int) - 1075 + 1023 + 52).toNat = biased
    omega
  have finite : ¬ 2 ^ Format.binary64.exponentBits ≤ biased + 1 := by
    change ¬ 2048 ≤ biased + 1
    omega
  have width : m.log2 + 1 = Format.binary64.mantissaBits := by rw [full.log2_eq]; rfl
  have exponent : (BitVec.ofNat 11 biased).toNat = biased := by
    rw [BitVec.toNat_ofNat]
    omega
  have notInfinite : BitVec.ofNat 11 biased ≠ -1#11 := by
    rw [Ne, BitVec.toNat_eq, exponent]
    change ¬ biased = 2047
    omega
  have notSubnormal : BitVec.ofNat 11 biased ≠ 0#11 := by
    rw [Ne, BitVec.toNat_eq, exponent]
    change ¬ biased = 0
    omega
  -- the first digit, which is not stored, is a one
  have significand : (1#1 ++ BitVec.ofNat 52 m).toNat = m := by
    obtain ⟨low, high⟩ := full
    rw [BitVec.toNat_append, BitVec.toNat_ofNat, BitVec.toNat_ofNat,
      ← Nat.shiftLeft_add_eq_or_of_lt (Nat.mod_lt _ (Nat.two_pow_pos 52)), Nat.shiftLeft_eq]
    omega
  simp only [pack, sum, if_neg finite, if_pos width, unpack, unpackMantissa_packComponents,
    unpackExponent_packComponents, unpackSign_packComponents]
  rw [if_neg notInfinite, if_neg notSubnormal, UnpackedFloat.finite.injEq, exponent]
  exact ⟨rfl, significand, rfl⟩

/-- Numbers that are too large are packed as infinite. -/
theorem unpack_pack_of_large (positive : 0 < m) (large : 971 < e) :
    unpack Format.binary64 (pack Format.binary64 (.finite .positive m e positive)) =
      .infinity .positive := by
  have infinite : 2 ^ Format.binary64.exponentBits ≤ (e + Format.binary64.exponentBias +
      Format.binary64.mantissaBitsWithoutImplicit).toNat + 1 := by
    change 2048 ≤ (e + 1023 + 52).toNat + 1
    omega
  rw [pack, if_pos infinite]
  rfl

/-! ## Conversions -/

theorem ofNat_of_small (small : n < 2 ^ 53) :
    Float.ofNat n = n.toUInt64.toFloat * Float.ofBits 0x3FF0000000000000 := by
  change Float.ofScientific n false 0 = _
  rw [Float.ofScientific, dif_pos ⟨small, by decide⟩]
  rfl

theorem ofNat_of_large (large : 2 ^ 53 ≤ n) :
    Float.ofNat n = .ofModel (Float.Model.ofScientific n 0) := by
  change Float.ofScientific n false 0 = _
  rw [Float.ofScientific, dif_neg (by omega)]
  rfl

/-- The significand and the exponent of a whole number that is not rounded. -/
theorem ofNat_eq_finite (positive : 0 < n) (small : n < 2 ^ 53) :
    UnpackedFloat.ofNat Format.binary64 n =
      .finite .positive (n * 2 ^ (52 - n.log2)) (n.log2 - 52)
        (isFull_scaled positive small).pos := by
  have digits : n.log2 < 53 := (Nat.log2_lt positive.ne').mpr small
  have target : Format.binary64.targetExponent (totalExponent n 0) = n.log2 - 52 := by
    simp only [Format.targetExponent, totalExponent, Format.mantissaBits, Format.minExponent]
    omega
  have amount : (0 - ((n.log2 : Int) - 52)).toNat = 52 - n.log2 := by omega
  have greater : compare (n : Int) 0 = .gt := Int.compare_eq_gt.mpr (by omega)
  have exact := roundWithAccuracy_scaled (e := 0 - (52 - n.log2 : Nat))
    (isFull_scaled positive small) 0 (f := n.log2 - 52) (by omega) (by omega)
  rw [Nat.pow_zero, Nat.mul_one] at exact
  simp only [UnpackedFloat.ofNat, UnpackedFloat.ofInt, UnpackedFloat.normalize, greater,
    UnpackedFloat.round, Int.toNat_natCast, target, decreaseExponent, amount, Nat.shiftLeft_eq]
  exact exact

theorem unpack_toFloat (positive : 0 < n) (small : n < 2 ^ 53) :
    n.toUInt64.toFloat.toModel.unpack =
      .finite .positive (n * 2 ^ (52 - n.log2)) (n.log2 - 52)
        (isFull_scaled positive small).pos := by
  have digits : n.log2 < 53 := (Nat.log2_lt positive.ne').mpr small
  have whole : n.toUInt64.toNat = n := by
    rw [UInt64.toNat_ofNat']
    omega
  have value : UnpackedFloat.ofUInt64 Format.binary64 n.toUInt64 = _ :=
    (congrArg _ whole).trans (ofNat_eq_finite positive small)
  have packed : n.toUInt64.toFloat.toModel.unpack =
      unpack Format.binary64 (pack Format.binary64
        (UnpackedFloat.ofUInt64 Format.binary64 n.toUInt64)) := rfl
  rw [packed, value, unpack_pack (isFull_scaled positive small) (by omega) (by omega)]

/-- A whole number of at most fifty-three digits is converted without loss. -/
theorem unpack_ofNat_of_small (positive : 0 < n) (small : n < 2 ^ 53) :
    (Float.ofNat n).toModel.unpack =
      .finite .positive (n * 2 ^ (52 - n.log2)) (n.log2 - 52)
        (isFull_scaled positive small).pos := by
  have full := isFull_scaled positive small
  have digits : n.log2 < 53 := (Nat.log2_lt positive.ne').mpr small
  have one : (Float.ofBits 0x3FF0000000000000).toModel.unpack =
      .finite .positive (2 ^ 52) (-52) (by decide) := rfl
  have product : UnpackedFloat.mul Format.binary64
      (.finite .positive (n * 2 ^ (52 - n.log2)) (n.log2 - 52) full.pos)
      (.finite .positive (2 ^ 52) (-52) (by decide)) =
        .finite .positive (n * 2 ^ (52 - n.log2)) (n.log2 - 52) full.pos :=
    roundWithAccuracy_scaled full 52 (by omega) (by omega)
  have packed : (Float.ofNat n).toModel.unpack =
      unpack Format.binary64 (pack Format.binary64 (UnpackedFloat.mul Format.binary64
        n.toUInt64.toFloat.toModel.unpack (Float.ofBits 0x3FF0000000000000).toModel.unpack)) := by
    rw [ofNat_of_small small]
    rfl
  rw [packed, unpack_toFloat positive small, one, product, unpack_pack full (by omega) (by omega)]

/-- From there on the last digit stands for two or more, or the number is infinite. -/
theorem unpack_ofNat_of_large (large : 2 ^ 53 ≤ n) :
    (Float.ofNat n).toModel.unpack = .infinity .positive ∨
      ∃ (m : Nat) (full : IsFull m) (e : Int), 1 ≤ e ∧
        (Float.ofNat n).toModel.unpack = .finite .positive m e full.pos := by
  have positive : 0 < n := by omega
  have digits : 53 ≤ n.log2 := (Nat.le_log2 positive.ne').mpr large
  have scaled : (n <<< 53 * 10 ^ (0 : Int).toNat).log2 = 52 + (n.log2 + 1) := by
    rw [Nat.shiftLeft_eq, Int.toNat_zero, Nat.pow_zero, Nat.mul_one, log2_scaled positive]
    omega
  obtain ⟨m, full, e, low, rounding⟩ := exists_roundWithAccuracy (e := -53 + 0) scaled (by omega)
  have tall : ¬ 0 < -((2 ^ Format.binary64.exponentBits : Int) + n.log2) := by
    change ¬ 0 < -((2048 : Int) + n.log2)
    omega
  have value : UnpackedFloat.ofScientific Format.binary64 n 0 = .finite .positive m e full.pos := by
    rw [UnpackedFloat.ofScientific, dif_neg positive.ne', if_neg (by decide), if_neg tall,
      if_pos le_rfl]
    exact rounding
  have packed : (Float.ofNat n).toModel.unpack =
      unpack Format.binary64 (pack Format.binary64 (.finite .positive m e full.pos)) := by
    rw [ofNat_of_large large, ← value]
    rfl
  rw [packed]
  rcases lt_or_ge 971 e with infinite | finite
  · exact .inl (unpack_pack_of_large full.pos infinite)
  · exact .inr ⟨m, full, e, by omega, unpack_pack full (by omega) finite⟩

/-! ## Numerals -/

/-- The digits of a whole number write the number nearest to it. -/
theorem numeralValue_toDigits (positive : 0 < n) (short : (Nat.toDigits 10 n).length ≤ 400) :
    XPath.Token.numeralValue (Nat.toDigits 10 n) = Float.ofNat n := by
  have run : Decimal.digitRun 0 0 (Nat.toDigits 10 n) = (n, (Nat.toDigits 10 n).length, []) := by
    rw [Decimal.digitRun_eq Decimal.isDigit_of_mem_toDigits, Nat.ofDigitChars_ten_toDigits,
      Nat.zero_add]
  have scaled : Decimal.scale n 0 = Float.ofNat n := by
    rw [Decimal.scale, if_neg positive.ne', if_neg (by omega), if_neg (by omega),
      if_neg (by omega)]
    rfl
  have some : (Nat.toDigits 10 n).length ≠ 0 := Nat.length_toDigits_pos.ne'
  rw [XPath.Token.numeralValue, Decimal.magnitude?, run]
  dsimp only
  rw [if_neg some, Decimal.exponent?, Option.map_some, scaled, Option.getD_some]

/-! ## Comparisons -/

theorem beq_eq (x y : Float) :
    (x == y) = (x.toModel.unpack.compare y.toModel.unpack == some .eq) := rfl

theorem compare_finite_eq_iff {q r : Nat} {f : Int} (first : 0 < q) (second : 0 < r) :
    UnpackedFloat.compare (.finite .positive q e first) (.finite .positive r f second) = some .eq ↔
      e = f ∧ q = r := by
  simp only [UnpackedFloat.compare, Option.some.injEq, Ordering.then_eq_eq, compare_eq_iff_eq]

/-- A whole number is equal to itself as a floating-point number. -/
theorem ofNat_beq_self (positive : 0 < n) : Float.ofNat n == Float.ofNat n := by
  rw [beq_eq, beq_iff_eq]
  rcases lt_or_ge n (2 ^ 53) with small | large
  · rw [unpack_ofNat_of_small positive small, compare_finite_eq_iff]
    exact ⟨rfl, rfl⟩
  · rcases unpack_ofNat_of_large large with infinite | ⟨q, full, e, -, finite⟩
    · rw [infinite]
      rfl
    · rw [finite, compare_finite_eq_iff]
      exact ⟨rfl, rfl⟩

/-- A whole number of at most fifty-three digits is not taken for any other whole number. -/
theorem ofNat_beq_iff_of_lt (first : 0 < m) (second : 0 < n) (small : n < 2 ^ 53) :
    Float.ofNat m == Float.ofNat n ↔ m = n := by
  refine ⟨fun equal => ?_, fun same => same ▸ ofNat_beq_self first⟩
  rw [beq_eq, beq_iff_eq, unpack_ofNat_of_small second small] at equal
  have digits : n.log2 < 53 := (Nat.log2_lt second.ne').mpr small
  rcases lt_or_ge m (2 ^ 53) with short | long
  · rw [unpack_ofNat_of_small first short, compare_finite_eq_iff] at equal
    obtain ⟨exponents, significands⟩ := equal
    have width : m.log2 = n.log2 := by omega
    rw [width] at significands
    exact Nat.eq_of_mul_eq_mul_right (Nat.two_pow_pos _) significands
  · rcases unpack_ofNat_of_large long with infinite | ⟨q, full, e, high, finite⟩
    · rw [infinite] at equal
      cases equal
    · rw [finite, compare_finite_eq_iff] at equal
      omega

/-- Two different whole numbers are told apart if one of them has at most fifty-three digits. -/
theorem ofNat_beq_iff (first : 0 < m) (second : 0 < n) (small : m < 2 ^ 53 ∨ n < 2 ^ 53 ∨ m = n) :
    Float.ofNat m == Float.ofNat n ↔ m = n := by
  rcases small with short | short | rfl
  · rw [BEq.comm, ofNat_beq_iff_of_lt second first short, eq_comm]
  · exact ofNat_beq_iff_of_lt first second short
  · exact ⟨fun _ => rfl, fun _ => ofNat_beq_self first⟩

end Harvest.Binary64
