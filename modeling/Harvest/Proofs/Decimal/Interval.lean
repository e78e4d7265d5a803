import Mathlib
import Harvest.Decimal.Layout

/-!
# The numbers that round to a value

The shortest digits of a positive value lie in the interval of the numbers that round to it.  There
are always such digits on the grids that are searched, since the finest of these is finer than half
of the distance to the next value above.  The intervals of two values have no number in common: where
they meet, only the one with the even mantissa has the bound.  So digits that lie in the interval of
a value determine it, and together with the sign all its bits.
-/

namespace Harvest.Decimal

/-- The number that digits stand for. -/
def Digits.value (d : Digits) : ℚ := d.digits * (10 : ℚ) ^ d.exponent

/-- All digits of a number but the first stand for no more than the number. -/
theorem pow_digitCount_le {n : Nat} (positive : 0 < n) : 10 ^ (digitCount n - 1) ≤ n := by
  rcases Nat.eq_zero_or_pos (digitCount n - 1) with one | more
  · rw [one]
    exact positive
  · have long : ¬digitCount n ≤ digitCount n - 1 := by omega
    exact not_lt.mp (mt (Nat.length_toDigits_le_iff (by decide) more).mpr long)

namespace Binary

variable {b c : Binary} {v : ℚ} {k : Int}

/-- The number that a mantissa and an exponent stand for. -/
def value (b : Binary) : ℚ := b.mantissa * (2 : ℚ) ^ b.exponent

/-- A quarter of a unit of the mantissa. -/
def quarter (b : Binary) : ℚ := (2 : ℚ) ^ (b.exponent - 2)

/-- The lower bound of the interval of a value, in quarters. -/
def low (b : Binary) : Nat := 4 * b.mantissa - if b.edge then 1 else 2

/-- The upper bound of the interval of a value, in quarters. -/
def high (b : Binary) : Nat := 4 * b.mantissa + 2

/-- Whether a number rounds to a value: it lies between the bounds, and is one of them only if the
mantissa is even. -/
def Admits (b : Binary) (v : ℚ) : Prop :=
  if b.mantissa % 2 = 0 then b.low * b.quarter ≤ v ∧ v ≤ b.high * b.quarter
  else b.low * b.quarter < v ∧ v < b.high * b.quarter

/-- Whether a value is written as binary64 writes it: the mantissa has fifty-three digits unless the
exponent is the least one, and the neighbour below is nearer exactly where the exponent changes. -/
structure IsCanonical (b : Binary) : Prop where
  short : b.mantissa < 2 ^ 53
  least : -1074 ≤ b.exponent
  full : -1074 < b.exponent → 2 ^ 52 ≤ b.mantissa
  edge_iff : b.edge = true ↔ b.mantissa = 2 ^ 52 ∧ -1074 < b.exponent

theorem quarter_pos (b : Binary) : 0 < b.quarter := zpow_pos (by norm_num) _

theorem isCanonical_ofBits (bits : UInt64) : IsCanonical (ofBits bits) := by
  have fraction : bits.toNat % 0x10000000000000 < 2 ^ 52 := Nat.mod_lt _ (by decide)
  rw [ofBits]
  split
  · next denormal => exact ⟨by dsimp only; omega, le_rfl, by simp, by simp⟩
  · next normal =>
      refine ⟨by dsimp only; omega, by dsimp only; omega, fun _ => by dsimp only; omega, ?_⟩
      simp only [Bool.and_eq_true, decide_eq_true_eq]
      omega

/-! ## Intervals of different values -/

theorem Admits.bounds (within : b.Admits v) :
    b.low * b.quarter ≤ v ∧ v ≤ b.high * b.quarter := by
  rw [Admits] at within
  split at within
  · exact within
  · exact ⟨within.1.le, within.2.le⟩

theorem Admits.strict (within : b.Admits v) (odd : b.mantissa % 2 = 1) :
    b.low * b.quarter < v ∧ v < b.high * b.quarter := by
  rwa [Admits, if_neg (by omega)] at within

/-- Two intervals have nothing in common if one ends before the other begins, or if they meet and one
of the mantissas is odd. -/
theorem not_admits_of_apart {s : Nat} (scaled : c.quarter = 2 ^ s * b.quarter)
    (apart : b.high ≤ c.low * 2 ^ s)
    (meet : b.high = c.low * 2 ^ s → b.mantissa % 2 = 1 ∨ c.mantissa % 2 = 1)
    (first : b.Admits v) (second : c.Admits v) : False := by
  have start : (c.low : ℚ) * c.quarter = (c.low * 2 ^ s : Nat) * b.quarter := by
    rw [scaled]
    push_cast
    ring
  have between : (c.low * 2 ^ s : Nat) * b.quarter ≤ (b.high : ℚ) * b.quarter :=
    (start.symm.le.trans second.bounds.1).trans first.bounds.2
  have same : b.high = c.low * 2 ^ s :=
    apart.antisymm (Nat.cast_le.mp (le_of_mul_le_mul_right between b.quarter_pos))
  rw [← same] at start
  rcases meet same with odd | odd
  · exact absurd (start ▸ second.bounds.1) (not_le.mpr (first.strict odd).2)
  · exact absurd first.bounds.2 (not_le.mpr (start ▸ (second.strict odd).1))

theorem quarter_eq (order : b.exponent ≤ c.exponent) :
    c.quarter = 2 ^ (c.exponent - b.exponent).toNat * b.quarter := by
  rw [quarter, quarter, ← zpow_natCast, ← zpow_add₀ (by norm_num)]
  congr 1
  omega

theorem IsCanonical.eq_of_fields (first : b.IsCanonical) (second : c.IsCanonical)
    (mantissas : b.mantissa = c.mantissa) (exponents : b.exponent = c.exponent) : b = c := by
  have edges : b.edge = c.edge := by
    rw [Bool.eq_iff_iff, first.edge_iff, second.edge_iff, mantissas, exponents]
  obtain ⟨_, _, _⟩ := b
  obtain ⟨_, _, _⟩ := c
  congr

theorem IsCanonical.eq_of_admits_of_le (first : b.IsCanonical) (second : c.IsCanonical)
    (order : b.exponent ≤ c.exponent) (inFirst : b.Admits v) (inSecond : c.Admits v) : b = c := by
  have scaled := quarter_eq order
  have lowest : 4 * c.mantissa ≤ c.low + 2 := by
    rw [low]
    split <;> omega
  have highest : b.high = 4 * b.mantissa + 2 := rfl
  rcases order.eq_or_lt with same | less
  · -- Neighbours with one exponent meet in the middle, and one of them is odd.
    rw [same, sub_self, Int.toNat_zero] at scaled
    have back : b.quarter = 2 ^ 0 * c.quarter := by
      rw [scaled]
      ring
    have lowest' : 4 * b.mantissa ≤ b.low + 2 := by
      rw [low]
      split <;> omega
    have highest' : c.high = 4 * c.mantissa + 2 := rfl
    rcases lt_trichotomy b.mantissa c.mantissa with below | equal | above
    · exact (not_admits_of_apart scaled (by omega) (by omega) inFirst inSecond).elim
    · exact first.eq_of_fields second equal same
    · exact (not_admits_of_apart back (by omega) (by omega) inSecond inFirst).elim
  · -- A greater exponent begins above all mantissas with the smaller one, the greatest of which is
    -- odd.
    exfalso
    obtain ⟨s, shift⟩ : ∃ s, (c.exponent - b.exponent).toNat = s + 1 :=
      ⟨(c.exponent - b.exponent).toNat - 1, by omega⟩
    rw [shift] at scaled
    have normal : -1074 < c.exponent := first.least.trans_lt less
    have enough : 2 ^ 54 - 1 ≤ c.low := by
      have := second.full normal
      rw [low]
      split
      · omega
      · next inner =>
          have := mt second.edge_iff.mpr inner
          omega
    have twice : c.low * 2 ≤ c.low * 2 ^ (s + 1) := by
      rw [pow_succ']
      exact Nat.mul_le_mul_left _ (Nat.le_mul_of_pos_right 2 (Nat.two_pow_pos s))
    have short := first.short
    exact not_admits_of_apart scaled (by omega) (by omega) inFirst inSecond

/-- There is one way to write zero. -/
theorem IsCanonical.eq_of_zero (first : b.IsCanonical) (second : c.IsCanonical)
    (left : b.mantissa = 0) (right : c.mantissa = 0) : b = c := by
  refine first.eq_of_fields second (left.trans right.symm) ?_
  have := first.full
  have := second.full
  have := first.least
  have := second.least
  omega

/-- A number rounds to one value only. -/
theorem IsCanonical.eq_of_admits (first : b.IsCanonical) (second : c.IsCanonical)
    (inFirst : b.Admits v) (inSecond : c.Admits v) : b = c := by
  rcases le_total b.exponent c.exponent with order | order
  · exact first.eq_of_admits_of_le second order inFirst inSecond
  · exact (second.eq_of_admits_of_le first order inSecond inFirst).symm

/-! ## Grids -/

theorem zpow_eq_div (x : ℚ) (e : Int) : x ^ e = x ^ e.toNat / x ^ (-e).toNat := by
  rcases le_total 0 e with positive | negative
  · have none : (-e).toNat = 0 := by omega
    rw [none, pow_zero, div_one, ← zpow_natCast, Int.toNat_of_nonneg positive]
  · have none : e.toNat = 0 := by omega
    rw [none, pow_zero, one_div, ← zpow_natCast, ← zpow_neg,
      Int.toNat_of_nonneg (by omega), neg_neg]

/-- The step of a grid, multiplied by what makes it and a quarter whole numbers. -/
def point (b : Binary) (k : Int) : Nat :=
  Nat.pow 10 k.toNat * Nat.pow 2 (-(b.exponent - 2)).toNat

/-- A quarter, multiplied by what makes it and the step of a grid whole numbers. -/
def unit (b : Binary) (k : Int) : Nat :=
  Nat.pow 10 (-k).toNat * Nat.pow 2 (b.exponent - 2).toNat

/-- The last point of a grid that is not above the value. -/
def below (b : Binary) (k : Int) : Nat := 4 * b.mantissa * b.unit k / b.point k

/-- Whether a point of a grid lies in the interval, decided with whole numbers. -/
def inside (b : Binary) (k : Int) (n : Nat) : Bool :=
  if b.mantissa % 2 = 0 then
    b.low * b.unit k ≤ n * b.point k && n * b.point k ≤ b.high * b.unit k
  else b.low * b.unit k < n * b.point k && n * b.point k < b.high * b.unit k

/-- Whether the point after the last one that is not above the value is nearer to it than that one, or
as near and even. -/
def nearerAbove (b : Binary) (k : Int) : Bool :=
  let down := 4 * b.mantissa * b.unit k - b.below k * b.point k
  let up := (b.below k + 1) * b.point k - 4 * b.mantissa * b.unit k
  up < down || (up == down && b.below k % 2 == 1)

theorem onGrid?_eq (b : Binary) (k : Int) :
    b.onGrid? k =
      if b.inside k (b.below k) then
        if b.inside k (b.below k + 1) && b.nearerAbove k then some (b.below k + 1)
        else some (b.below k)
      else if b.inside k (b.below k + 1) then some (b.below k + 1)
      else none := rfl

theorem exists_common (b : Binary) (k : Int) :
    ∃ g : ℚ, 0 < g ∧ (b.point k : ℚ) = 10 ^ k * g ∧ (b.unit k : ℚ) = b.quarter * g := by
  refine ⟨10 ^ (-k).toNat * 2 ^ (-(b.exponent - 2)).toNat, by positivity, ?_, ?_⟩
  · rw [zpow_eq_div, point, Nat.cast_mul]
    simp only [Nat.pow_eq, Nat.cast_pow, Nat.cast_ofNat]
    field_simp
  · rw [quarter, zpow_eq_div, unit, Nat.cast_mul]
    simp only [Nat.pow_eq, Nat.cast_pow, Nat.cast_ofNat]
    field_simp

theorem inside_iff (n : Nat) : b.inside k n = true ↔ b.Admits (n * 10 ^ k) := by
  obtain ⟨g, positive, point, unit⟩ := b.exists_common k
  have onPoint : (n * b.point k : Nat) = (n * 10 ^ k) * g := by
    rw [Nat.cast_mul, point]
    ring
  have quarters : ∀ m : Nat, (m * b.unit k : Nat) = (m * b.quarter) * g := fun m => by
    rw [Nat.cast_mul, unit]
    ring
  rw [inside, Admits]
  split <;>
    simp only [Bool.and_eq_true, decide_eq_true_eq, ← Nat.cast_le (α := ℚ),
      ← Nat.cast_lt (α := ℚ), onPoint, quarters, mul_le_mul_iff_left₀ positive,
      mul_lt_mul_iff_left₀ positive]

/-- What is found on a grid rounds to the value. -/
theorem admits_of_onGrid? {n : Nat} (found : b.onGrid? k = some n) : b.Admits (n * 10 ^ k) := by
  rw [← inside_iff]
  rw [onGrid?_eq] at found
  grind

/-- A grid that is finer than half of the distance to the next value above has a point in the
interval, the first one above the value. -/
theorem exists_onGrid? (b : Binary) (fine : (10 : ℚ) ^ k < 2 * b.quarter) :
    ∃ n, b.onGrid? k = some n := by
  obtain ⟨g, positive, point, unit⟩ := b.exists_common k
  have nonzero : 0 < b.point k := by
    rw [← Nat.cast_pos (α := ℚ), point]
    positivity
  have finer : b.point k < 2 * b.unit k := by
    rw [← Nat.cast_lt (α := ℚ), Nat.cast_mul, point, unit, Nat.cast_ofNat, ← mul_assoc]
    exact mul_lt_mul_of_pos_right fine positive
  have next : 4 * b.mantissa * b.unit k < (b.below k + 1) * b.point k := by
    rw [Nat.add_mul, Nat.one_mul]
    exact Nat.lt_div_mul_add nonzero
  have near : (b.below k + 1) * b.point k ≤ 4 * b.mantissa * b.unit k + b.point k := by
    rw [Nat.add_mul, Nat.one_mul]
    exact Nat.add_le_add_right (Nat.div_mul_le_self _ _) _
  have lowest : b.low * b.unit k ≤ 4 * b.mantissa * b.unit k :=
    Nat.mul_le_mul_right _ (Nat.sub_le _ _)
  have highest : b.high * b.unit k = 4 * b.mantissa * b.unit k + 2 * b.unit k := Nat.add_mul _ _ _
  have found : b.inside k (b.below k + 1) = true := by
    rw [inside]
    split <;>
      · rw [Bool.and_eq_true, decide_eq_true_eq, decide_eq_true_eq]
        omega
  rw [onGrid?_eq, found, Bool.true_and, if_pos rfl]
  split
  · split
    · exact ⟨_, rfl⟩
    · exact ⟨_, rfl⟩
  · exact ⟨_, rfl⟩

/-! ## The search -/

theorem low_pos (positive : 0 < b.mantissa) : 0 < b.low := by
  rw [low]
  split <;> omega

/-- A number that rounds to a positive value is positive. -/
theorem Admits.pos (within : b.Admits v) (positive : 0 < b.mantissa) : 0 < v :=
  (mul_pos (Nat.cast_pos.mpr (low_pos positive)) b.quarter_pos).trans_le within.bounds.1

/-- The value in units of the decimal place `w` behind the point, without a fraction. -/
def scaled (b : Binary) (w : Nat) : Nat :=
  b.mantissa * Nat.pow 2 b.exponent.toNat * Nat.pow 10 w / Nat.pow 2 (-b.exponent).toNat

theorem scaled_le (b : Binary) (w : Nat) : (b.scaled w : ℚ) ≤ b.value * 10 ^ w := by
  refine Nat.cast_div_le.trans (le_of_eq ?_)
  rw [value, zpow_eq_div]
  simp only [Nat.pow_eq, Nat.cast_pow, Nat.cast_ofNat, Nat.cast_mul]
  ring

theorem scaled_pos {w : Nat} (positive : 0 < b.mantissa) (least : -(3 * w : Nat) ≤ b.exponent) :
    0 < b.scaled w := by
  refine Nat.div_pos ?_ (Nat.two_pow_pos _)
  calc
    2 ^ (-b.exponent).toNat ≤ 2 ^ (3 * w) := Nat.pow_le_pow_right (by decide) (by omega)
    _ = 8 ^ w := pow_mul 2 3 w
    _ ≤ 10 ^ w := Nat.pow_le_pow_left (by decide) w
    _ ≤ b.mantissa * 2 ^ b.exponent.toNat * 10 ^ w :=
      Nat.le_mul_of_pos_left _ (Nat.mul_pos positive (Nat.two_pow_pos _))

theorem pow_scaled_le {w : Nat} (positive : 0 < b.mantissa) (least : -(3 * w : Nat) ≤ b.exponent) :
    (10 : ℚ) ^ ((digitCount (b.scaled w) : Int) - (w + 1)) ≤ b.value := by
  have digits := pow_digitCount_le (scaled_pos positive least)
  have count : 0 < digitCount (b.scaled w) := Nat.length_toDigits_pos
  have first : (digitCount (b.scaled w) : Int) - (w + 1) =
      ((digitCount (b.scaled w) - 1 : Nat) : Int) - w := by omega
  rw [first, zpow_sub₀ (by norm_num), zpow_natCast, zpow_natCast, div_le_iff₀ (by positivity)]
  refine le_trans ?_ (b.scaled_le w)
  exact_mod_cast digits

/-- The leading digit of a value stands for no more than the value. -/
theorem leading_le (canonical : b.IsCanonical) (positive : 0 < b.mantissa) :
    (10 : ℚ) ^ b.leading ≤ b.value := by
  obtain ⟨w, far, width⟩ : ∃ w : Nat, w = 400 ∧ -(3 * w : Nat) ≤ b.exponent :=
    ⟨400, rfl, le_trans (by decide) canonical.least⟩
  have place : b.leading = (digitCount (b.scaled w) : Int) - (w + 1) := by
    have units : ((w : Int) + 1) = 401 := by omega
    rw [units, leading, scaled, ← far]
  exact place ▸ pow_scaled_le positive width

/-- The finest grid of a search is finer than half of the distance to the next value above. -/
theorem finest_lt (canonical : b.IsCanonical) (positive : 0 < b.mantissa) :
    (10 : ℚ) ^ (b.leading - 17) < 2 * b.quarter := by
  have short : (b.mantissa : ℚ) < 2 ^ 53 := by exact_mod_cast canonical.short
  have leading := leading_le canonical positive
  rw [zpow_sub₀ (by norm_num), div_lt_iff₀ (by positivity)]
  calc
    (10 : ℚ) ^ b.leading ≤ b.mantissa * 2 ^ b.exponent := leading
    _ < 2 ^ 53 * 2 ^ b.exponent := mul_lt_mul_of_pos_right short (by positivity)
    _ = 2 ^ 54 * (2 * b.quarter) := by
      rw [quarter, zpow_sub₀ (by norm_num)]
      ring
    _ ≤ 10 ^ 17 * (2 * b.quarter) := by
      have := b.quarter_pos
      gcongr
      norm_num
    _ = 2 * b.quarter * 10 ^ (17 : Int) := by
      norm_cast
      ring

/-- A search that comes to a fine grid ends with digits that round to the value. -/
theorem admits_search (positive : 0 < b.mantissa) {left j : Nat} (inside : j < left)
    (fine : (10 : ℚ) ^ (k - j) < 2 * b.quarter) : b.Admits (b.search k left).value := by
  induction left generalizing k j with
  | zero => omega
  | succ left ih =>
      rw [search]
      split
      · next n hit =>
          have within := admits_of_onGrid? hit
          have digits : n ≠ 0 := by
            rintro rfl
            exact absurd (within.pos positive) (by simp)
          rw [if_neg digits]
          exact within
      · next miss =>
          -- The fine grid is not this one, on which something would have been found.
          cases j with
          | zero =>
              obtain ⟨n, hit⟩ := b.exists_onGrid? (k := k) (by simpa using fine)
              rw [hit] at miss
              cases miss
          | succ j =>
              refine ih (Nat.lt_of_succ_lt_succ inside) ?_
              have step : k - 1 - j = k - (j + 1 : Nat) := by omega
              rwa [step]

end Binary

namespace Digits

/-- Zeros at the end of the digits are as good as in the exponent. -/
theorem value_strip (d : Digits) (left : Nat) : (d.strip left).value = d.value := by
  induction left generalizing d with
  | zero => rfl
  | succ left ih =>
      rw [strip]
      split
      · next zero =>
          rw [Bool.and_eq_true, decide_eq_true_eq] at zero
          have tens : (d.digits : ℚ) = (d.digits / 10 : Nat) * 10 := by
            exact_mod_cast (Nat.div_mul_cancel (Nat.dvd_of_mod_eq_zero zero.1)).symm
          rw [ih, value, value, tens, zpow_add_one₀ (by norm_num)]
          ring
      · rfl

end Digits

/-! ## Shortest digits -/

/-- The shortest digits of a value round to it. -/
theorem admits_shortest {x : Float} (nonzero : (Binary.ofBits x.toBits).mantissa ≠ 0) :
    (Binary.ofBits x.toBits).Admits (shortest x).value := by
  have canonical := Binary.isCanonical_ofBits x.toBits
  have positive := Nat.pos_of_ne_zero nonzero
  rw [shortest, if_neg nonzero, Digits.value_strip]
  exact Binary.admits_search positive (j := 17) (by decide)
    (Binary.finest_lt canonical positive)

theorem value_shortest_of_zero {x : Float} (zero : (Binary.ofBits x.toBits).mantissa = 0) :
    (shortest x).value = 0 := by
  rw [shortest, if_pos zero, Digits.value, Nat.cast_zero, zero_mul]

/-- The shortest digits determine the magnitude. -/
theorem ofBits_eq_of_value_shortest {x y : Float} (same : (shortest x).value = (shortest y).value) :
    Binary.ofBits x.toBits = Binary.ofBits y.toBits := by
  have first := Binary.isCanonical_ofBits x.toBits
  have second := Binary.isCanonical_ofBits y.toBits
  rcases Nat.eq_zero_or_pos (Binary.ofBits x.toBits).mantissa with left | left <;>
    rcases Nat.eq_zero_or_pos (Binary.ofBits y.toBits).mantissa with right | right
  · exact first.eq_of_zero second left right
  · have positive := (admits_shortest right.ne').pos right
    rw [← same, value_shortest_of_zero left] at positive
    exact absurd positive (lt_irrefl 0)
  · have positive := (admits_shortest left.ne').pos left
    rw [same, value_shortest_of_zero right] at positive
    exact absurd positive (lt_irrefl 0)
  · exact first.eq_of_admits second (admits_shortest left.ne') (same ▸ admits_shortest right.ne')

theorem toNat_ofBits (bits : UInt64) :
    bits.toNat % 2 ^ 63 =
      ((Binary.ofBits bits).exponent + 1074).toNat * 2 ^ 52 + (Binary.ofBits bits).mantissa := by
  have biased : (bits >>> 52).toNat = bits.toNat / 2 ^ 52 := by
    rw [UInt64.toNat_shiftRight, Nat.shiftRight_eq_div_pow]
    rfl
  rw [Binary.ofBits]
  split
  · dsimp only
    omega
  · dsimp only
    omega

theorem isNegative_eq (x : Float) : isNegative x = decide (2 ^ 63 ≤ x.toBits.toNat) := by
  have top : (x.toBits >>> 63).toNat = x.toBits.toNat / 2 ^ 63 := by
    rw [UInt64.toNat_shiftRight, Nat.shiftRight_eq_div_pow]
    rfl
  have bound := x.toBits.toNat_lt
  rw [isNegative, Bool.eq_iff_iff, beq_iff_eq, ← UInt64.toNat_inj, top, decide_eq_true_eq]
  simp only [UInt64.reduceToNat]
  omega

/-- Equal bits are one number. -/
theorem toBits_injective {x y : Float} (same : x.toBits = y.toBits) : x = y := by
  obtain ⟨⟨_, _⟩⟩ := x
  obtain ⟨⟨_, _⟩⟩ := y
  cases same
  rfl

/-- A value consists of its sign and its magnitude. -/
theorem eq_of_magnitude {x y : Float} (sign : isNegative x = isNegative y)
    (magnitude : Binary.ofBits x.toBits = Binary.ofBits y.toBits) : x = y := by
  have first := toNat_ofBits x.toBits
  have second := toNat_ofBits y.toBits
  have firstBound := x.toBits.toNat_lt
  have secondBound := y.toBits.toNat_lt
  rw [isNegative_eq, isNegative_eq, decide_eq_decide] at sign
  rw [magnitude] at first
  refine toBits_injective (UInt64.toNat_inj.mp ?_)
  omega

end Harvest.Decimal
