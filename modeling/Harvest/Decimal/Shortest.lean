/-!
# Shortest decimal digits

Every finite binary64 value is `mantissa * 2 ^ exponent`.  The reals that round to it form an
interval, closed exactly if the mantissa is even.  `shortest` looks for the decimal with the
fewest digits in that interval, and among those of that length for the one nearest to the value;
all arithmetic is on natural numbers.
-/

namespace Harvest.Decimal

/-- The number `digits * 10 ^ exponent`. -/
structure Digits where
  digits : Nat
  exponent : Int
  deriving DecidableEq, Repr

/-- A positive binary64 value `mantissa * 2 ^ exponent`; `edge` holds where the neighbour below is
only half as far away as the neighbour above. -/
structure Binary where
  mantissa : Nat
  exponent : Int
  edge : Bool
  deriving DecidableEq, Repr

/-- The magnitude that the bits of a finite binary64 value stand for. -/
def Binary.ofBits (bits : UInt64) : Binary :=
  let biased := (bits >>> 52).toNat % 2048
  let fraction := bits.toNat % 0x10000000000000
  if biased = 0 then ⟨fraction, -1074, false⟩
  else ⟨0x10000000000000 + fraction, (biased : Int) - 1075, fraction = 0 && 1 < biased⟩

/-- The number of decimal digits of `n`; one for zero. -/
def digitCount (n : Nat) : Nat := (Nat.toDigits 10 n).length

/-- The exponent of the leading decimal digit of a positive value: `10 ^ p` is at most the value
and `10 ^ (p + 1)` is greater. -/
def Binary.leading (b : Binary) : Int :=
  let scaled :=
    b.mantissa * Nat.pow 2 b.exponent.toNat * Nat.pow 10 400 / Nat.pow 2 (-b.exponent).toNat
  (digitCount scaled : Int) - 401

/-- The nearest decimal to the value among the multiples of `10 ^ k` in its interval, or none. -/
def Binary.onGrid? (b : Binary) (k : Int) : Option Nat :=
  -- all quantities are in quarters of a unit of the mantissa, scaled to be whole
  let q := b.exponent - 2
  let point := Nat.pow 10 k.toNat * Nat.pow 2 (-q).toNat
  let unit := Nat.pow 10 (-k).toNat * Nat.pow 2 q.toNat
  let value := 4 * b.mantissa * unit
  let low := (4 * b.mantissa - if b.edge then 1 else 2) * unit
  let high := (4 * b.mantissa + 2) * unit
  let closed := b.mantissa % 2 = 0
  let inside (c : Nat) : Bool :=
    if closed then low ≤ c * point && c * point ≤ high
    else low < c * point && c * point < high
  let below := value / point
  let above := below + 1
  let down := value - below * point
  let up := above * point - value
  if inside below then
    if inside above && (up < down || (up == down && below % 2 == 1)) then some above
    else some below
  else if inside above then some above
  else none

/-- Searches the grids from coarse to fine, `left` of them. -/
def Binary.search (b : Binary) (k : Int) : Nat → Digits
  | 0 => ⟨b.mantissa * Nat.pow 2 b.exponent.toNat, 0⟩
  | left + 1 =>
      match b.onGrid? k with
      | some c => if c = 0 then b.search (k - 1) left else ⟨c, k⟩
      | none => b.search (k - 1) left

/-- Moves zeros at the end of the digits into the exponent; `left` bounds their number. -/
def Digits.strip (d : Digits) : Nat → Digits
  | 0 => d
  | left + 1 =>
      if d.digits % 10 = 0 && 0 < d.digits then
        Digits.strip ⟨d.digits / 10, d.exponent + 1⟩ left
      else d

/-- The shortest decimal that rounds to the magnitude of a finite value, nearest to it among those
of its length, without zeros at its end. -/
def shortest (x : Float) : Digits :=
  let b := Binary.ofBits x.toBits
  if b.mantissa = 0 then ⟨0, 0⟩
  else (b.search b.leading 18).strip 20

end Harvest.Decimal
