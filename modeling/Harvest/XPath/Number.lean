import Harvest.Decimal.Layout
import Harvest.Decimal.Reader
import Harvest.Text.Blank

/-!
# Numbers in expressions

The conversions between numbers and strings, and the operations that binary64 does not have of
itself: the remainder with the sign of the dividend, and rounding with halves upward.
-/

namespace Harvest.XPath.Number

def nan : Float := Float.ofBits 0x7FF8000000000000

def infinity : Float := Float.ofBits 0x7FF0000000000000

def negativeZero : Float := Float.ofBits 0x8000000000000000

/-- The number that a string writes: blanks, an optional minus, digits with at most one point
among or beside them, blanks; and what is not a number for every other string. -/
def ofString (s : String) : Float :=
  let cs := Text.trimChars s.toList
  let digits := match cs with
    | '-' :: rest => rest
    | _ => cs
  if digits.all (fun c => c.isDigit || c == '.') then (Decimal.float? cs).getD nan else nan

/-- The string of a number: its shortest digits, without an exponent; both zeros are `0`. -/
def toString (x : Float) : String :=
  if x.isNaN then "NaN"
  else if x.isInf then if 0 < x then "Infinity" else "-Infinity"
  else if x == 0 then "0"
  else Decimal.plain.write x

/-- The value `n * 2 ^ e`, where binary64 has it exactly. -/
def ofBinary (n : Nat) (e : Int) : Float :=
  if n = 0 then 0
  else
    -- the exponent of the last of 53 places, but none below that of the least subnormal
    let last := max (e + n.log2 - 52) (-1074)
    let mantissa := n * Nat.pow 2 (e - last).toNat / Nat.pow 2 (last - e).toNat
    if mantissa < 0x10000000000000 then Float.ofBits mantissa.toUInt64
    else
      Float.ofBits
        ((last + 1075).toNat * 0x10000000000000 + (mantissa - 0x10000000000000)).toUInt64

/-- The remainder of the division that rounds toward zero, exactly; it has the sign of `x`. -/
def remainder (x y : Float) : Float :=
  if x.isNaN || y.isNaN || x.isInf || y == 0 then nan
  else if y.isInf || x == 0 then x
  else
    let a := Decimal.Binary.ofBits x.toBits
    let b := Decimal.Binary.ofBits y.toBits
    let e := min a.exponent b.exponent
    let m := a.mantissa * Nat.pow 2 (a.exponent - e).toNat
    let n := b.mantissa * Nat.pow 2 (b.exponent - e).toNat
    let r := ofBinary (m % n) e
    if Decimal.isNegative x then -r else r

/-- The nearest whole number, halves upward. -/
def round (x : Float) : Float := if x.isFinite then (x + 0.5).floor else x

end Harvest.XPath.Number
