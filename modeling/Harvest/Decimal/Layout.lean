import Harvest.Decimal.Shortest

/-!
# Written forms of a number

A `Layout` says how digits become text: between which powers of ten the decimal point is written
in its place, whether a whole number shows a zero after the point, and how an exponent looks.
The three layouts of the library are the plain one of extracted values and number strings, the
one of token names in error messages, and the one of JSON.
-/

namespace Harvest.Decimal

/-- How the digits of a number are laid out. -/
structure Layout where
  /-- The number is positional if its leading digit stands for at least this power of ten. -/
  least : Int
  /-- The number is positional if its leading digit stands for a power of ten below this. -/
  bound : Int
  /-- A positional whole number ends in a point and a zero. -/
  pointZero : Bool
  /-- A positive exponent has a sign. -/
  plus : Bool
  nan : String
  infinity : String
  minusInfinity : String

/-- The positional form of `digits * 10 ^ exponent`. -/
def positional (pointZero : Bool) (d : Digits) : String :=
  let text := (Nat.toDigits 10 d.digits)
  let whole := if pointZero then ".0" else ""
  if 0 ≤ d.exponent then
    String.ofList (text ++ List.replicate d.exponent.toNat '0') ++ whole
  else
    let places := (-d.exponent).toNat
    if places < text.length then
      String.ofList (text.take (text.length - places)) ++ "." ++
        String.ofList (text.drop (text.length - places))
    else
      "0." ++ String.ofList (List.replicate (places - text.length) '0' ++ text)

/-- The form with one digit before the point and a power of ten after an `e`. -/
def scientific (plus : Bool) (d : Digits) : String :=
  let text := Nat.toDigits 10 d.digits
  let power := d.exponent + (text.length : Int) - 1
  let mantissa :=
    match text with
    | [] => ""
    | [c] => String.ofList [c]
    | c :: cs => String.ofList (c :: '.' :: cs)
  let sign := if 0 ≤ power then (if plus then "+" else "") else "-"
  mantissa ++ "e" ++ sign ++ toString power.natAbs

/-- Whether the sign bit is set. -/
def isNegative (x : Float) : Bool := x.toBits >>> 63 == 1

/-- The text of a number under a layout: its sign, then its shortest digits. -/
def Layout.write (layout : Layout) (x : Float) : String :=
  if x.isNaN then layout.nan
  else if x.isInf then if isNegative x then layout.minusInfinity else layout.infinity
  else
    let d := shortest x
    let power := d.exponent + (digitCount d.digits : Int) - 1
    let sign := if isNegative x then "-" else ""
    if d.digits = 0 || (layout.least ≤ power && power < layout.bound) then
      sign ++ positional layout.pointZero d
    else sign ++ scientific layout.plus d

/-- Always positional, and a whole number without a point. -/
def plain : Layout where
  least := -1000
  bound := 1000
  pointZero := false
  plus := false
  nan := "NaN"
  infinity := "inf"
  minusInfinity := "-inf"

/-- Positional from `1e-4` up to `1e16`, and a whole number ends in `.0`. -/
def pointed : Layout :=
  { plain with least := -4, bound := 16, pointZero := true }

/-- The numbers of JSON: positional from `1e-5` up to `1e16`, a whole number ends in `.0`, a
positive exponent has its sign, and what is not finite is null. -/
def json : Layout where
  least := -5
  bound := 16
  pointZero := true
  plus := true
  nan := "null"
  infinity := "null"
  minusInfinity := "null"

end Harvest.Decimal
