/-!
# Reading decimal numerals

Two grammars of numerals: whole numbers with an optional sign, within the bounds of 64 bits, and
binary64 numbers with an optional sign, digits around an optional point, and an optional exponent.
Neither allows blanks, grouping or other alphabets of digits.
-/

namespace Harvest.Decimal

/-- The value of a digit from `0` to `9`. -/
def digit? (c : Char) : Option Nat :=
  if '0' ≤ c && c ≤ '9' then some (c.toNat - '0'.toNat) else none

/-- The longest run of digits at the front, appended to the value `acc`; the number of digits, and
what follows. -/
def digitRun (acc count : Nat) : List Char → Nat × Nat × List Char
  | [] => (acc, count, [])
  | c :: cs =>
      match digit? c with
      | some d => digitRun (acc * 10 + d) (count + 1) cs
      | none => (acc, count, c :: cs)

/-- A sign at the front, if any: whether the number is negative, and what follows. -/
def sign : List Char → Bool × List Char
  | '+' :: cs => (false, cs)
  | '-' :: cs => (true, cs)
  | cs => (false, cs)

/-- The value of a list that holds digits only, at least one of them. -/
def natural? (cs : List Char) : Option Nat :=
  match digitRun 0 0 cs with
  | (value, count, []) => if count = 0 then none else some value
  | _ => none

/-- A whole number: an optional sign and at least one digit. -/
def integer? (cs : List Char) : Option Int :=
  let (negative, digits) := sign cs
  (natural? digits).map fun n => if negative then -(n : Int) else n

/-- A whole number from `-2 ^ 63` to `2 ^ 63 - 1`. -/
def int64? (cs : List Char) : Option Int :=
  match integer? cs with
  | some n => if -0x8000000000000000 ≤ n ∧ n < 0x8000000000000000 then some n else none
  | none => none

/-- A whole number from `0` to `2 ^ 64 - 1`, with an optional plus. -/
def unsigned64? (cs : List Char) : Option Nat :=
  let digits := match cs with
    | '+' :: rest => rest
    | _ => cs
  match natural? digits with
  | some n => if n < 0x10000000000000000 then some n else none
  | none => none

/-- The value nearest to `mantissa * 10 ^ exponent`.  Exponents far outside the range of binary64
give zero or infinity at once. -/
def scale (mantissa : Nat) (exponent : Int) : Float :=
  if mantissa = 0 then Float.ofScientific 0 false 0
  else
    let power := exponent + ((Nat.toDigits 10 mantissa).length : Int)
    if 400 < power then Float.ofBits 0x7FF0000000000000
    else if power < -400 then Float.ofScientific 0 false 0
    else if exponent < 0 then Float.ofScientific mantissa true (-exponent).toNat
    else Float.ofScientific mantissa false exponent.toNat

/-- The exponent of a numeral: nothing, or `e` and a whole number. -/
def exponent? : List Char → Option Int
  | [] => some 0
  | c :: cs => if c == 'e' || c == 'E' then integer? cs else none

/-- A numeral without its sign: digits, optionally a point and more digits, optionally an
exponent; at least one digit before the exponent. -/
def magnitude? (cs : List Char) : Option Float :=
  let (whole, wholeCount, rest) := digitRun 0 0 cs
  match rest with
  | '.' :: fraction =>
      let (value, count, rest) := digitRun whole 0 fraction
      if wholeCount + count = 0 then none
      else (exponent? rest).map fun e => scale value (e - count)
  | _ => if wholeCount = 0 then none else (exponent? rest).map (scale whole)

/-- The names of the values that are not finite, in any case. -/
def named? (cs : List Char) : Option Float :=
  match String.ofList (cs.map Char.toLower) with
  | "inf" => some (Float.ofBits 0x7FF0000000000000)
  | "infinity" => some (Float.ofBits 0x7FF0000000000000)
  | "nan" => some (Float.ofBits 0x7FF8000000000000)
  | _ => none

/-- A binary64 number: an optional sign, then a numeral or the name of a value that is not finite. -/
def float? (cs : List Char) : Option Float :=
  let (negative, rest) := sign cs
  (magnitude? rest <|> named? rest).map fun x => if negative then -x else x

end Harvest.Decimal
