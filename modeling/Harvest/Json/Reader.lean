import Harvest.Decimal.Reader
import Harvest.Json.Basic
import Harvest.Text.Digit

/-!
# Reading JSON

`Json.parse?` reads exactly one value with blanks around it.  Numbers that are written without a
point and an exponent and fit 64 bits are whole; a string in which a surrogate lacks its partner
is read as `unpaired`, so that whoever needs the text can refuse it and whoever skips the value
need not care.
-/

namespace Harvest.Json

/-- The blanks between the tokens of JSON. -/
def skipBlank : List Char → List Char
  | c :: cs => if c == ' ' || c == '\n' || c == '\t' || c == '\r' then skipBlank cs else c :: cs
  | [] => []

/-- The number written by four hexadecimal digits. -/
def hex4? (a b c d : Char) : Option Nat := Text.number? 16 [a, b, c, d]

/-- The character that a backslash and `c` stand for. -/
def unescape? (c : Char) : Option Char :=
  match c with
  | '"' => some '"'
  | '\\' => some '\\'
  | '/' => some '/'
  | 'b' => some '\x08'
  | 'f' => some '\x0c'
  | 'n' => some '\n'
  | 'r' => some '\r'
  | 't' => some '\t'
  | _ => none

/-- Whether a number is the first half of a surrogate pair. -/
def isHighSurrogate (n : Nat) : Bool := 0xD800 ≤ n && n < 0xDC00

/-- Whether a number is the second half of a surrogate pair. -/
def isLowSurrogate (n : Nat) : Bool := 0xDC00 ≤ n && n < 0xE000

/-- Reads a string from behind its opening quote to behind its closing one.  So far `read` holds
the characters backwards, `sound` tells that every surrogate had its partner, and `high` is a first
half just read that waits for its second. -/
def string? (read : List Char) (sound : Bool) (high : Option Nat) :
    List Char → Option (Option String × List Char)
  | [] => none
  | '"' :: cs =>
      some (if sound && high.isNone then some (String.ofList read.reverse) else none, cs)
  | '\\' :: 'u' :: a :: b :: c :: d :: cs =>
      match hex4? a b c d with
      | none => none
      | some n =>
          if isHighSurrogate n then string? read (sound && high.isNone) (some n) cs
          else if isLowSurrogate n then
            match high with
            | some m =>
                let c := Char.ofNat (0x10000 + (m - 0xD800) * 0x400 + (n - 0xDC00))
                string? (c :: read) sound none cs
            | none => string? read false none cs
          else string? (Char.ofNat n :: read) (sound && high.isNone) none cs
  | '\\' :: c :: cs =>
      match unescape? c with
      | some d => string? (d :: read) (sound && high.isNone) none cs
      | none => none
  | c :: cs =>
      if c.toNat < 0x20 || c == '\\' then none
      else string? (c :: read) (sound && high.isNone) none cs

/-- Reads the digits of a fraction or exponent: at least one. -/
def digits? (cs : List Char) : Option (List Char) :=
  match Decimal.digitRun 0 0 cs with
  | (_, count, rest) => if count = 0 then none else some rest

/-- What follows the fraction of a number, and whether there is one. -/
def fraction? : List Char → Option (Bool × List Char)
  | '.' :: cs => (digits? cs).map fun rest => (true, rest)
  | cs => some (false, cs)

/-- What follows the exponent of a number, and whether there is one. -/
def exponent? : List Char → Option (Bool × List Char)
  | c :: cs =>
      if c == 'e' || c == 'E' then
        (digits? (Decimal.sign cs).2).map fun rest => (true, rest)
      else some (false, c :: cs)
  | [] => some (false, [])

/-- What follows the whole part of a number: a zero alone, or digits that do not begin with one. -/
def whole? : List Char → Option (List Char)
  | '0' :: cs =>
      match cs with
      | c :: _ => if (Decimal.digit? c).isSome then none else some cs
      | [] => some []
  | cs => digits? cs

/-- Reads a number.  One without fraction and exponent is a whole number if 64 bits hold it; minus
zero is not whole. -/
def number? (cs : List Char) : Option (Json × List Char) := do
  let unsigned := match cs with
    | '-' :: rest => rest
    | _ => cs
  let rest ← whole? unsigned
  let (hasFraction, rest) ← fraction? rest
  let (hasExponent, rest) ← exponent? rest
  let written := cs.take (cs.length - rest.length)
  match Decimal.integer? written with
  | some n =>
      let isMinusZero := n = 0 && written.head? = some '-'
      let isWord := -0x8000000000000000 ≤ n && n < 0x10000000000000000
      if !hasFraction && !hasExponent && !isMinusZero && isWord then return (int n, rest)
      else return (float ((Decimal.float? written).getD 0), rest)
  | none => return (float ((Decimal.float? written).getD 0), rest)

/-- What follows the characters of `word`, if the text begins with them. -/
def word? : List Char → List Char → Option (List Char)
  | [], cs => some cs
  | w :: ws, c :: cs => if w = c then word? ws cs else none
  | _ :: _, [] => none

mutual

/-- Reads a value; `fuel` bounds the number of nested steps. -/
def value? : Nat → List Char → Option (Json × List Char)
  | 0, _ => none
  | fuel + 1, cs =>
      match skipBlank cs with
      | 'n' :: rest => (word? "ull".toList rest).map fun rest => (null, rest)
      | 't' :: rest => (word? "rue".toList rest).map fun rest => (bool true, rest)
      | 'f' :: rest => (word? "alse".toList rest).map fun rest => (bool false, rest)
      | '"' :: rest =>
          (string? [] true none rest).map fun (s?, rest) => ((s?.map text).getD unpaired, rest)
      | '[' :: rest =>
          match skipBlank rest with
          | ']' :: rest => some (array [], rest)
          | rest => items? fuel [] rest
      | '\x7b' :: rest =>
          match skipBlank rest with
          | '\x7d' :: rest => some (object [], rest)
          | rest => members? fuel [] true rest
      | rest => number? rest

/-- Reads the items of an array from the first or from behind a comma; `read` holds the items so
far backwards. -/
def items? : Nat → List Json → List Char → Option (Json × List Char)
  | 0, _, _ => none
  | fuel + 1, read, cs =>
      match value? fuel cs with
      | none => none
      | some (v, rest) =>
          match skipBlank rest with
          | ',' :: rest => items? fuel (v :: read) rest
          | ']' :: rest => some (array (v :: read).reverse, rest)
          | _ => none

/-- Reads the members of an object from the first or from behind a comma; `read` holds the members
so far backwards, and `sound` tells that all their names are texts. -/
def members? : Nat → List (String × Json) → Bool → List Char → Option (Json × List Char)
  | 0, _, _, _ => none
  | fuel + 1, read, sound, cs =>
      match skipBlank cs with
      | '"' :: rest =>
          match string? [] true none rest with
          | none => none
          | some (name?, rest) =>
              match skipBlank rest with
              | ':' :: rest =>
                  match value? fuel rest with
                  | none => none
                  | some (v, rest) =>
                      let read := (name?.getD "", v) :: read
                      let sound := sound && name?.isSome
                      match skipBlank rest with
                      | ',' :: rest => members? fuel read sound rest
                      | '\x7d' :: rest =>
                          some (if sound then object read.reverse else unpaired, rest)
                      | _ => none
              | _ => none
      | _ => none

end

/-- The value that a text holds, if it holds exactly one. -/
def parse? (s : String) : Option Json :=
  let cs := s.toList
  match value? (2 * cs.length + 2) cs with
  | some (v, rest) => if (skipBlank rest).isEmpty then some v else none
  | none => none

end Harvest.Json
