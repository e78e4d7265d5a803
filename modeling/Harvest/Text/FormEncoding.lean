import Harvest.Text.Utf8

/-!
# Form encoding

Bytes as text that can stand for a name in a form: letters, digits and four other characters are
themselves, a blank is a plus, and all other bytes are written in hexadecimal behind a percent
sign.  Reading is more generous than writing: it takes the name of the first of several pairs, and
leaves what is no encoding as it is.
-/

namespace Harvest.FormEncoding

/-- Whether a byte stands for itself. -/
def isPlain (b : UInt8) : Bool :=
  let c := Char.ofNat b.toNat
  b < 0x80 && (c.isAlphanum || c == '*' || c == '-' || c == '.' || c == '_')

/-- The digit for a number below 16. -/
def hexDigit (n : Nat) : Char := (Nat.digitChar n).toUpper

/-- The characters for a byte. -/
def encodeByte (b : UInt8) : List Char :=
  if isPlain b then [Char.ofNat b.toNat]
  else if b == 0x20 then ['+']
  else ['%', hexDigit (b.toNat / 16), hexDigit (b.toNat % 16)]

/-- The encoded text. -/
def encode (s : String) : String :=
  String.ofList ((Bytes.ofString s).flatMap encodeByte)

/-- The value of a digit of a number to the base 16, in either case. -/
def hexValue? (b : UInt8) : Option UInt8 :=
  if 0x30 ≤ b && b ≤ 0x39 then some (b - 0x30)
  else if 0x41 ≤ b && b ≤ 0x46 then some (b - 0x37)
  else if 0x61 ≤ b && b ≤ 0x66 then some (b - 0x57)
  else none

/-- The bytes that encoded ones stand for. -/
def decodeBytes : Bytes → Bytes
  | 0x25 :: a :: b :: rest =>
      match hexValue? a, hexValue? b with
      | some m, some n => (m * 16 + n) :: decodeBytes rest
      | _, _ => 0x25 :: decodeBytes (a :: b :: rest)
  | b :: rest => (if b == 0x2B then 0x20 else b) :: decodeBytes rest
  | [] => []

/-- The name in the first pair of an encoded form that is not empty.  Pairs stand between `&`, and
the name of a pair in front of `=`. -/
def firstName? (form : String) : Option String :=
  match (Bytes.ofString form).dropWhile (· == 0x26) with
  | [] => none
  | pairs => some (Utf8.lossy (decodeBytes (pairs.takeWhile fun b => b != 0x26 && b != 0x3D)))

end Harvest.FormEncoding
