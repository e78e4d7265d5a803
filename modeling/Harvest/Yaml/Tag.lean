import Harvest.Text.Digit
import Harvest.Text.Utf8

/-!
# Tags of YAML

A tag is a sequence of bytes.  It is written in characters, and any byte of it may be written in
hexadecimal behind a percent sign.  Most tags say nothing about a definition; this module tells
apart those that do.
-/

namespace Harvest.Yaml

/-- What the tag of a node says about it. -/
inductive Tag where
  /-- The node is a truth value. -/
  | truth
  /-- The node is a number. -/
  | number
  /-- The node says that there is nothing. -/
  | nothing
  /-- The tag has a meaning that only the text itself knows. -/
  | own
  | other
  deriving DecidableEq, Repr

namespace Tag

/-- The bytes that follow the first byte of a character written in hexadecimal. -/
def tailLength? (lead : UInt8) : Option Nat :=
  if lead < 0x80 then some 0
  else if lead < 0xC0 then none
  else if lead < 0xE0 then some 1
  else if lead < 0xF0 then some 2
  else if lead < 0xF8 then some 3
  else none

/-- The byte that two hexadecimal digits write. -/
def octet? (a b : Char) : Option UInt8 := do
  return UInt8.ofNat ((← Text.hexValue? a) * 16 + (← Text.hexValue? b))

/-- The bytes that characters write, of which the first `missing` have to be the rest of a
character in hexadecimal. -/
def bytes? (missing : Nat) : List Char → Option Bytes
  | '%' :: a :: b :: cs => do
      let octet ← octet? a b
      match missing with
      | 0 => return octet :: (← bytes? (← tailLength? octet) cs)
      | missing + 1 => if Utf8.isTail octet then return octet :: (← bytes? missing cs) else none
  | c :: cs =>
      if missing = 0 && c ≠ '%' then do return UInt8.ofNat c.toNat :: (← bytes? 0 cs) else none
  | [] => if missing = 0 then some [] else none

/-- The bytes that a part of a tag writes, up to a zero byte. -/
def part? (cs : List Char) : Option Bytes := (bytes? 0 cs).map (·.takeWhile (· ≠ 0))

/-- The bytes of the tag that leaves open what a node is. -/
def openBytes : Bytes := [0x21]

/-- The tags of the common types. -/
def common : List (Bytes × Tag) :=
  [("bool", truth), ("int", number), ("float", number), ("null", nothing)].map fun (name, tag) =>
    (Bytes.ofString ("tag:yaml.org,2002:" ++ name), tag)

/-- What the tag with some bytes says. -/
def ofBytes (bytes : Bytes) : Tag :=
  match bytes with
  | 0x21 :: rest => if (Bytes.text? rest).isSome then own else other
  | _ => (common.lookup bytes).getD other

end Tag

end Harvest.Yaml
