/-!
# Bytes and UTF-8

A page is a sequence of bytes before it is a text.  `Utf8.head` reads the first character of a
byte sequence, or says how many bytes at its front belong to no character; everything else about
the encoding is built from that step.
-/

namespace Harvest

/-- A sequence of bytes. -/
abbrev Bytes := List UInt8

namespace Utf8

/-- The number of bytes of a character whose first byte is `lead`, if there is one. -/
def length? (lead : UInt8) : Option Nat :=
  if lead < 0x80 then some 1
  else if lead < 0xC2 then none
  else if lead < 0xE0 then some 2
  else if lead < 0xF0 then some 3
  else if lead < 0xF5 then some 4
  else none

/-- Whether `b` continues a character. -/
def isTail (b : UInt8) : Bool := 0x80 ≤ b && b ≤ 0xBF

/-- Whether `b` may be the second byte after `lead`: overlong forms, surrogates and values above
the last code point are excluded here. -/
def admitsSecond (lead b : UInt8) : Bool :=
  isTail b &&
    (if lead == 0xE0 then 0xA0 ≤ b
     else if lead == 0xED then b ≤ 0x9F
     else if lead == 0xF0 then 0x90 ≤ b
     else if lead == 0xF4 then b ≤ 0x8F
     else true)

/-- The six low bits of a continuing byte. -/
def payload (b : UInt8) : Nat := b.toNat % 64

/-- What stands at the front of a byte sequence: a character, or bytes that belong to none; in
both cases with the number of bytes covered. -/
inductive Head where
  | char (c : Char) (width : Nat)
  | ill (width : Nat)
  deriving DecidableEq, Repr

/-- The front of the sequence `lead :: rest`. -/
def head (lead : UInt8) (rest : Bytes) : Head :=
  match length? lead, rest with
  | none, _ => .ill 1
  | some 1, _ => .char (Char.ofNat lead.toNat) 1
  | some _, [] => .ill 1
  | some 2, b :: _ =>
      if admitsSecond lead b then
        .char (Char.ofNat (lead.toNat % 32 * 64 + payload b)) 2
      else .ill 1
  | some 3, b :: rest =>
      if admitsSecond lead b then
        match rest with
        | c :: _ =>
            if isTail c then
              .char (Char.ofNat ((lead.toNat % 16 * 64 + payload b) * 64 + payload c)) 3
            else .ill 2
        | [] => .ill 2
      else .ill 1
  | some _, b :: rest =>
      if admitsSecond lead b then
        match rest with
        | c :: d :: _ =>
            if isTail c then
              if isTail d then
                .char (Char.ofNat
                  (((lead.toNat % 8 * 64 + payload b) * 64 + payload c) * 64 + payload d)) 4
              else .ill 3
            else .ill 2
        | [c] => if isTail c then .ill 3 else .ill 2
        | [] => .ill 2
      else .ill 1

/-- The encoding of a code point. -/
def encode (n : Nat) : Bytes :=
  let tail (k : Nat) : UInt8 := (0x80 + n / k % 64).toUInt8
  if n < 0x80 then [n.toUInt8]
  else if n < 0x800 then [(0xC0 + n / 64).toUInt8, tail 1]
  else if n < 0x10000 then [(0xE0 + n / 4096).toUInt8, tail 64, tail 1]
  else [(0xF0 + n / 262144).toUInt8, tail 4096, tail 64, tail 1]

/-- The characters of a byte sequence, `skip` bytes of which are already accounted for; bytes that
belong to no character are shown as U+FFFD, one for each run that a character could begin with. -/
def lossyChars : Bytes → Nat → List Char
  | [], _ => []
  | _ :: bs, skip + 1 => lossyChars bs skip
  | b :: bs, 0 =>
      match head b bs with
      | .char c width => c :: lossyChars bs (width - 1)
      | .ill width => Char.ofNat 0xFFFD :: lossyChars bs (width - 1)

/-- The text that a byte sequence stands for, with U+FFFD in place of ill-formed parts. -/
def lossy (bytes : Bytes) : String :=
  String.ofList (lossyChars bytes 0)

end Utf8

namespace Bytes

/-- The encoding of a text. -/
def ofString (s : String) : Bytes := s.toUTF8.data.toList

/-- The text that the bytes encode, if they are well formed. -/
def text? (bytes : Bytes) : Option String :=
  String.fromUTF8? ⟨bytes.toArray⟩

end Bytes

end Harvest
